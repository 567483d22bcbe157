import Mathlib
import Agroasys.ServiceAuth.Middleware

namespace Agroasys.ServiceAuth

open Agroasys.Foundation Agroasys.Runtime

section Hex

/-- A digit that `digest('hex')` writes. -/
def LowerHex (char : Char) : Prop :=
  48 ≤ char.toNat ∧ char.toNat ≤ 57 ∨ 97 ≤ char.toNat ∧ char.toNat ≤ 102

def isHexChar (char : Char) : Bool := char.isDigit || (97 ≤ char.toNat && char.toNat ≤ 102)

theorem HexDigest.ofList {chars : List Char} (length : chars.length = 64) (digits : chars.all isHexChar = true) :
    HexDigest (String.ofList chars) := by
  refine ⟨by rw [String.toList_ofList, length], ?_⟩
  rw [String.toList_ofList]
  intro char member
  have checked := List.all_eq_true.mp digits char member
  unfold isHexChar at checked
  rw [Bool.or_eq_true, Bool.and_eq_true, decide_eq_true_eq, decide_eq_true_eq] at checked
  exact checked

theorem HexDigest.range (hex : HexDigest text) (member : char ∈ text.toList) : LowerHex char := by
  rcases hex.digits char member with digit | ⟨low, high⟩
  · have bounds := Char.isDigit_iff_toNat.mp digit
    exact .inl bounds
  · exact .inr ⟨low, high⟩

theorem HexDigest.trimmed (hex : HexDigest text) : trim text = text := by
  have clean : ∀ char ∈ text.toList, isSpace char = false := by
    intro char member
    have range := hex.range member
    unfold LowerHex at range
    simp [isSpace]
    omega
  apply trim_fixed
  · exact fun char first => clean char (List.mem_of_mem_head? first)
  · exact fun char last => clean char (List.mem_of_mem_getLast? last)

private theorem HexDigest.lowered (hex : HexDigest text) : toLowerCase text = text := by
  have fixed : ∀ char ∈ text.toList, char.toLower = char := by
    intro char member
    have range := hex.range member
    unfold LowerHex at range
    have small : ¬ (char.val ≥ 'A'.val ∧ char.val ≤ 'Z'.val) := by
      simp only [ge_iff_le, UInt32.le_iff_toNat_le, Char.toNat_val]
      have first : 'A'.toNat = 65 := rfl
      have last : 'Z'.toNat = 90 := rfl
      omega
    rw [Char.toLower, dif_neg small]
  unfold toLowerCase
  rw [List.map_congr_left fixed, List.map_id', String.ofList_toList]

/-- The value of a digit that `digest('hex')` writes. -/
def lowerValue (char : Char) : Nat := if char.toNat ≤ 57 then char.toNat - 48 else char.toNat - 87

theorem hexValue_lower {char : Char} (range : LowerHex char) : hexValue char = some (lowerValue char) := by
  have nine : '9'.toNat = 57 := rfl
  have first : 'a'.toNat = 97 := rfl
  unfold hexValue lowerValue
  rcases range with digit | letter
  · rw [if_pos (Char.isDigit_iff_toNat.mpr digit), if_pos digit.2]
    rfl
  · have other : ¬ char.isDigit = true := by
      rw [Char.isDigit_iff_toNat]
      omega
    have among : ('a' ≤ char && char ≤ 'f') = true := by
      simp only [Bool.and_eq_true, decide_eq_true_eq]
      exact letter
    rw [if_neg other, if_pos among, if_neg (by omega), first]
    congr 1
    omega

theorem lowerValue_lt {char : Char} (range : LowerHex char) : lowerValue char < 16 := by
  unfold LowerHex at range
  unfold lowerValue
  split <;> omega

theorem lowerValue_inj {first second : Char} (range : LowerHex first) (range' : LowerHex second)
    (same : lowerValue first = lowerValue second) : first = second := by
  apply Char.toNat_inj.mp
  unfold LowerHex at range range'
  unfold lowerValue at same
  split at same <;> split at same <;> omega

private theorem decodeHex_eq : (first second : List Char) → first.length = second.length → first.length % 2 = 0 →
    (∀ char ∈ first, LowerHex char) → (∀ char ∈ second, LowerHex char) →
    decodeHex first = decodeHex second → first = second
  | [], [], _, _, _, _, _ => rfl
  | high :: low :: first, high' :: low' :: second, same, even, ranges, ranges', decoded => by
    simp only [List.forall_mem_cons] at ranges ranges'
    obtain ⟨upper, lower, rest⟩ := ranges
    obtain ⟨upper', lower', rest'⟩ := ranges'
    simp only [decodeHex, hexValue_lower upper, hexValue_lower lower, hexValue_lower upper', hexValue_lower lower',
      List.cons.injEq] at decoded
    have bound := lowerValue_lt lower
    have bound' := lowerValue_lt lower'
    have highs : high = high' := lowerValue_inj upper upper' (by omega)
    have lows : low = low' := lowerValue_inj lower lower' (by omega)
    have shorter : first.length % 2 = 0 := by
      rw [List.length_cons, List.length_cons] at even
      omega
    rw [highs, lows, decodeHex_eq first second (by simpa using same) shorter rest rest' decoded.2]

/-- A signature that equals two digests makes them one. -/
theorem timingSafeHexEquals_unique (hex : HexDigest first) (hex' : HexDigest second)
    (same : toLowerCase (trim given) = toLowerCase (trim given'))
    (equal : timingSafeHexEquals given first = true) (equal' : timingSafeHexEquals given' second = true) :
    first = second := by
  unfold timingSafeHexEquals at equal equal'
  rw [hex.trimmed, hex.lowered] at equal
  rw [hex'.trimmed, hex'.lowered, ← same] at equal'
  simp only [Bool.if_false_left, Bool.and_eq_true, decide_eq_true_eq] at equal equal'
  have decoded := equal.2.2.symm.trans equal'.2.2
  apply String.toList_injective
  apply decodeHex_eq _ _ (hex.length.trans hex'.length.symm)
  · rw [hex.length]
  · exact fun char => hex.range
  · exact fun char => hex'.range
  · exact decoded

theorem timingSafeHexEquals_self (hex : HexDigest text) : timingSafeHexEquals text text = true := by
  have valid : isSignatureHex text = true := by
    unfold isSignatureHex
    rw [Bool.and_eq_true, decide_eq_true_eq, List.all_eq_true]
    refine ⟨hex.length, ?_⟩
    intro char member
    rw [hexValue_lower (hex.range member)]
    rfl
  unfold timingSafeHexEquals
  simp [hex.trimmed, hex.lowered, valid]

theorem HexDigest.given (hex : HexDigest text) : text ≠ "" := by
  rintro rfl
  have length := hex.length
  simp at length

/-- A digest passes for a nonce. -/
theorem HexDigest.nonce (hex : HexDigest text) : trim text ≠ "" ∧ utf16Length text ≤ nonceMaxLength := by
  rw [hex.trimmed]
  refine ⟨hex.given, ?_⟩
  have units := utf16Length_le text
  rw [hex.length] at units
  exact Nat.le_trans units (by decide)

private theorem deriveNonce_eq (crypto : Crypto) (method path query bodySha256 timestamp : String) :
    deriveNonce crypto method path query bodySha256 timestamp =
      crypto.sha256 ("\n".intercalate [method, path, query, bodySha256, timestamp]).toUTF8 := by
  unfold deriveNonce
  dsimp only
  rw [List.take_of_length_le, String.ofList_toList]
  rw [(crypto.sha256Hex _).length]
  decide

end Hex

section Headers

theorem firstHeader_first (given : req.header headerName = some value) (trimmed : trim value = value)
    (filled : value ≠ "") : firstHeader req (headerName :: headerNames) = some value := by
  unfold firstHeader
  rw [given]
  dsimp only
  rw [trimmed, if_pos ⟨filled, filled⟩]

theorem firstHeader_next (absent : req.header headerName = none) :
    firstHeader req (headerName :: headerNames) = firstHeader req headerNames := by
  rw [firstHeader, absent]

end Headers

/-- What the middleware knows of a request it lets through to the nonce store. -/
structure Authentic (crypto : Crypto) (config : ServiceAuthConfig) (now : Nat) (req : Request)
    (timestamp : String) (authentication : Authentication) : Prop where
  stamped : firstHeader req timestampHeaders = some timestamp
  signature : firstHeader req signatureHeaders = some authentication.signature
  fresh : checkTimestamp config.authMaxSkewSeconds now timestamp = .ok ()
  principal : resolvePrincipal config (firstHeader req ["X-Api-Key"]) = some authentication.principal
  active : authentication.principal.active = true
  parts : authentication.parts = canonicalParts crypto req timestamp
  nonce : trim authentication.parts.nonce ≠ "" ∧ utf16Length authentication.parts.nonce ≤ nonceMaxLength
  signed : timingSafeHexEquals authentication.signature (signServiceAuthCanonicalString crypto
    authentication.principal.secret (buildServiceAuthCanonicalString authentication.parts)) = true

theorem authenticate_eq_ok {crypto : Crypto} {config : ServiceAuthConfig} {req : Request} :
    authenticate crypto config now req = .ok authentication ↔
      ∃ timestamp, Authentic crypto config now req timestamp authentication := by
  constructor
  · intro accepted
    unfold authenticate at accepted
    split at accepted
    · rename_i timestamp signature given given'
      obtain ⟨_, fresh, rest⟩ := bind_eq_ok.mp accepted
      split at rest
      · cases rest
      · rename_i principal resolved
        dsimp only at rest
        split at rest
        · cases rest
        · rename_i active
          split at rest
          · cases rest
          · rename_i nonce
            split at rest
            · cases rest
            · rename_i signed
              cases rest
              rw [not_or, Nat.not_lt] at nonce
              exact ⟨timestamp, given, given', fresh, resolved, Bool.not_eq_false _ ▸ active, rfl, nonce,
                Bool.not_eq_false _ ▸ signed⟩
    · cases accepted
  · rintro ⟨timestamp, authentic⟩
    obtain ⟨principal, parts, signature⟩ := authentication
    obtain ⟨given, given', fresh, resolved, active, same, nonce, signed⟩ := authentic
    dsimp only at *
    subst same
    unfold authenticate
    rw [given, given']
    dsimp only
    rw [fresh]
    simp only [bind, Except.bind, resolved, active, signed]
    rw [if_neg (by simp), if_neg (by simp [nonce]), if_neg (by simp)]

section Canonical

/-- No line ends in a text. -/
def OneLine (text : String) : Prop := '\n' ∉ text.toList

private theorem HexDigest.oneLine (hex : HexDigest text) : OneLine text := by
  intro member
  have range := hex.range member
  have code : '\n'.toNat = 10 := rfl
  unfold LowerHex at range
  omega

private theorem oneLine_toUpper (plain : OneLine text) : OneLine text.toUpper := by
  unfold OneLine String.toUpper
  rw [String.toList_map, List.mem_map]
  rintro ⟨char, member, same⟩
  unfold Char.toUpper at same
  split at same
  · rename_i lower
    have codes := congrArg Char.toNat same
    simp only [UInt32.le_iff_toNat_le] at lower
    have first : 'a'.val.toNat = 97 := rfl
    have last : 'z'.val.toNat = 122 := rfl
    have code : '\n'.toNat = 10 := rfl
    have offset : ('A'.val - 'a'.val).toNat = 4294967264 := rfl
    rw [code] at codes
    simp only [Char.toNat, UInt32.toNat_add] at codes
    omega
  · subst same
    exact plain member

private theorem oneLine_path (plain : OneLine req.originalUrl) :
    OneLine (requestPathAndQuery req).1 ∧ OneLine (requestPathAndQuery req).2 := by
  have whole : req.originalUrl.toList.takeWhile (· ≠ '?') ++ req.originalUrl.toList.dropWhile (· ≠ '?') =
      req.originalUrl.toList := List.takeWhile_append_dropWhile
  unfold requestPathAndQuery
  rw [List.span_eq_takeWhile_dropWhile]
  unfold OneLine at plain ⊢
  rw [← whole, List.mem_append, not_or] at plain
  split
  · rename_i path first query same
    obtain ⟨rfl, rest⟩ := Prod.mk.inj same
    rw [String.toList_ofList, String.toList_ofList]
    rw [rest] at plain
    exact ⟨plain.1, fun member => plain.2 (List.mem_cons_of_mem _ member)⟩
  · rename_i rest
    rw [← whole, List.mem_append, not_or]
    exact ⟨plain, nofun⟩

/-- A timestamp that is checked has only digits. -/
theorem oneLine_timestamp (fresh : checkTimestamp maxSkewSeconds now timestamp = .ok ()) : OneLine timestamp := by
  unfold checkTimestamp at fresh
  split at fresh
  · cases fresh
  · rename_i valid
    rw [not_or, not_not, List.all_eq_true] at valid
    intro member
    exact absurd (valid.2 _ member) (by decide)

/-- The first line of a text is what stands before its end. -/
theorem line_first (plain : OneLine first) (rest : String) :
    (first ++ "\n" ++ rest).toList.takeWhile (· ≠ '\n') = first.toList := by
  have inside : ∀ char ∈ first.toList, decide (char ≠ '\n') = true := by
    intro char member
    apply decide_eq_true
    intro same
    subst same
    exact plain member
  have newline : "\n".toList = ['\n'] := by decide
  rw [String.toList_append, String.toList_append, List.append_assoc, List.takeWhile_append_of_pos inside, newline]
  simp

/-- The first line of a text tells what it is and what follows. -/
theorem line_cut {first second rest rest' : String} (plain : OneLine first) (plain' : OneLine second)
    (same : first ++ "\n" ++ rest = second ++ "\n" ++ rest') : first = second ∧ rest = rest' := by
  have lines : first = second := by
    apply String.toList_injective
    rw [← line_first plain rest, same, line_first plain' rest']
  subst lines
  have lists := congrArg String.toList same
  simp only [String.toList_append, List.append_assoc] at lists
  exact ⟨rfl, String.toList_injective (List.append_cancel_left (List.append_cancel_left lists))⟩

/-- Only the nonce, which comes last, may have lines. -/
theorem canonicalString_inj {parts parts' : CanonicalRequestParts}
    (plain : OneLine parts.method ∧ OneLine parts.path ∧ OneLine parts.query ∧ OneLine parts.bodySha256 ∧
      OneLine parts.timestamp)
    (plain' : OneLine parts'.method ∧ OneLine parts'.path ∧ OneLine parts'.query ∧ OneLine parts'.bodySha256 ∧
      OneLine parts'.timestamp)
    (same : buildServiceAuthCanonicalString parts = buildServiceAuthCanonicalString parts') : parts = parts' := by
  obtain ⟨method, path, query, bodySha256, timestamp, nonce⟩ := parts
  obtain ⟨method', path', query', bodySha256', timestamp', nonce'⟩ := parts'
  dsimp only at plain plain'
  unfold buildServiceAuthCanonicalString at same
  simp only [String.intercalate_cons_cons, String.intercalate_singleton] at same
  obtain ⟨methods, afterMethod⟩ := line_cut plain.1 plain'.1 same
  obtain ⟨paths, afterPath⟩ := line_cut plain.2.1 plain'.2.1 afterMethod
  obtain ⟨queries, afterQuery⟩ := line_cut plain.2.2.1 plain'.2.2.1 afterPath
  obtain ⟨bodies, afterBody⟩ := line_cut plain.2.2.2.1 plain'.2.2.2.1 afterQuery
  obtain ⟨timestamps, nonces⟩ := line_cut plain.2.2.2.2 plain'.2.2.2.2 afterBody
  rw [methods, paths, queries, bodies, timestamps, nonces]

end Canonical

section Binding

variable {crypto : Crypto} {config config' : ServiceAuthConfig} {first second : Request}
  {authentication authentication' : Authentication}

private theorem Authentic.oneLine (authentic : Authentic crypto config now req timestamp authentication)
    (plain : OneLine req.method) (plain' : OneLine req.originalUrl) :
    OneLine authentication.parts.method ∧ OneLine authentication.parts.path ∧ OneLine authentication.parts.query ∧
      OneLine authentication.parts.bodySha256 ∧ OneLine authentication.parts.timestamp := by
  rw [authentic.parts]
  exact ⟨oneLine_toUpper plain, (oneLine_path plain').1, (oneLine_path plain').2, (crypto.sha256Hex _).oneLine,
    oneLine_timestamp authentic.fresh⟩

/-- Requests that are accepted with one signature under one secret are one in all that is signed. -/
theorem signature_binds (accepted : authenticate crypto config now first = .ok authentication)
    (accepted' : authenticate crypto config' now' second = .ok authentication')
    (secret : authentication.principal.secret = authentication'.principal.secret)
    (signature : toLowerCase (trim authentication.signature) = toLowerCase (trim authentication'.signature))
    (plain : OneLine first.method ∧ OneLine first.originalUrl)
    (plain' : OneLine second.method ∧ OneLine second.originalUrl)
    (hmac : Set.InjOn (crypto.hmacSha256 authentication.principal.secret)
      {buildServiceAuthCanonicalString authentication.parts, buildServiceAuthCanonicalString authentication'.parts})
    (sha256 : Set.InjOn crypto.sha256
      {first.rawBody.getD ByteArray.empty, second.rawBody.getD ByteArray.empty}) :
    first.method.toUpper = second.method.toUpper ∧ requestPathAndQuery first = requestPathAndQuery second ∧
      first.rawBody.getD ByteArray.empty = second.rawBody.getD ByteArray.empty ∧
      firstHeader first timestampHeaders = firstHeader second timestampHeaders ∧
      authentication.parts.nonce = authentication'.parts.nonce := by
  obtain ⟨timestamp, authentic⟩ := authenticate_eq_ok.mp accepted
  obtain ⟨timestamp', authentic'⟩ := authenticate_eq_ok.mp accepted'
  have signed' := authentic'.signed
  rw [← secret] at signed'
  have digests :=
    timingSafeHexEquals_unique (crypto.hmacHex _ _) (crypto.hmacHex _ _) signature authentic.signed signed'
  have strings := hmac (by simp) (by simp) digests
  have same := canonicalString_inj (authentic.oneLine plain.1 plain.2) (authentic'.oneLine plain'.1 plain'.2) strings
  have parts : canonicalParts crypto first timestamp = canonicalParts crypto second timestamp' := by
    rw [← authentic.parts, same, authentic'.parts]
  have methods : first.method.toUpper = second.method.toUpper := congrArg CanonicalRequestParts.method parts
  have paths : requestPathAndQuery first = requestPathAndQuery second :=
    Prod.ext (congrArg CanonicalRequestParts.path parts) (congrArg CanonicalRequestParts.query parts)
  have bodies : bodyHash crypto first.rawBody = bodyHash crypto second.rawBody :=
    congrArg CanonicalRequestParts.bodySha256 parts
  have times : timestamp = timestamp' := congrArg CanonicalRequestParts.timestamp parts
  refine ⟨methods, paths, sha256 (by simp) (by simp) bodies, ?_, congrArg CanonicalRequestParts.nonce same⟩
  rw [authentic.stamped, authentic'.stamped, times]

end Binding

/-! A request whose nonce is derived, and the same one with that nonce in a header and its signature in
capitals. -/

def postedBody : ByteArray := "\x7b\"foo\":\"bar\"\x7d".toUTF8

def postedBodySha256 : String := "7a38bf81f383f69433ad6e900d35b3e2385593f76a7b7ab5d4355b8ba41ee24b"

def postedNonce : String := "e1c3493448a9d0319f678a0ec26caed71371ff607216f96a79f202b803eac8e3"

def postedSignature : String := "73faad65f8045f0bfecdd4d1396fd4391c777ed49866d396c1ce9a4298ea50be"

private theorem postedBodySha256_hex : HexDigest postedBodySha256 := HexDigest.ofList rfl rfl

theorem postedNonce_hex : HexDigest postedNonce := HexDigest.ofList rfl rfl

theorem postedSignature_hex : HexDigest postedSignature := HexDigest.ofList rfl rfl

/-- The digests of these requests. -/
def postedCrypto : Crypto where
  sha256 message := if message = postedBody then postedBodySha256 else postedNonce
  hmacSha256 _ _ := postedSignature
  sha256Hex message := by
    split
    · exact postedBodySha256_hex
    · exact postedNonce_hex
  hmacHex _ _ := postedSignature_hex

private theorem posted_sha256 {message : ByteArray} (other : message ≠ postedBody) :
    postedCrypto.sha256 message = postedNonce :=
  if_neg other

def serviceKey : ServiceApiKey :=
  ⟨"svc-a", "secret-a", true, by decide +kernel, by decide +kernel, by decide +kernel, by decide +kernel⟩

def oneKey : ServiceAuthConfig :=
  ⟨[serviceKey], none, 300, 600, .inl (by simp), by decide, by decide⟩

def shoutedSignature : String := "73FAAD65F8045F0BFECDD4D1396FD4391C777ED49866D396C1CE9A4298EA50BE"

/-- The headers of a request with a nonce, or with none. -/
def postedHeaders (signature : String) (nonce : Option String) : String → Option String
  | "X-Api-Key" => some "svc-a"
  | "X-Timestamp" => some "1700000000"
  | "X-Nonce" => nonce
  | "X-Signature" => some signature
  | _ => none

def signedAs (signature method : String) (nonce : Option String) : Request :=
  ⟨method, "/api/ricardian/v1/hash", some postedBody, postedHeaders signature nonce⟩

abbrev posted (method : String) (nonce : Option String) : Request := signedAs postedSignature method nonce

def postedAuthentication (signature : String) : Authentication :=
  ⟨⟨"svc-a", "secret-a", true, .apiKey⟩,
    ⟨"POST", "/api/ricardian/v1/hash", "", postedBodySha256, "1700000000", postedNonce⟩, signature⟩

theorem posted_authentic {nonce : Option String} (trimmed : trim signature = signature) (filled : signature ≠ "")
    (equals : timingSafeHexEquals signature postedSignature = true)
    (parts : (postedAuthentication signature).parts =
      canonicalParts postedCrypto (signedAs signature method nonce) "1700000000") :
    authenticate postedCrypto oneKey 1700000000000 (signedAs signature method nonce) =
      .ok (postedAuthentication signature) := by
  apply authenticate_eq_ok.mpr
  refine ⟨"1700000000", ?_, ?_, by decide +kernel, ?_, rfl, parts, postedNonce_hex.nonce, equals⟩
  · rw [timestampHeaders, firstHeader_next rfl, firstHeader_first rfl (by decide +kernel) (by decide)]
  · rw [signatureHeaders, firstHeader_next rfl]
    exact firstHeader_first rfl trimmed filled
  · rw [firstHeader_first rfl (by decide +kernel) (by decide)]
    change resolvePrincipal oneKey (some "svc-a") = some ⟨"svc-a", "secret-a", true, .apiKey⟩
    decide +kernel

private theorem posted_parts (upper : method.toUpper = "POST")
    (named : firstHeader (signedAs signature method nonce) nonceHeaders = none ∨
      firstHeader (signedAs signature method nonce) nonceHeaders = some postedNonce) :
    (postedAuthentication signature).parts =
      canonicalParts postedCrypto (signedAs signature method nonce) "1700000000" := by
  have body : bodyHash postedCrypto (signedAs signature method nonce).rawBody = postedBodySha256 := by
    show (if postedBody = postedBody then postedBodySha256 else postedNonce) = _
    exact if_pos rfl
  have paths : requestPathAndQuery (signedAs signature method nonce) = ("/api/ricardian/v1/hash", "") := by
    unfold requestPathAndQuery
    dsimp only [signedAs]
    decide +kernel
  have derived : deriveNonce postedCrypto "POST" "/api/ricardian/v1/hash" "" postedBodySha256 "1700000000" =
      postedNonce := by
    rw [deriveNonce_eq]
    have other : ("\n".intercalate ["POST", "/api/ricardian/v1/hash", "", postedBodySha256, "1700000000"]).toUTF8 ≠
        postedBody := by decide +kernel
    exact posted_sha256 other
  unfold canonicalParts
  rw [paths, body, show (signedAs signature method nonce).method.toUpper = "POST" from upper]
  dsimp only
  rcases named with absent | given
  · rw [absent, Option.getD_none, derived]
    rfl
  · rw [given]
    rfl

/-- Two requests and their authentications differ, and have one path and one nonce. -/
theorem posted_binds : ∃ first second authentication authentication',
    authenticate postedCrypto oneKey 1700000000000 first = .ok authentication ∧
      authenticate postedCrypto oneKey 1700000000000 second = .ok authentication' ∧
      first.method ≠ second.method ∧ authentication.signature ≠ authentication'.signature ∧
      requestPathAndQuery first = requestPathAndQuery second ∧
        authentication.parts.nonce = authentication'.parts.nonce := by
  have absent : firstHeader (posted "POST" none) nonceHeaders = none := by
    rw [nonceHeaders, firstHeader_next rfl, firstHeader_next rfl]
    rfl
  have derived := posted_authentic postedSignature_hex.trimmed postedSignature_hex.given
    (timingSafeHexEquals_self postedSignature_hex)
    (posted_parts (by decide +kernel : "POST".toUpper = "POST") (.inl absent))
  have named : firstHeader (signedAs shoutedSignature "post" (some postedNonce)) nonceHeaders = some postedNonce := by
    rw [nonceHeaders, firstHeader_next rfl]
    exact firstHeader_first rfl postedNonce_hex.trimmed postedNonce_hex.given
  have given := posted_authentic (by decide +kernel) (by decide +kernel) (by decide +kernel)
    (posted_parts (by decide +kernel : "post".toUpper = "POST") (.inr named))
  have binds := signature_binds derived given rfl (by decide +kernel)
    ⟨by unfold OneLine; decide +kernel, by unfold OneLine; decide +kernel⟩
    ⟨by unfold OneLine; decide +kernel, by unfold OneLine; decide +kernel⟩
    (by simp [postedAuthentication]) (by simp [signedAs])
  exact ⟨_, _, _, _, derived, given, by decide, by decide, binds.2.1, binds.2.2.2.2⟩

end Agroasys.ServiceAuth
