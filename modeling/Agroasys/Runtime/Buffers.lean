import Agroasys.Runtime.JsonText

namespace Agroasys.Runtime

section Utf8

/-- The bytes of a unit that stands alone; a surrogate is replaced. -/
def unitBytes (code : CodeUnit) : List Nat :=
  let point := if isLead code || isTrail code then 0xFFFD else code.val
  if point < 0x80 then [point]
  else if point < 0x800 then [0xC0 + point / 64, 0x80 + point % 64]
  else [0xE0 + point / 4096, 0x80 + point / 64 % 64, 0x80 + point % 64]

/-- The bytes of a character beyond the basic plane. -/
def pairBytes (lead trail : CodeUnit) : List Nat :=
  let point := 0x10000 + (lead.val - 0xD800) * 0x400 + (trail.val - 0xDC00)
  [0xF0 + point / 262144, 0x80 + point / 4096 % 64, 0x80 + point / 64 % 64, 0x80 + point % 64]

/-- `Buffer.from(text, 'utf8')`. -/
def utf8Bytes : JsString → List Nat
  | [] => []
  | [code] => unitBytes code
  | lead :: trail :: rest =>
    if isLead lead && isTrail trail then pairBytes lead trail ++ utf8Bytes rest
    else unitBytes lead ++ utf8Bytes (trail :: rest)

/-- A character that is not complete: the bytes it still needs, its bits so far, and the bounds of
the next byte. -/
structure Incomplete where
  needed : Nat
  point : Nat
  lower : Nat
  upper : Nat

def replacement : CodeUnit := 0xFFFD

def pointUnits (point : Nat) : JsString :=
  if point < 0x10000 then [Fin.ofNat 0x10000 point]
  else [Fin.ofNat 0x10000 (0xD800 + (point - 0x10000) / 0x400), Fin.ofNat 0x10000 (0xDC00 + (point - 0x10000) % 0x400)]

/-- What a byte at the start of a character gives, or begins. -/
def firstByte (byte : Nat) : JsString × Option Incomplete :=
  if byte < 0x80 then ([Fin.ofNat 0x10000 byte], none)
  else if 0xC2 ≤ byte ∧ byte ≤ 0xDF then ([], some ⟨1, byte - 0xC0, 0x80, 0xBF⟩)
  else if 0xE0 ≤ byte ∧ byte ≤ 0xEF then
    ([], some ⟨2, byte - 0xE0, if byte = 0xE0 then 0xA0 else 0x80, if byte = 0xED then 0x9F else 0xBF⟩)
  else if 0xF0 ≤ byte ∧ byte ≤ 0xF4 then
    ([], some ⟨3, byte - 0xF0, if byte = 0xF0 then 0x90 else 0x80, if byte = 0xF4 then 0x8F else 0xBF⟩)
  else ([replacement], none)

/-- What is no character is replaced, and its last byte may begin another one. -/
def decodeUtf8 : Option Incomplete → List Nat → JsString
  | none, [] => []
  | some _, [] => [replacement]
  | none, byte :: bytes => (firstByte byte).1 ++ decodeUtf8 (firstByte byte).2 bytes
  | some ⟨needed, point, lower, upper⟩, byte :: bytes =>
    if lower ≤ byte ∧ byte ≤ upper then
      let point := point * 64 + (byte - 0x80)
      if needed = 1 then pointUnits point ++ decodeUtf8 none bytes
      else decodeUtf8 (some ⟨needed - 1, point, 0x80, 0xBF⟩) bytes
    else replacement :: ((firstByte byte).1 ++ decodeUtf8 (firstByte byte).2 bytes)

/-- `buffer.toString('utf8')`. -/
def utf8Text (bytes : List Nat) : JsString := decodeUtf8 none bytes

/-- Characters of one byte. -/
def Ascii (text : JsString) : Prop := ∀ code ∈ text, code.val < 0x80

theorem utf8Bytes_ascii (ascii : Ascii text) : utf8Bytes text = text.map Fin.val := by
  have single : ∀ code : CodeUnit, code.val < 0x80 → unitBytes code = [code.val] := by
    intro code small
    have plain : (isLead code || isTrail code) = false := by
      simp only [isLead, isTrail, Bool.or_eq_false_iff, Bool.and_eq_false_iff, decide_eq_false_iff_not]
      omega
    rw [unitBytes, plain]
    exact if_pos small
  induction text using utf8Bytes.induct with
  | case1 => rfl
  | case2 code => exact single code (ascii code List.mem_cons_self)
  | case3 lead trail rest pair =>
    have small := ascii lead List.mem_cons_self
    simp only [isLead, Bool.and_eq_true, decide_eq_true_eq] at pair
    omega
  | case4 lead trail rest pair ih =>
    rw [utf8Bytes, if_neg pair, single lead (ascii lead List.mem_cons_self),
      ih fun code member => ascii code (List.mem_cons_of_mem _ member)]
    rfl

theorem utf8Text_ascii (ascii : Ascii text) : utf8Text (text.map Fin.val) = text := by
  unfold utf8Text
  induction text with
  | nil => rfl
  | cons code text ih =>
    have small := ascii code List.mem_cons_self
    have first : firstByte code.val = ([code], none) := by
      rw [firstByte, if_pos small]
      congr
      exact Fin.ext (Nat.mod_eq_of_lt code.isLt)
    rw [List.map_cons, decodeUtf8, first, ih fun other member => ascii other (List.mem_cons_of_mem _ member)]
    rfl

end Utf8

section Base64Url

/-- The letter of six bits. -/
def sextetChar (sextet : Nat) : Char :=
  if sextet < 26 then Char.ofNat (65 + sextet)
  else if sextet < 52 then Char.ofNat (71 + sextet)
  else if sextet < 62 then Char.ofNat (sextet - 4)
  else if sextet = 62 then '-' else '_'

/-- The bits of a letter, of either alphabet. -/
def charSextet (char : Char) : Option Nat :=
  if char.isUpper then some (char.toNat - 65)
  else if char.isLower then some (char.toNat - 71)
  else if char.isDigit then some (char.toNat + 4)
  else if char = '-' ∨ char = '+' then some 62
  else if char = '_' ∨ char = '/' then some 63
  else none

def sextets : List Nat → List Nat
  | first :: second :: third :: rest =>
    first / 4 :: (first % 4 * 16 + second / 16) :: (second % 16 * 4 + third / 64) :: third % 64 :: sextets rest
  | [first, second] => [first / 4, first % 4 * 16 + second / 16, second % 16 * 4]
  | [first] => [first / 4, first % 4 * 16]
  | [] => []

def sextetBytes : List Nat → List Nat
  | first :: second :: third :: fourth :: rest =>
    (first * 4 + second / 16) :: (second % 16 * 16 + third / 4) :: (third % 4 * 64 + fourth) :: sextetBytes rest
  | [first, second, third] => [first * 4 + second / 16, second % 16 * 16 + third / 4]
  | [first, second] => [first * 4 + second / 16]
  | _ => []

/-- `buffer.toString('base64url')`. -/
def base64Url (bytes : List Nat) : String := String.ofList ((sextets bytes).map sextetChar)

/-- `Buffer.from(text, 'base64url')`: what is no letter of the alphabet is skipped. -/
def base64UrlBytes (text : String) : List Nat := sextetBytes (text.toList.filterMap charSextet)

private theorem charSextet_sextetChar : ∀ sextet < 64, charSextet (sextetChar sextet) = some sextet := by
  decide

private theorem sextets_small (small : ∀ byte ∈ bytes, byte < 256) : ∀ sextet ∈ sextets bytes, sextet < 64 := by
  induction bytes using sextets.induct with
  | case1 first second third rest ih =>
    simp only [List.forall_mem_cons] at small
    simp only [sextets, List.forall_mem_cons]
    exact ⟨by omega, by omega, by omega, by omega, ih small.2.2.2⟩
  | case2 first second =>
    simp only [List.forall_mem_cons] at small
    simp only [sextets, List.forall_mem_cons]
    exact ⟨by omega, by omega, by omega, fun _ none => nomatch none⟩
  | case3 first =>
    simp only [List.forall_mem_cons] at small
    simp only [sextets, List.forall_mem_cons]
    exact ⟨by omega, by omega, fun _ none => nomatch none⟩
  | case4 => exact fun _ none => nomatch none

private theorem sextetBytes_sextets (small : ∀ byte ∈ bytes, byte < 256) : sextetBytes (sextets bytes) = bytes := by
  induction bytes using sextets.induct with
  | case1 first second third rest ih =>
    simp only [List.forall_mem_cons] at small
    rw [sextets, sextetBytes, ih small.2.2.2]
    congr 1
    · omega
    · congr 1
      · omega
      · congr 1
        omega
  | case2 first second =>
    simp only [List.forall_mem_cons] at small
    simp only [sextets, sextetBytes, List.cons.injEq, and_true]
    omega
  | case3 first =>
    simp only [List.forall_mem_cons] at small
    simp only [sextets, sextetBytes, List.cons.injEq, and_true]
    omega
  | case4 => rfl

/-- Bytes that are written in letters read as they were. -/
theorem base64UrlBytes_base64Url (small : ∀ byte ∈ bytes, byte < 256) : base64UrlBytes (base64Url bytes) = bytes := by
  have letters : ((sextets bytes).map sextetChar).filterMap charSextet = sextets bytes := by
    rw [List.filterMap_map]
    refine (List.filterMap_congr (g := some) ?_).trans List.filterMap_some
    intro sextet member
    exact charSextet_sextetChar sextet (sextets_small small sextet member)
  rw [base64UrlBytes, base64Url, String.toList_ofList, letters, sextetBytes_sextets small]

theorem base64Url_filled (filled : bytes ≠ []) : base64Url bytes ≠ "" := by
  intro empty
  have letters := congrArg String.toList empty
  rw [base64Url, String.toList_ofList] at letters
  have none : sextets bytes = [] := List.map_eq_nil_iff.mp letters
  cases bytes with
  | nil => exact filled rfl
  | cons first rest =>
    cases rest with
    | nil => cases none
    | cons second rest => cases rest <;> cases none

end Base64Url

end Agroasys.Runtime
