import Agroasys.Foundation.Pool
import Agroasys.ServiceAuth.NonceStore
import Agroasys.ServiceAuth.Signatures

/-! Whether a signed request can pass the middleware twice: it depends on how long nonces
live, and on whose secrets are shared. -/

namespace Agroasys.ServiceAuth

open Agroasys.Foundation Agroasys.Runtime

/-- A request, the time it arrives and what the nonce store answers if it is asked. -/
structure Presentation where
  request : Request
  now : Nat
  answer : Except String Bool

/-- `createServiceAuthMiddleware`. -/
def serviceAuthMiddleware (crypto : Crypto) (config : ServiceAuthConfig) (presentation : Presentation) :
    Except AuthError ServiceAuthContext := do
  let authentication ← authenticate crypto config presentation.now presentation.request
  afterConsume authentication.principal presentation.answer

/-- What the middleware asks the store to keep. -/
def leaseOf (config : ServiceAuthConfig) (now : Nat) (authentication : Authentication) : Lease (String × String) :=
  ⟨(authentication.principal.id, authentication.parts.nonce), now + config.nonceTtlSeconds * 1000⟩

/-- A call of a nonce store that never drops what has not expired, and takes no such key. -/
structure Consumes (now : Nat) (lease : Lease (String × String)) (rows : PairStore) (answer : Except String Bool)
    (next : PairStore) : Prop where
  keeps : ∀ row ∈ rows, now < row.expiresAt → row ∈ next
  takes : answer = .ok true → lease ∈ next ∧ ∀ row ∈ rows, row.key = lease.key → row.expiresAt ≤ now

/-- Pruned first or in the statement that inserts, as the PostgreSQL store does. -/
theorem takeLease_consumes (pruneFirst : Bool) (now : Nat) (lease : Lease (String × String)) (rows : PairStore) :
    Consumes now lease rows (.ok (takeLease pruneFirst now lease rows).1) (takeLease pruneFirst now lease rows).2 := by
  constructor
  · exact fun row member live => takeLease_keeps pruneFirst now lease member live
  · intro taken
    have accepted := Except.ok.inj taken
    refine ⟨takeLease_taken accepted, ?_⟩
    intro row member same
    by_contra live
    rw [takeLease_refuses member same (Nat.not_le.mp live)] at accepted
    cases accepted

structure GateState where
  rows : PairStore
  clock : Nat

/-- Requests one after the other, at times that do not decrease. -/
def serviceGate (crypto : Crypto) (config : ServiceAuthConfig) : System GateState Presentation where
  initial _ := True
  step state presentation next := state.clock ≤ presentation.now ∧ next.clock = presentation.now ∧
    match authenticate crypto config presentation.now presentation.request with
    | .error _ => next.rows = state.rows
    | .ok authentication => Consumes presentation.now (leaseOf config presentation.now authentication) state.rows
        presentation.answer next.rows

abbrev GateEntry := Transition GateState Presentation
abbrev GateHistory := History GateState Presentation

variable {crypto : Crypto} {config : ServiceAuthConfig}

/-- The request of a step is passed to `next()`. -/
def Passes (crypto : Crypto) (config : ServiceAuthConfig) (entry : GateEntry) : Prop :=
  ∃ context, serviceAuthMiddleware crypto config entry.label = .ok context

/-- Two requests are one signed request: what is signed is the same, and the signature. -/
def SameSigned (crypto : Crypto) (first second : Request) : Prop :=
  ∃ timestamp signature signature', firstHeader first timestampHeaders = some timestamp ∧
    firstHeader second timestampHeaders = some timestamp ∧
    canonicalParts crypto first timestamp = canonicalParts crypto second timestamp ∧
    firstHeader first signatureHeaders = some signature ∧ firstHeader second signatureHeaders = some signature' ∧
    toLowerCase (trim signature) = toLowerCase (trim signature')

/-- A principal whose requests the middleware lets through. -/
def Usable (config : ServiceAuthConfig) (principal : Principal) : Prop :=
  principal.active = true ∧ ∃ req, resolvePrincipal config (firstHeader req ["X-Api-Key"]) = some principal

/-- Nonces outlive the window of their timestamps, and a secret belongs to one principal. -/
def Covered (config : ServiceAuthConfig) : Prop :=
  ((∃ principal, Usable config principal) →
    config.authMaxSkewSeconds + min config.authMaxSkewSeconds maxSafeInteger.toNat < config.nonceTtlSeconds) ∧
  ∀ principal other, Usable config principal → Usable config other → principal.secret = other.secret →
    principal.id = other.id

/-- Under different secrets of the configuration a text has different signatures. -/
def Distinguishing (crypto : Crypto) (config : ServiceAuthConfig) : Prop :=
  ∀ principal other message, Usable config principal → Usable config other →
    crypto.hmacSha256 principal.secret message = crypto.hmacSha256 other.secret message →
      principal.secret = other.secret

/-- No signed request passes twice. -/
def PassesOnce (crypto : Crypto) (config : ServiceAuthConfig) (history : GateHistory) : Prop :=
  ∀ later entry earlier other, history = later ++ entry :: earlier → other ∈ earlier →
    SameSigned crypto other.label.request entry.label.request → Passes crypto config other →
      ¬ Passes crypto config entry

section Once

private theorem passes_authentic (passes : Passes crypto config entry) : entry.label.answer = .ok true ∧
    ∃ authentication, authenticate crypto config entry.label.now entry.label.request = .ok authentication := by
  obtain ⟨context, passed⟩ := passes
  obtain ⟨authentication, accepted, after⟩ := bind_eq_ok.mp passed
  refine ⟨?_, authentication, accepted⟩
  unfold afterConsume at after
  split at after
  · assumption
  · cases after
  · cases after

/-- A step keeps what has not expired. -/
theorem step_keeps (taken : (serviceGate crypto config).step state presentation next) (member : row ∈ state.rows)
    (live : presentation.now < row.expiresAt) : row ∈ next.rows := by
  obtain ⟨_, _, effect⟩ := taken
  split at effect
  · rw [effect]
    exact member
  · exact effect.keeps row member live

/-- A nonce that a run leaves unexpired is still taken, and time has gone on. -/
theorem path_keeps (path : Path (serviceGate crypto config) origin history state) :
    origin.clock ≤ state.clock ∧ ∀ row ∈ origin.rows, state.clock < row.expiresAt → row ∈ state.rows := by
  induction path with
  | start => exact ⟨Nat.le_refl _, fun _ member _ => member⟩
  | next _ taken ih =>
    have later : _ ≤ _ := taken.1
    rw [← taken.2.1] at later
    refine ⟨Nat.le_trans ih.1 later, ?_⟩
    intro row member live
    apply step_keeps taken
    · exact ih.2 row member (Nat.lt_of_le_of_lt later live)
    · rw [← taken.2.1]
      exact live

/-- Two times at which one timestamp is fresh are no further apart than the window. -/
theorem checkTimestamp_window (fresh : checkTimestamp maxSkewSeconds now timestamp = .ok ())
    (again : checkTimestamp maxSkewSeconds after timestamp = .ok ()) :
    after / 1000 ≤ now / 1000 + (maxSkewSeconds + min maxSkewSeconds maxSafeInteger.toNat) := by
  unfold checkTimestamp at fresh again
  split at fresh
  · cases fresh
  · rename_i valid
    rw [if_neg valid] at again
    split at fresh
    · cases fresh
    · rename_i seconds read
      rw [read] at again
      dsimp only at again
      split at fresh
      · cases fresh
      · rename_i bounds
        rw [if_neg bounds] at again
        split at fresh
        · cases fresh
        · rename_i near
          split at again
          · cases again
          · rename_i near'
            unfold maxSafeInteger at *
            omega

/-- A request that passes leaves its nonce, and found none before. -/
theorem passes_consumes (taken : (serviceGate crypto config).step entry.before entry.label entry.after)
    (passes : Passes crypto config entry) :
    ∃ authentication timestamp,
      Authentic crypto config entry.label.now entry.label.request timestamp authentication ∧
        leaseOf config entry.label.now authentication ∈ entry.after.rows ∧
        ∀ row ∈ entry.before.rows, row.key = (leaseOf config entry.label.now authentication).key →
          row.expiresAt ≤ entry.label.now := by
  obtain ⟨answer, authentication, accepted⟩ := passes_authentic passes
  obtain ⟨timestamp, authentic⟩ := authenticate_eq_ok.mp accepted
  obtain ⟨_, _, effect⟩ := taken
  rw [accepted] at effect
  exact ⟨authentication, timestamp, authentic, effect.takes answer⟩

/-- One signed request that two principals may send has one nonce, of one principal. -/
theorem sameSigned_key (ideal : Distinguishing crypto config) (covered : Covered config)
    (signed : SameSigned crypto first second)
    (authentic : Authentic crypto config now first timestamp authentication)
    (authentic' : Authentic crypto config after second timestamp' authentication') :
    timestamp = timestamp' ∧
      (leaseOf config now authentication).key = (leaseOf config after authentication').key := by
  obtain ⟨shared, signature, signature', stamped, stamped', parts, given, given', normal⟩ := signed
  cases authentic.stamped.symm.trans stamped
  cases authentic'.stamped.symm.trans stamped'
  cases authentic.signature.symm.trans given
  cases authentic'.signature.symm.trans given'
  have same : authentication.parts = authentication'.parts := by
    rw [authentic.parts, parts, authentic'.parts]
  have digests := timingSafeHexEquals_unique (crypto.hmacHex _ _) (crypto.hmacHex _ _) normal authentic.signed
    authentic'.signed
  rw [← same] at digests
  have usable : Usable config authentication.principal := ⟨authentic.active, first, authentic.principal⟩
  have usable' : Usable config authentication'.principal := ⟨authentic'.active, second, authentic'.principal⟩
  have ids := covered.2 _ _ usable usable' (ideal _ _ _ usable usable' digests)
  refine ⟨rfl, ?_⟩
  unfold leaseOf
  dsimp only
  rw [ids, same]

/-- Where the configuration is covered, a run passes each signed request once at most. -/
theorem covered_once (ideal : Distinguishing crypto config) (covered : Covered config)
    (run : (serviceGate crypto config).Run history state) : PassesOnce crypto config history := by
  intro later entry earlier other same member signed first second
  subst same
  obtain ⟨before, taken, _⟩ := run.split
  obtain ⟨_, _, _, _, consumed, path⟩ := before.cut member
  obtain ⟨authentication, timestamp, authentic, left, _⟩ := passes_consumes consumed first
  obtain ⟨authentication', timestamp', authentic', _, free⟩ := passes_consumes taken second
  obtain ⟨stamps, keys⟩ := sameSigned_key ideal covered signed authentic authentic'
  subst stamps
  have window := checkTimestamp_window authentic.fresh authentic'.fresh
  have outlives := covered.1 ⟨_, authentic.active, _, authentic.principal⟩
  have live : entry.label.now < (leaseOf config other.label.now authentication).expiresAt := by
    show entry.label.now < other.label.now + config.nonceTtlSeconds * 1000
    omega
  have held := (path_keeps path).2 _ left (Nat.lt_of_le_of_lt taken.1 live)
  exact absurd live (Nat.not_lt.mpr (free _ held keys))

end Once

section Replay

/-- A timestamp that a request can carry. -/
structure Stamp where
  text : String
  seconds : Nat
  trimmed : trim text = text
  digits : ¬ (text = "" ∨ ¬ text.toList.all Char.isDigit)
  read : parseDecimal text = some (seconds : Int)
  bounds : ¬ (maxSafeInteger < seconds ∨ (seconds : Int) ≤ 0)

/-- The last second that is a safe integer. -/
def lastStamp : Stamp :=
  ⟨"9007199254740991", 9007199254740991, by decide +kernel, by decide +kernel, by decide +kernel, by decide +kernel⟩

theorem Stamp.fresh (stamp : Stamp) (near : ((now / 1000 : Nat) - (stamp.seconds : Int)).natAbs ≤ maxSkewSeconds) :
    checkTimestamp maxSkewSeconds now stamp.text = .ok () := by
  unfold checkTimestamp
  rw [if_neg stamp.digits, stamp.read]
  dsimp only
  rw [if_neg stamp.bounds, if_neg (Nat.not_lt.mpr near)]

def capturedHeaders (stamp : Stamp) (apiKey : Option String) (signature : String) : String → Option String
  | "X-Api-Key" => apiKey
  | "X-Timestamp" => some stamp.text
  | "X-Nonce" => some "nonce-1"
  | "X-Signature" => some signature
  | _ => none

def captured (stamp : Stamp) (apiKey : Option String) (signature : String) : Request :=
  ⟨"GET", "/api/ricardian/v1/hash", none, capturedHeaders stamp apiKey signature⟩

def capturedParts (crypto : Crypto) (stamp : Stamp) : CanonicalRequestParts :=
  ⟨"GET", "/api/ricardian/v1/hash", "", bodyHash crypto none, stamp.text, "nonce-1"⟩

def capturedSignature (crypto : Crypto) (stamp : Stamp) (secret : String) : String :=
  signServiceAuthCanonicalString crypto secret (buildServiceAuthCanonicalString (capturedParts crypto stamp))

private theorem captured_parts (crypto : Crypto) (stamp : Stamp) (apiKey : Option String) (signature : String) :
    canonicalParts crypto (captured stamp apiKey signature) stamp.text = capturedParts crypto stamp := by
  have paths : requestPathAndQuery (captured stamp apiKey signature) = ("/api/ricardian/v1/hash", "") := by
    unfold requestPathAndQuery
    dsimp only [captured]
    decide +kernel
  have nonce : firstHeader (captured stamp apiKey signature) nonceHeaders = some "nonce-1" := by
    rw [nonceHeaders, firstHeader_next rfl, firstHeader_first rfl (by decide +kernel) (by decide)]
  have method : (captured stamp apiKey signature).method.toUpper = "GET" := by
    show "GET".toUpper = "GET"
    decide +kernel
  unfold canonicalParts
  rw [paths, nonce, method]
  rfl

private theorem captured_stamped (stamp : Stamp) (apiKey : Option String) (signature : String) :
    firstHeader (captured stamp apiKey signature) timestampHeaders = some stamp.text := by
  have filled : stamp.text ≠ "" := fun empty => stamp.digits (.inl empty)
  rw [timestampHeaders, firstHeader_next rfl, firstHeader_first rfl stamp.trimmed filled]

private theorem captured_signature (stamp : Stamp) (apiKey : Option String) (hex : HexDigest signature) :
    firstHeader (captured stamp apiKey signature) signatureHeaders = some signature := by
  rw [signatureHeaders, firstHeader_next rfl]
  exact firstHeader_first rfl hex.trimmed hex.given

private theorem firstHeader_trimmed {req : Request} (found : firstHeader req headerNames = some value) :
    trim value = value ∧ value ≠ "" := by
  induction headerNames with
  | nil => cases found
  | cons headerName headerNames ih =>
    unfold firstHeader at found
    split at found
    · split at found
      · rename_i filled
        cases found
        exact ⟨trim_idempotent _, filled.2⟩
      · exact ih found
    · exact ih found

/-- The captured request carries the key of another. -/
theorem captured_apiKey (stamp : Stamp) (req : Request) (signature : String) :
    firstHeader (captured stamp (firstHeader req ["X-Api-Key"]) signature) ["X-Api-Key"] =
      firstHeader req ["X-Api-Key"] := by
  cases found : firstHeader req ["X-Api-Key"] with
  | none => rw [firstHeader_next rfl, firstHeader]
  | some value =>
    obtain ⟨trimmed, filled⟩ := firstHeader_trimmed found
    exact firstHeader_first rfl trimmed filled

private theorem captured_authenticated (crypto : Crypto) (stamp : Stamp) (active : principal.active = true)
    (resolved : resolvePrincipal config (firstHeader req ["X-Api-Key"]) = some principal)
    (near : ((now / 1000 : Nat) - (stamp.seconds : Int)).natAbs ≤ config.authMaxSkewSeconds) :
    authenticate crypto config now
        (captured stamp (firstHeader req ["X-Api-Key"]) (capturedSignature crypto stamp principal.secret)) =
      .ok ⟨principal, capturedParts crypto stamp, capturedSignature crypto stamp principal.secret⟩ := by
  have hex : HexDigest (capturedSignature crypto stamp principal.secret) := crypto.hmacHex _ _
  have nonce : trim "nonce-1" ≠ "" ∧ utf16Length "nonce-1" ≤ nonceMaxLength := by decide +kernel
  apply authenticate_eq_ok.mpr
  refine ⟨stamp.text, captured_stamped stamp _ _, captured_signature stamp _ hex, stamp.fresh near, ?_, active,
    (captured_parts crypto stamp _ _).symm, nonce, timingSafeHexEquals_self hex⟩
  rw [captured_apiKey]
  exact resolved

theorem captured_same (crypto : Crypto) (stamp : Stamp) (apiKey other : Option String) (hex : HexDigest signature) :
    SameSigned crypto (captured stamp apiKey signature) (captured stamp other signature) := by
  refine ⟨stamp.text, signature, signature, captured_stamped stamp _ _, captured_stamped stamp _ _, ?_,
    captured_signature stamp _ hex, captured_signature stamp _ hex, rfl⟩
  rw [captured_parts, captured_parts]

/-- Two requests with one signature that both authenticate pass both, where the second needs
another nonce entry, or finds the first expired. -/
theorem replay_passes (accepted : authenticate crypto config now first = .ok authentication)
    (accepted' : authenticate crypto config after second = .ok authentication') (ordered : now ≤ after)
    (signed : SameSigned crypto first second)
    (free : (leaseOf config now authentication).key = (leaseOf config after authentication').key →
      (leaseOf config now authentication).expiresAt ≤ after) :
    ∃ history state, (serviceGate crypto config).Run history state ∧ ¬ PassesOnce crypto config history := by
  let rows := (takeLease true now (leaseOf config now authentication) []).2
  let answer := (takeLease true after (leaseOf config after authentication') rows).1
  let origin : GateState := ⟨[], 0⟩
  let middle : GateState := ⟨rows, now⟩
  let last : GateState := ⟨(takeLease true after (leaseOf config after authentication') rows).2, after⟩
  let sent : GateEntry := ⟨origin, ⟨first, now, .ok true⟩, middle⟩
  let again : GateEntry := ⟨middle, ⟨second, after, .ok answer⟩, last⟩
  have sends : (serviceGate crypto config).step origin sent.label middle := by
    refine ⟨Nat.zero_le _, rfl, ?_⟩
    rw [accepted]
    exact takeLease_consumes true now (leaseOf config now authentication) []
  have repeats : (serviceGate crypto config).step middle again.label last := by
    refine ⟨ordered, rfl, ?_⟩
    rw [accepted']
    exact takeLease_consumes true after (leaseOf config after authentication') rows
  have taken : answer = true := by
    have missing : ∀ other ∈ rows, other.key = (leaseOf config after authentication').key →
        ¬ after < other.expiresAt := by
      intro other member same
      rw [List.mem_singleton.mp member] at same ⊢
      exact Nat.not_lt.mpr (free same)
    exact congrArg Prod.fst (takeLease_free missing)
  refine ⟨[again, sent], last, ⟨origin, trivial, .next (.next .start sends) repeats⟩, ?_⟩
  intro once
  apply once [] again [sent] sent rfl (List.mem_singleton.mpr rfl) signed
  · refine ⟨⟨authentication.principal.id, authentication.principal.scheme⟩, ?_⟩
    exact bind_eq_ok.mpr ⟨authentication, accepted, rfl⟩
  · refine ⟨⟨authentication'.principal.id, authentication'.principal.scheme⟩, ?_⟩
    refine bind_eq_ok.mpr ⟨authentication', accepted', ?_⟩
    rw [show again.label.answer = .ok true from congrArg Except.ok taken]
    rfl

/-- The captured request passes at two times at which its timestamp is fresh, if its nonce
expires between them. -/
theorem window_replay (crypto : Crypto) (stamp : Stamp) (usable : Usable config principal)
    (near : ((now / 1000 : Nat) - (stamp.seconds : Int)).natAbs ≤ config.authMaxSkewSeconds)
    (near' : ((after / 1000 : Nat) - (stamp.seconds : Int)).natAbs ≤ config.authMaxSkewSeconds)
    (expired : now + config.nonceTtlSeconds * 1000 ≤ after) :
    ∃ history state, (serviceGate crypto config).Run history state ∧ ¬ PassesOnce crypto config history := by
  obtain ⟨active, req, resolved⟩ := usable
  exact replay_passes (captured_authenticated crypto stamp active resolved near)
    (captured_authenticated crypto stamp active resolved near') (by omega)
    (captured_same crypto stamp _ _ (crypto.hmacHex _ _)) fun _ => expired

/-- A principal whose nonces do not outlive the window is replayed at its end. -/
theorem short_replay (crypto : Crypto) (usable : Usable config principal)
    (short : config.nonceTtlSeconds ≤ config.authMaxSkewSeconds + min config.authMaxSkewSeconds maxSafeInteger.toNat) :
    ∃ history state, (serviceGate crypto config).Run history state ∧ ¬ PassesOnce crypto config history := by
  have most : maxSafeInteger.toNat = 9007199254740991 := by decide
  have seconds : lastStamp.seconds = 9007199254740991 := rfl
  rw [most] at short
  have near : (((9007199254740991 - config.authMaxSkewSeconds) * 1000 / 1000 : Nat) -
      (lastStamp.seconds : Int)).natAbs ≤ config.authMaxSkewSeconds := by
    rw [Nat.mul_div_cancel _ (by decide), seconds]
    omega
  have near' : (((9007199254740991 + config.authMaxSkewSeconds) * 1000 / 1000 : Nat) -
      (lastStamp.seconds : Int)).natAbs ≤ config.authMaxSkewSeconds := by
    rw [Nat.mul_div_cancel _ (by decide), seconds]
    omega
  exact window_replay crypto lastStamp usable near near' (by omega)

/-- A request signed with a shared secret passes under both its principals. -/
theorem shared_replay (crypto : Crypto) (usable : Usable config principal) (usable' : Usable config other)
    (same : principal.secret = other.secret) (distinct : principal.id ≠ other.id) :
    ∃ history state, (serviceGate crypto config).Run history state ∧ ¬ PassesOnce crypto config history := by
  obtain ⟨active, req, resolved⟩ := usable
  obtain ⟨active', req', resolved'⟩ := usable'
  have near : ((lastStamp.seconds * 1000 / 1000 : Nat) - (lastStamp.seconds : Int)).natAbs ≤
      config.authMaxSkewSeconds := by
    rw [Nat.mul_div_cancel _ (by decide), Int.sub_self]
    exact Nat.zero_le _
  have first := captured_authenticated crypto lastStamp active resolved near
  have second := captured_authenticated crypto lastStamp active' resolved' near
  rw [← same] at second
  apply replay_passes first second (Nat.le_refl _) (captured_same crypto lastStamp _ _ (crypto.hmacHex _ _))
  intro keys
  exact absurd (congrArg Prod.fst keys) distinct

end Replay

/-- Every run passes each signed request once at most if and only if nonces outlive the window
and no two principals share a secret. -/
theorem replay_protected (ideal : Distinguishing crypto config) :
    (∀ history state, (serviceGate crypto config).Run history state → PassesOnce crypto config history) ↔
      Covered config := by
  constructor
  · intro protects
    constructor
    · rintro ⟨principal, usable⟩
      by_contra short
      obtain ⟨history, state, run, replayed⟩ := short_replay crypto usable (Nat.not_lt.mp short)
      exact replayed (protects history state run)
    · intro principal other usable usable' same
      by_contra distinct
      obtain ⟨history, state, run, replayed⟩ := shared_replay crypto usable usable' same distinct
      exact replayed (protects history state run)
  · exact fun covered _ _ => covered_once ideal covered

def otherKey : ServiceApiKey :=
  ⟨"svc-b", "secret-b", true, by decide +kernel, by decide +kernel, by decide +kernel, by decide +kernel⟩

/-- Two keys, whose nonces live a second longer than by default. -/
def longKeys : ServiceAuthConfig :=
  { oneKey with
    apiKeys := [serviceKey, otherKey]
    nonceTtlSeconds := 601
    credentials := .inl (List.cons_ne_nil _ _)
    ttlPositive := by decide }

/-- Each of the two secrets has its signature. -/
def keyedCrypto : Crypto :=
  { postedCrypto with
    hmacSha256 := fun secret _ => if secret = "secret-a" then postedSignature else postedNonce
    hmacHex := fun secret _ => by
      split
      · exact postedSignature_hex
      · exact postedNonce_hex }

def askingAs (apiKey : String) : Request :=
  ⟨"GET", "/", none, fun header => if header = "X-Api-Key" then some apiKey else none⟩

private theorem longKeys_principal (usable : Usable longKeys principal) :
    (principal.id = "svc-a" ∧ principal.secret = "secret-a") ∨
      (principal.id = "svc-b" ∧ principal.secret = "secret-b") := by
  obtain ⟨_, req, resolved⟩ := usable
  unfold resolvePrincipal at resolved
  split at resolved
  · rename_i apiKey _
    split at resolved
    · cases resolved
    · obtain ⟨record, found, rfl⟩ := Option.map_eq_some_iff.mp resolved
      have among : record ∈ [serviceKey, otherKey] := List.mem_reverse.mp (List.mem_of_find?_eq_some found)
      simp only [List.mem_cons, List.not_mem_nil, or_false] at among
      rcases among with rfl | rfl
      · exact .inl ⟨rfl, rfl⟩
      · exact .inr ⟨rfl, rfl⟩
  · cases resolved

/-- Two principals with different secrets, and no request of theirs passes twice. -/
theorem longKey_protected :
    (∃ principal other, Usable longKeys principal ∧ Usable longKeys other ∧ principal.id ≠ other.id) ∧
      ¬ ∃ history state, (serviceGate keyedCrypto longKeys).Run history state ∧
        ¬ PassesOnce keyedCrypto longKeys history := by
  have ideal : Distinguishing keyedCrypto longKeys := by
    intro principal other message usable usable' same
    have apart : postedSignature ≠ postedNonce := by decide
    rcases longKeys_principal usable with ⟨_, secret⟩ | ⟨_, secret⟩ <;>
      rcases longKeys_principal usable' with ⟨_, secret'⟩ | ⟨_, secret'⟩ <;> rw [secret, secret'] at same ⊢
    · exact absurd same apart
    · exact absurd same.symm apart
  constructor
  · have asks {apiKey : String} (trimmed : trim apiKey = apiKey) (filled : apiKey ≠ "") :
        firstHeader (askingAs apiKey) ["X-Api-Key"] = some apiKey :=
      firstHeader_first rfl trimmed filled
    refine ⟨⟨"svc-a", "secret-a", true, .apiKey⟩, ⟨"svc-b", "secret-b", true, .apiKey⟩, ⟨rfl, askingAs "svc-a", ?_⟩,
      ⟨rfl, askingAs "svc-b", ?_⟩, by decide⟩
    · rw [asks (by decide +kernel) (by decide)]
      decide +kernel
    · rw [asks (by decide +kernel) (by decide)]
      decide +kernel
  · rintro ⟨history, state, run, replayed⟩
    apply replayed
    apply (replay_protected ideal).mpr _ history state run
    constructor
    · exact fun _ => by decide
    · intro principal other usable usable' same
      rcases longKeys_principal usable with ⟨named, secret⟩ | ⟨named, secret⟩ <;>
        rcases longKeys_principal usable' with ⟨named', secret'⟩ | ⟨named', secret'⟩ <;> rw [named, named']
      · rw [secret, secret'] at same
        exact absurd same (by decide)
      · rw [secret, secret'] at same
        exact absurd same (by decide)

/-- One API key, and everything else as it is by default. -/
def defaultEnvironment : Environment where
  apiKeysJson := .parsed (.array [.object
    [("id", .string "svc-a"), ("secret", .string "secret-a"), ("active", .boolean true)]])
  hmacSecret := none
  authMaxSkewSeconds := none
  authNonceTtlSeconds := none
  nonceTtlSeconds := none

/-- A client whose clock is five minutes early signs this. -/
def earlyStamp : Stamp :=
  ⟨"1700000300", 1700000300, by decide +kernel, by decide +kernel, by decide +kernel, by decide +kernel⟩

/-- By default a request from five minutes ahead passes again ten minutes later. -/
theorem defaultConfig_replayed : ∃ config, loadConfig defaultEnvironment = .ok config ∧
    ∀ crypto : Crypto, ∃ history state,
      (serviceGate crypto config).Run history state ∧ ¬ PassesOnce crypto config history := by
  have outcome : (loadConfig defaultEnvironment).toOption.map (fun config =>
      (config.authMaxSkewSeconds, config.nonceTtlSeconds, resolvePrincipal config (some "svc-a"))) =
        some (300, 600, some ⟨"svc-a", "secret-a", true, .apiKey⟩) := by decide +kernel
  cases loaded : loadConfig defaultEnvironment with
  | error message =>
    rw [loaded] at outcome
    cases outcome
  | ok config =>
    rw [loaded] at outcome
    simp only [Except.toOption, Option.map_some, Option.some.injEq, Prod.mk.injEq] at outcome
    obtain ⟨skew, ttl, resolved⟩ := outcome
    refine ⟨config, rfl, ?_⟩
    intro crypto
    have keyed : firstHeader (posted "GET" none) ["X-Api-Key"] = some "svc-a" :=
      firstHeader_first rfl (by decide +kernel) (by decide)
    have usable : Usable config ⟨"svc-a", "secret-a", true, .apiKey⟩ :=
      ⟨rfl, posted "GET" none, by rw [keyed]; exact resolved⟩
    have near : ((1700000000000 / 1000 : Nat) - (earlyStamp.seconds : Int)).natAbs ≤ config.authMaxSkewSeconds := by
      rw [skew]
      decide
    have near' : ((1700000600000 / 1000 : Nat) - (earlyStamp.seconds : Int)).natAbs ≤ config.authMaxSkewSeconds := by
      rw [skew]
      decide
    exact window_replay crypto earlyStamp usable near near' (by rw [ttl])

end Agroasys.ServiceAuth
