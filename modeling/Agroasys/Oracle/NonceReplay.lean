import Agroasys.Foundation.Pool
import Agroasys.Oracle.Hmac

namespace Agroasys.Oracle

open Agroasys.Foundation Agroasys.Runtime

variable {config : HmacConfig} {digests : Digests}

/-- The request of a step went through to its handler. -/
def Passes (config : HmacConfig) (digests : Digests) (entry : GateEntry) : Prop :=
  ∃ signature nonce,
    (hmacMiddleware config digests entry.label entry.before.rows).1 = .next signature nonce

/-- Two requests with one timestamp and one body. -/
def SamePair (entry other : GateEntry) : Prop :=
  entry.label.request.timestamp = other.label.request.timestamp ∧
    entry.label.request.body = other.label.request.body

/-- The timestamp header reads as a date. -/
def Dated (request : SignedRequest) : Prop :=
  ∃ timestamp, request.timestamp = some timestamp ∧ dateTime (parseInt timestamp) ≠ none

/-- Validly signed requests of one timestamp and body name one nonce, and the nonce
outlives their freshness: the nonces live longer than the window of six minutes and the
timestamp is a date, or the second comes before the nonce of the first expires. -/
def Unvaried (config : HmacConfig) (digests : Digests) (earlier : GateHistory) (entry : GateEntry) : Prop :=
  ∀ other ∈ earlier, SamePair entry other → ∀ first second,
    readSigned config digests other.label.now other.label.request = .ok first →
    readSigned config digests entry.label.now entry.label.request = .ok second →
      second.2 = first.2 ∧
        (Dated entry.label.request ∧ 360 < config.hmacNonceTtlSeconds ∨
          entry.label.now < other.label.now + config.hmacNonceTtlSeconds * 1000)

section Middleware

variable {presentation : Presentation} {rows : List NonceRow}

/-- The row a request leaves in the table. -/
def leaseOf (config : HmacConfig) (now : Nat) (nonce : String) : NonceRow :=
  ⟨(config.apiKey, nonce), now + config.hmacNonceTtlSeconds * 1000⟩

private theorem authorize_eq_ok (authorized : authorize config request = .ok token) : token = config.apiKey := by
  unfold authorize at authorized
  split at authorized
  · cases authorized
  · split at authorized
    · rename_i same
      cases authorized
      exact same
    · cases authorized

/-- What a request that is not refused outright asks of the table. -/
theorem middleware_cases (config : HmacConfig) (digests : Digests) (presentation : Presentation)
    (rows : List NonceRow) :
    (∃ refusal, hmacMiddleware config digests presentation rows = (.reply refusal, rows)) ∨
      ∃ signature nonce nonceAccepted left,
        readSigned config digests presentation.now presentation.request = .ok (signature, nonce) ∧
        presentation.fate.execute (.nonceStore "Connection terminated unexpectedly")
          (.ok (takeLease presentation.pruneFirst presentation.now (leaseOf config presentation.now nonce) rows))
          rows = (nonceAccepted, left) ∧
        hmacMiddleware config digests presentation rows = (afterNonce signature nonce nonceAccepted, left) := by
  unfold hmacMiddleware
  cases authorized : authorize config presentation.request with
  | error refusal => exact .inl ⟨refusal, rfl⟩
  | ok token =>
    cases authorize_eq_ok authorized
    cases read : readSigned config digests presentation.now presentation.request with
    | error refusal => exact .inl ⟨refusal, rfl⟩
    | ok signed => exact .inr ⟨signed.1, signed.2, _, _, rfl, rfl, rfl⟩

/-- A request that passes was signed and took its nonce. -/
theorem middleware_next
    (passed : (hmacMiddleware config digests presentation rows).1 = .next signature nonce) :
    readSigned config digests presentation.now presentation.request = .ok (signature, nonce) ∧
      (takeLease presentation.pruneFirst presentation.now (leaseOf config presentation.now nonce) rows).1 = true ∧
      leaseOf config presentation.now nonce ∈ (hmacMiddleware config digests presentation rows).2 := by
  rcases middleware_cases config digests presentation rows with
    ⟨refusal, same⟩ | ⟨signature', nonce', nonceAccepted, left, read, executed, same⟩
  · rw [same] at passed
    cases passed
  · rw [same] at passed ⊢
    unfold afterNonce at passed
    split at passed
    · cases passed
      have done := Fate.executed_ok executed
      rw [Except.ok.injEq] at done
      have taken := congrArg Prod.fst done
      have rest := congrArg Prod.snd done
      refine ⟨read, taken, ?_⟩
      rw [← show _ = left from rest]
      exact takeLease_taken taken
    · cases passed
    · cases passed

/-- A request leaves the nonces that have not expired. -/
theorem middleware_keeps (member : row ∈ rows) (live : presentation.now < row.expiresAt) :
    row ∈ (hmacMiddleware config digests presentation rows).2 := by
  rcases middleware_cases config digests presentation rows with
    ⟨refusal, same⟩ | ⟨signature, nonce, nonceAccepted, left, _, executed, same⟩
  · rw [same]
    exact member
  · rw [same]
    rcases Fate.executed executed with ⟨_, done, _⟩ | ⟨rfl, _⟩
    · have rest := congrArg Prod.snd (Except.ok.inj done)
      rw [← show _ = left from rest]
      exact takeLease_keeps _ _ _ member live
    · exact member

end Middleware

private theorem checkAge_bounds (fresh : checkAge now timestamp = .ok ())
    (dated : dateTime (parseInt timestamp) = some requestTime) :
    -maxSkewMs ≤ now - requestTime ∧ now - requestTime ≤ maxAgeMs := by
  unfold checkAge at fresh
  rw [dated] at fresh
  dsimp only at fresh
  by_cases old : now - requestTime > maxAgeMs
  · rw [if_pos old] at fresh
    cases fresh
  · rw [if_neg old] at fresh
    by_cases early : now - requestTime < -maxSkewMs
    · rw [if_pos early] at fresh
      cases fresh
    · exact ⟨by omega, by omega⟩

/-- A fresh request is at most six minutes younger than another with its timestamp. -/
theorem checkAge_window (fresh : checkAge now timestamp = .ok ()) (later : checkAge after timestamp = .ok ())
    (dated : dateTime (parseInt timestamp) ≠ none) : after ≤ now + 360000 := by
  obtain ⟨requestTime, same⟩ := Option.ne_none_iff_exists'.mp dated
  have first := (checkAge_bounds fresh same).1
  have second := (checkAge_bounds later same).2
  unfold maxSkewMs at first
  unfold maxAgeMs at second
  omega

/-- The signature a request was read with is over its own timestamp. -/
theorem readSigned_fresh (read : readSigned config digests now request = .ok signed)
    (given : request.timestamp = some timestamp) : checkAge now timestamp = .ok () := by
  unfold readSigned at read
  rw [given] at read
  split at read
  · rename_i timestamp' signature found _
    rw [Option.filter_eq_some_iff] at found
    cases found.1
    cases verified : checkAge now timestamp with
    | ok _ => rfl
    | error error =>
      simp [verifyRequestSignature, verified, bind, Except.bind] at read
  · cases read

/-- A nonce that a run leaves unexpired is still taken, and time has gone on. -/
theorem path_keeps (path : Path (hmacGate config digests) origin history state) :
    origin.clock ≤ state.clock ∧ ∀ row ∈ origin.rows, state.clock < row.expiresAt → row ∈ state.rows := by
  induction path with
  | start => exact ⟨Nat.le_refl _, fun _ member _ => member⟩
  | next _ taken ih =>
    obtain ⟨later, rfl⟩ := taken
    refine ⟨Nat.le_trans ih.1 later, ?_⟩
    intro row member live
    exact middleware_keeps (ih.2 row member (Nat.lt_of_le_of_lt later live)) live

/-- Where requests with one timestamp and body name one nonce that outlives them, one of
them passes at most. -/
theorem pair_passes_once (run : (hmacGate config digests).Run history state)
    (unvaried : Throughout (Unvaried config digests) history) :
    ∀ later entry earlier other, history = later ++ entry :: earlier → other ∈ earlier → SamePair entry other →
      Passes config digests other → ¬ Passes config digests entry := by
  intro later entry earlier other same member pair passed again
  obtain ⟨_, nonce, first⟩ := passed
  obtain ⟨_, nonce', second⟩ := again
  obtain ⟨read, _, lease⟩ := middleware_next first
  obtain ⟨read', taken, _⟩ := middleware_next second
  obtain ⟨named, outlives⟩ := unvaried later entry earlier same other member pair _ _ read read'
  dsimp only at named
  subst named
  obtain ⟨before, step, _⟩ := System.Run.split (same ▸ run)
  obtain ⟨_, _, _, _, first, after⟩ := before.cut member
  obtain ⟨ordered, kept⟩ := path_keeps after
  have live : entry.label.now < (leaseOf config other.label.now nonce').expiresAt := by
    rcases outlives with ⟨⟨timestamp, given, dated⟩, long⟩ | early
    · have fresh := readSigned_fresh read' given
      have fresh' := readSigned_fresh read (pair.1 ▸ given)
      have window := checkAge_window fresh' fresh dated
      unfold leaseOf
      dsimp only
      omega
    · exact early
  have held : leaseOf config other.label.now nonce' ∈ entry.before.rows := by
    apply kept
    · rw [first.2]
      exact lease
    · exact Nat.lt_of_le_of_lt step.1 live
  have refused : (takeLease entry.label.pruneFirst entry.label.now
      (leaseOf config entry.label.now nonce') entry.before.rows).1 = false :=
    takeLease_refuses held rfl live
  rw [refused] at taken
  cases taken

/-! One captured request, with the digests that belong to it. -/

def capturedConfig : HmacConfig :=
  ⟨"test-api-key", "test-hmac-secret", 600, by decide, by decide, by decide⟩

def capturedTimestamp : String := "1700000000000"

def capturedBody : String := "\x7b\"tradeId\":\"1\",\"requestId\":\"req-1\"\x7d"

def capturedSignature : String := "48e3c9890c3980fcdfc79ea08d41b01b196cc34a3936cf50e03e8581baa899cb"

def capturedNonce : String := "c09f98e86b539b59e6092deac89100cfb69edc6d91c2d7eecf044d935b3c0a6e"

def capturedDigests : Digests where
  hmacSha256 secret payload :=
    if secret = "test-hmac-secret" ∧ payload = capturedTimestamp ++ capturedBody then capturedSignature else ""
  sha256 text :=
    if text = ":".intercalate [capturedTimestamp, capturedBody, capturedSignature] then capturedNonce else ""

def capturedRequest (nonce : Option String) : SignedRequest :=
  ⟨some "Bearer test-api-key", some capturedTimestamp, some capturedSignature, nonce, some capturedBody⟩

def presented (nonce : Option String) (now : Nat) : Presentation :=
  ⟨capturedRequest nonce, now, true, .acknowledged⟩

/-- The captured request and a second one, one second later. -/
def replayed (nonce : Option String) : GateEntry × GateEntry :=
  let sent := presented none 1700000001000
  let again := presented nonce 1700000002000
  let origin : NonceState := ⟨[], 0⟩
  let middle : NonceState :=
    ⟨(hmacMiddleware capturedConfig capturedDigests sent origin.rows).2, 1700000001000⟩
  (⟨origin, sent, middle⟩,
    ⟨middle, again, (hmacMiddleware capturedConfig capturedDigests again middle.rows).2, 1700000002000⟩)

private theorem replayed_run (nonce : Option String) :
    (hmacGate capturedConfig capturedDigests).Run [(replayed nonce).2, (replayed nonce).1] (replayed nonce).2.after := by
  refine ⟨⟨[], 0⟩, trivial, .next (.next .start ⟨?_, rfl⟩) ⟨?_, rfl⟩⟩
  · exact Nat.zero_le _
  · show 1700000001000 ≤ 1700000002000
    decide

/-- The captured request, sent twice as it is. -/
theorem sameRequest_refused : Passes capturedConfig capturedDigests (replayed none).1 ∧
    ¬ Passes capturedConfig capturedDigests (replayed none).2 := by
  have accepted : (hmacMiddleware capturedConfig capturedDigests (presented none 1700000001000) []).1 =
      .next capturedSignature capturedNonce := by decide +kernel
  have passed : Passes capturedConfig capturedDigests (replayed none).1 :=
    ⟨capturedSignature, capturedNonce, accepted⟩
  have first := (middleware_next accepted).1
  have second : readSigned capturedConfig capturedDigests 1700000002000 (capturedRequest none) =
      .ok (capturedSignature, capturedNonce) := by decide +kernel
  have dated : Dated (capturedRequest none) := ⟨capturedTimestamp, rfl, by decide +kernel⟩
  have unvaried : Throughout (Unvaried capturedConfig capturedDigests)
      [(replayed none).2, (replayed none).1] := by
    intro later entry earlier same other member _ read read' signed signed'
    cases later with
    | nil =>
      obtain ⟨rfl, rfl⟩ := List.cons.inj same
      rw [List.mem_singleton] at member
      subst member
      cases first.symm.trans signed
      cases second.symm.trans signed'
      exact ⟨rfl, .inl ⟨dated, by decide⟩⟩
    | cons _ later =>
      obtain ⟨_, rest⟩ := List.cons.inj same
      cases later with
      | nil =>
        obtain ⟨_, rfl⟩ := List.cons.inj rest
        cases member
      | cons _ later => simp at rest
  exact ⟨passed, pair_passes_once (replayed_run none) unvaried [] (replayed none).2 [(replayed none).1]
    (replayed none).1 rfl (List.mem_singleton.mpr rfl) ⟨rfl, rfl⟩ passed⟩

/-- The captured request, sent again with an `X-Nonce` header. -/
theorem renamedRequest_passes :
    (hmacGate capturedConfig capturedDigests).Run [(replayed (some "1")).2, (replayed (some "1")).1]
        (replayed (some "1")).2.after ∧
      SamePair (replayed (some "1")).2 (replayed (some "1")).1 ∧
      Passes capturedConfig capturedDigests (replayed (some "1")).1 ∧
      Passes capturedConfig capturedDigests (replayed (some "1")).2 :=
  ⟨replayed_run (some "1"), ⟨rfl, rfl⟩, ⟨capturedSignature, capturedNonce, by decide +kernel⟩,
    ⟨capturedSignature, "1", by decide +kernel⟩⟩

end Agroasys.Oracle
