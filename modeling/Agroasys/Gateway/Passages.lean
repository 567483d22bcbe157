import Agroasys.Foundation.Casting
import Agroasys.Gateway.Idempotency

namespace Agroasys.Gateway

open Function Agroasys.Foundation Agroasys.Runtime

variable {Body Own Context State : Type} {OwnAnswer : Own → Type} {sha256 : List UInt8 → String}

/-- Where a request stands. -/
inductive Passage (Context Body : Type) where
  | arriving (request : HttpRequest Context)
  /-- Its key is reserved, its handler not yet entered. -/
  | reserved (request : HttpRequest Context)
  | handling (request : HttpRequest Context)
  | settled (request : HttpRequest Context)
  /-- Its key has a record of another request. -/
  | conflicted (request : HttpRequest Context)
  | replaying (request : HttpRequest Context) (stored : StoredResponse Body)
  | replayed (request : HttpRequest Context) (stored : StoredResponse Body)
  | refused (request : HttpRequest Context) (failure : Failure)

/-- Where the record found for its key leaves a request. -/
def verdict (sha256 : List UInt8 → String) (request : HttpRequest Context) (key : String) :
    Option (IdempotencyRecord Body) → Passage Context Body
  | none => .refused request (.unexpected ("Failed to persist idempotency key " ++ key))
  | some record =>
    if request.Matches sha256 record then
      match record.stored with
      | some stored => .replaying request stored
      | none => .refused request inProgress
    else .refused request differentRequest

theorem verdict_stored {request : HttpRequest Context} {record : IdempotencyRecord Body}
    (same : request.Matches sha256 record) (stored : record.stored = some response) :
    verdict sha256 request key (some record) = .replaying request response := by
  unfold verdict
  dsimp only
  rw [if_pos same, stored]

theorem verdict_different {request : HttpRequest Context} {record : IdempotencyRecord Body}
    (different : ¬ request.Matches sha256 record) :
    verdict sha256 request key (some record) = .refused request differentRequest := by
  unfold verdict
  dsimp only
  rw [if_neg different]

def Passage.permits (sha256 : List UInt8 → String) : Passage Context Body → GatewayEffect Body Own → Prop
  | .arriving request, .store (.insertPending entry) =>
    ∃ key, request.key = some key ∧ entry = request.pending sha256 key
  | .reserved _, .next => True
  | .handling _, .own _ => True
  | .handling request, .store (.complete key response) => request.key = some key ∧ response.status < 500
  | .handling request, .store (.releasePending key) => request.key = some key
  | .conflicted request, .store (.get key) => request.key = some key
  | .replaying request _, .store (.markReplay key) => request.key = some key
  | _, _ => False

def Passage.after (sha256 : List UInt8 → String) :
    Passage Context Body → (effect : GatewayEffect Body Own) → GatewayAnswer OwnAnswer effect →
      Passage Context Body
  | .arriving request, .store (.insertPending _), answer =>
    match answer with
    | some _ => .reserved request
    | none => .conflicted request
  | .reserved request, .next, _ => .handling request
  | .handling request, .store _, _ => .settled request
  | .conflicted request, .store (.get key), answer => verdict sha256 request key answer
  | .replaying request stored, .store _, _ => .replayed request stored
  | passage, _, _ => passage

def passages (OwnAnswer : Own → Type) (sha256 : List UInt8 → String) :
    Protocol (GatewayEffect Body Own) (GatewayAnswer OwnAnswer) (Passage Context Body) where
  permits := Passage.permits sha256
  after := Passage.after sha256

/-- What a request that is over was answered. -/
def Passage.fits : Passage Context Body → Except Failure (Reply Body) → Prop
  | .arriving request, .error _ => request.key = none
  | .settled _, .ok reply => reply.replayed = false
  | .replayed _ stored, result => result = .ok ⟨stored.response, true⟩
  | .refused _ failure, result => result = .error failure
  | _, _ => False

/-- What a permitted call is and where it leads. -/
inductive Passes (sha256 : List UInt8 → String) :
    Passage Context Body → Event (GatewayEffect Body Own) (GatewayAnswer OwnAnswer) → Passage Context Body →
      Prop where
  | insert (record : IdempotencyRecord Body) (keyed : request.key = some key) : Passes sha256 (.arriving request)
      ⟨.store (.insertPending (request.pending sha256 key)), some record⟩ (.reserved request)
  | meet (keyed : request.key = some key) : Passes sha256 (.arriving request)
      ⟨.store (.insertPending (request.pending sha256 key)), none⟩ (.conflicted request)
  | enter : Passes sha256 (.reserved request) ⟨.next, ()⟩ (.handling request)
  | own (effect : Own) (answer : OwnAnswer effect) :
      Passes sha256 (.handling request) ⟨.own effect, answer⟩ (.handling request)
  | complete (response : Response Body) (keyed : request.key = some key) (answered : response.status < 500) :
      Passes sha256 (.handling request) ⟨.store (.complete key response), ()⟩ (.settled request)
  | release (keyed : request.key = some key) :
      Passes sha256 (.handling request) ⟨.store (.releasePending key), ()⟩ (.settled request)
  | get (answer : Option (IdempotencyRecord Body)) (keyed : request.key = some key) :
      Passes sha256 (.conflicted request) ⟨.store (.get key), answer⟩ (verdict sha256 request key answer)
  | mark (keyed : request.key = some key) :
      Passes sha256 (.replaying request stored) ⟨.store (.markReplay key), ()⟩
      (.replayed request stored)

theorem passes_of_permits {passage : Passage Context Body}
    {event : Event (GatewayEffect Body Own) (GatewayAnswer OwnAnswer)}
    (permitted : passage.permits sha256 event.effect) :
    Passes sha256 passage event (passage.after sha256 event.effect event.answer) := by
  obtain ⟨effect, answer⟩ := event
  unfold Passage.permits at permitted
  dsimp only at permitted
  split at permitted
  · obtain ⟨key, keyed, rfl⟩ := permitted
    cases answer with
    | some record => exact .insert record keyed
    | none => exact .meet keyed
  · exact .enter
  · exact .own _ (show OwnAnswer _ from answer)
  · exact .complete _ permitted.1 permitted.2
  · exact .release permitted
  · exact .get answer permitted
  · exact .mark permitted
  · cases permitted

section Follows

variable {handler : HttpRequest Context → Program Own OwnAnswer (Response Body)} {request : HttpRequest Context}

theorem runs_store {returns : Passage Context Body → StoreAnswer effect → Prop}
    {throws : Passage Context Body → Failure → Prop} {passage : Passage Context Body}
    (permitted : (passages OwnAnswer sha256).permits passage (.store effect))
    (answered : ∀ answer : StoreAnswer effect,
      returns ((passages OwnAnswer sha256).after passage (.store effect) answer) answer) :
    (passages OwnAnswer sha256).Runs returns throws passage (store effect) :=
  Protocol.Runs.perform permitted answered

private theorem runs_createPending {returns : Passage Context Body → IdempotencyRecord Body × Bool → Prop}
    {throws : Passage Context Body → Failure → Prop} (keyed : request.key = some key)
    (created : ∀ record, returns (.reserved request) (record, true))
    (found : ∀ record, returns (verdict sha256 request key (some record)) (record, false))
    (lost : throws (verdict sha256 request key none)
      (.unexpected ("Failed to persist idempotency key " ++ key))) :
    (passages OwnAnswer sha256).Runs returns throws (.arriving request)
      (createPending (request.pending sha256 key)) := by
  apply Protocol.Runs.bind
  refine runs_store ⟨key, keyed, rfl⟩ ?_
  intro answer
  cases answer with
  | some record => exact .pure (created record)
  | none =>
    apply Protocol.Runs.bind
    refine runs_store keyed ?_
    intro answer
    cases answer with
    | some record => exact .pure (found record)
    | none => exact .throw lost

private theorem runs_answerFrom {passage : Passage Context Body} (keyed : request.key = some key)
    (record : IdempotencyRecord Body) (led : passage = verdict sha256 request key (some record)) :
    (passages OwnAnswer sha256).Runs (fun passage reply => passage.fits (.ok reply))
      (fun passage failure => passage.fits (.error failure)) passage (answerFrom sha256 request key record) := by
  subst led
  unfold answerFrom verdict
  by_cases same : request.Matches sha256 record
  · rw [if_pos same]
    dsimp only
    rw [if_pos same]
    cases record.stored with
    | some stored =>
      apply Protocol.Runs.bind
      refine runs_store keyed ?_
      intro _
      exact .pure rfl
    | none => exact .throw rfl
  · rw [if_neg same]
    dsimp only
    rw [if_neg same]
    exact .throw rfl

private theorem runs_finish {returns : Passage Context Body → Unit → Prop}
    {throws : Passage Context Body → Failure → Prop} (keyed : request.key = some key) (response : Response Body)
    (returned : returns (.settled request) ()) :
    (passages OwnAnswer sha256).Runs returns throws (.handling request) (finish key response) := by
  unfold finish
  by_cases failed : 500 ≤ response.status
  · rw [if_pos failed]
    exact runs_store keyed fun _ => returned
  · rw [if_neg failed]
    exact runs_store ⟨keyed, Nat.lt_of_not_le failed⟩ fun _ => returned

/-- What a handler does leaves its request where it is. -/
theorem handler_follows {returns : Passage Context Body → Response Body → Prop}
    (program : Program Own OwnAnswer (Response Body)) (returned : ∀ response, returns (.handling request) response) :
    (passages OwnAnswer sha256).Follows returns (.handling request)
      (program.embed GatewayEffect.own fun _ answer => answer :
        Program (GatewayEffect Body Own) (GatewayAnswer OwnAnswer) (Response Body)) := by
  induction program with
  | done response => exact returned response
  | call effect next ih => exact ⟨trivial, fun answer => ih answer⟩

/-- The middleware keeps to its passages, whatever the handler does. -/
theorem idempotency_follows (handler : HttpRequest Context → Program Own OwnAnswer (Response Body))
    (request : HttpRequest Context) :
    (passages OwnAnswer sha256).Follows Passage.fits (.arriving request) (idempotency sha256 handler request).run := by
  apply Protocol.Runs.follows
  unfold idempotency
  cases keyed : request.key with
  | none => exact .throw keyed
  | some key =>
    apply Protocol.Runs.bind
    refine runs_createPending keyed ?_ ?_ rfl
    · intro record
      rw [if_pos rfl]
      apply Protocol.Runs.bind
      refine Protocol.Runs.perform trivial ?_
      intro _
      apply Protocol.Runs.bind
      refine Protocol.Runs.lift (handler_follows _ ?_)
      intro response
      apply Protocol.Runs.bind
      refine runs_finish keyed response ?_
      exact .pure rfl
    · intro record
      rw [if_neg Bool.false_ne_true]
      exact runs_answerFrom keyed record rfl

end Follows

end Agroasys.Gateway
