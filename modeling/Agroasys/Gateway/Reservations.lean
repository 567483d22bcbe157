import Agroasys.Gateway.Passages

namespace Agroasys.Gateway

open Function Agroasys.Foundation Agroasys.Runtime

variable {Body Own Context State : Type} {OwnAnswer : Own → Type} {sha256 : List UInt8 → String}

abbrev GatewayPool (Own : Type) (OwnAnswer : Own → Type) (Body State : Type) :=
  Pool (GatewayEffect Body Own) (GatewayAnswer OwnAnswer) (Except Failure (Reply Body)) (GatewayWorld Body State)

abbrev GatewayMove (Own : Type) (OwnAnswer : Own → Type) (Context Body : Type) :=
  Move (HttpRequest Context) (GatewayEffect Body Own) (GatewayAnswer OwnAnswer)

abbrev GatewayEntry (Own : Type) (OwnAnswer : Own → Type) (Context Body State : Type) :=
  Transition (GatewayPool Own OwnAnswer Body State) (GatewayMove Own OwnAnswer Context Body)

abbrev GatewayHistory (Own : Type) (OwnAnswer : Own → Type) (Context Body State : Type) :=
  History (GatewayPool Own OwnAnswer Body State) (GatewayMove Own OwnAnswer Context Body)

/-- The handler of a request has been entered and its response is not yet recorded. -/
def Handles (history : GatewayHistory Own OwnAnswer Context Body State) (pid : Nat) : Prop :=
  Made history pid ⟨.next, ()⟩ ∧ (∀ key response, ¬ Made history pid ⟨.store (.complete key response), ()⟩) ∧
    ∀ key, ¬ Made history pid ⟨.store (.releasePending key), ()⟩

/-- The request has put a record under the key and has not released it. -/
def Holds (history : GatewayHistory Own OwnAnswer Context Body State) (pid : Nat) (key : String) : Prop :=
  (∃ entry record, entry.idempotencyKey = key ∧ Made history pid ⟨.store (.insertPending entry), some record⟩) ∧
    ∀ key, ¬ Made history pid ⟨.store (.releasePending key), ()⟩

section Traces

variable {request : HttpRequest Context} {events : List (Event (GatewayEffect Body Own) (GatewayAnswer OwnAnswer))}
  {passage : Passage Context Body}

/-- The one lookup among these events, and where it led. -/
def FoundBy (sha256 : List UInt8 → String) (request : HttpRequest Context)
    (events : List (Event (GatewayEffect Body Own) (GatewayAnswer OwnAnswer))) (led : Passage Context Body) :
    Prop :=
  ∃ key answer, request.key = some key ∧ verdict sha256 request key answer = led ∧
    ∀ key' answer', ⟨.store (.get key'), answer'⟩ ∈ events ↔ key' = key ∧ answer' = answer

/-- The handler was not entered: the key was not free. -/
def Barred (events : List (Event (GatewayEffect Body Own) (GatewayAnswer OwnAnswer))) : Prop :=
  ⟨.next, ()⟩ ∉ events ∧ ∀ entry record, ⟨.store (.insertPending entry), some record⟩ ∉ events

/-- The key was free when the request came. -/
def Admitted (events : List (Event (GatewayEffect Body Own) (GatewayAnswer OwnAnswer))) : Prop :=
  (∀ entry, ⟨.store (.insertPending entry), none⟩ ∉ events) ∧
    ∀ key answer, ⟨.store (.get key), answer⟩ ∉ events

/-- The request has neither completed nor released its record. -/
def Unsettled (events : List (Event (GatewayEffect Body Own) (GatewayAnswer OwnAnswer))) : Prop :=
  (∀ key response, ⟨.store (.complete key response), ()⟩ ∉ events) ∧
    ∀ key, ⟨.store (.releasePending key), ()⟩ ∉ events

/-- What the events of a request say about where it stands. -/
def Passage.Told (sha256 : List UInt8 → String) (request : HttpRequest Context)
    (events : List (Event (GatewayEffect Body Own) (GatewayAnswer OwnAnswer))) : Passage Context Body → Prop
  | .arriving arrived => arrived = request ∧ events = []
  | .reserved arrived => arrived = request ∧ Admitted events ∧ Unsettled events ∧ ⟨.next, ()⟩ ∉ events
  | .handling arrived => arrived = request ∧ Admitted events ∧ Unsettled events
  | .settled arrived => arrived = request ∧ Admitted events ∧
      ((∃ key response, request.key = some key ∧ ⟨.store (.complete key response), ()⟩ ∈ events) ∨
        ∃ key, ⟨.store (.releasePending key), ()⟩ ∈ events)
  | .conflicted arrived => arrived = request ∧ Barred events ∧
      ∀ key answer, ⟨.store (.get key), answer⟩ ∉ events
  | .replaying arrived stored | .replayed arrived stored => arrived = request ∧ Barred events ∧
      FoundBy sha256 request events (.replaying request stored)
  | .refused arrived failure => arrived = request ∧ Barred events ∧
      FoundBy sha256 request events (.refused request failure)

private theorem told_verdict (barred : Barred events) (keyed : request.key = some key)
    (first : ∀ key answer, ⟨.store (.get key), answer⟩ ∉ events) (answer : Option (IdempotencyRecord Body)) :
    (verdict sha256 request key answer).Told sha256 request (⟨.store (.get key), answer⟩ :: events) := by
  have still : Barred ((⟨.store (.get key), answer⟩ :
      Event (GatewayEffect Body Own) (GatewayAnswer OwnAnswer)) :: events) := by
    simpa [Barred] using barred
  have found : FoundBy sha256 request ((⟨.store (.get key), answer⟩ :
      Event (GatewayEffect Body Own) (GatewayAnswer OwnAnswer)) :: events) (verdict sha256 request key answer) := by
    refine ⟨key, answer, keyed, rfl, ?_⟩
    intro key' answer'
    rw [List.mem_cons]
    constructor
    · intro member
      rcases member with same | sooner
      · cases same
        exact ⟨rfl, rfl⟩
      · exact absurd sooner (first key' answer')
    · intro same
      obtain ⟨rfl, rfl⟩ := same
      exact .inl rfl
  revert found
  generalize led : verdict sha256 request key answer = passage
  intro found
  unfold verdict at led
  split at led
  · subst led
    exact ⟨rfl, still, found⟩
  · split at led
    · split at led
      · subst led
        exact ⟨rfl, still, found⟩
      · subst led
        exact ⟨rfl, still, found⟩
    · subst led
      exact ⟨rfl, still, found⟩

theorem traced_told (traced : (passages OwnAnswer sha256).Traced (.arriving request) events passage) :
    passage.Told sha256 request events := by
  induction traced with
  | start => exact ⟨rfl, rfl⟩
  | @next events passage event _ permitted ih =>
    have passes := passes_of_permits permitted
    change (passage.after sha256 event.effect event.answer).Told sha256 request (event :: events)
    revert passes
    generalize passage.after sha256 event.effect event.answer = reached
    intro passes
    cases passes with
    | insert record keyed =>
      obtain ⟨rfl, rfl⟩ := ih
      simp [Passage.Told, Admitted, Unsettled]
    | meet keyed =>
      obtain ⟨rfl, rfl⟩ := ih
      simp [Passage.Told, Barred]
    | enter =>
      obtain ⟨rfl, admitted, unsettled, _⟩ := ih
      exact ⟨rfl, by simpa [Admitted] using admitted, by simpa [Unsettled] using unsettled⟩
    | own effect answer =>
      obtain ⟨rfl, admitted, unsettled⟩ := ih
      exact ⟨rfl, by simpa [Admitted] using admitted, by simpa [Unsettled] using unsettled⟩
    | complete response keyed answered =>
      obtain ⟨rfl, admitted, _⟩ := ih
      exact ⟨rfl, by simpa [Admitted] using admitted, .inl ⟨_, _, keyed, List.mem_cons_self⟩⟩
    | release keyed =>
      obtain ⟨rfl, admitted, _⟩ := ih
      exact ⟨rfl, by simpa [Admitted] using admitted, .inr ⟨_, List.mem_cons_self⟩⟩
    | get answer keyed =>
      obtain ⟨rfl, barred, first⟩ := ih
      exact told_verdict barred keyed first answer
    | mark keyed =>
      obtain ⟨rfl, barred, found⟩ := ih
      exact ⟨rfl, by simpa [Barred] using barred, by simpa [FoundBy] using found⟩

private theorem traced_insert (traced : (passages OwnAnswer sha256).Traced (.arriving request) events passage)
    (member : ⟨.store (.insertPending entry), answer⟩ ∈ events) :
    ∃ key, request.key = some key ∧ entry = request.pending sha256 key := by
  obtain ⟨sooner, reached, earlier, permitted⟩ := traced.permitted member
  have told := traced_told earlier
  cases reached with
  | arriving =>
    obtain ⟨rfl, _⟩ := told
    exact permitted
  | _ => cases permitted

private theorem traced_complete (traced : (passages OwnAnswer sha256).Traced (.arriving request) events passage)
    (member : ⟨.store (.complete key response), ()⟩ ∈ events) :
    request.key = some key ∧ response.status < 500 := by
  obtain ⟨sooner, reached, earlier, permitted⟩ := traced.permitted member
  have told := traced_told earlier
  cases reached with
  | handling =>
    obtain ⟨rfl, _⟩ := told
    exact permitted
  | _ => cases permitted

end Traces

/-- The request holds the pending record of its key. -/
def Passage.Occupies (request : HttpRequest Context) (key : String) : Passage Context Body → Prop
  | .reserved arrived | .handling arrived => arrived = request ∧ request.key = some key
  | _ => False

section Steps

/-- What a call does to the table. -/
inductive RowChange (sha256 : List UInt8 → String) (before after : IdempotencyTable Body) :
    Passage Context Body → Event (GatewayEffect Body Own) (GatewayAnswer OwnAnswer) → Passage Context Body →
      Prop where
  | reserve (request : HttpRequest Context) (key : String) (record : IdempotencyRecord Body)
      (keyed : request.key = some key) (free : before key = none) (fits : request.Matches sha256 record)
      (pending : record.stored = none) (changed : after = update before key (some record)) :
      RowChange sha256 before after (.arriving request)
        ⟨.store (.insertPending (request.pending sha256 key)), some record⟩ (.reserved request)
  | complete (request : HttpRequest Context) (key : String) (response : Response Body) (now : Nat)
      (keyed : request.key = some key) (changed : after = update before key
      ((before key).map fun record => { record with stored := some ⟨response, now⟩ })) :
      RowChange sha256 before after (.handling request) ⟨.store (.complete key response), ()⟩ (.settled request)
  | release (request : HttpRequest Context) (key : String) (keyed : request.key = some key)
      (changed : after = update before key ((before key).filter fun record => record.stored.isSome)) :
      RowChange sha256 before after (.handling request) ⟨.store (.releasePending key), ()⟩ (.settled request)
  | keep (same : after = before) (quiet : ∀ key response, event ≠ ⟨.store (.complete key response), ()⟩)
      (retained : ∀ key, event ≠ ⟨.store (.releasePending key), ()⟩) (occupied : ∀ request key, reached.Occupies request key → passage.Occupies request key) :
      RowChange sha256 before after passage event reached

variable {backend : Backend Own OwnAnswer Context Body State} {before after : GatewayWorld Body State}
  {passage reached : Passage Context Body} {event : Event (GatewayEffect Body Own) (GatewayAnswer OwnAnswer)}

theorem insert_rows {rows left : IdempotencyTable Body}
    (served : serveStore now rows (.insertPending entry) = (answer, left)) :
    (rows entry.idempotencyKey = none ∧ answer = some ⟨entry.idempotencyKey, entry.requestMethod,
        entry.requestPath, entry.requestFingerprint, entry.requestId, none, now⟩ ∧
      left = update rows entry.idempotencyKey answer) ∨
    (rows entry.idempotencyKey ≠ none ∧ answer = none ∧ left = rows) := by
  unfold serveStore at served
  dsimp only at served
  split at served
  · rename_i record present
    cases served
    exact .inr ⟨by simp [present], rfl, rfl⟩
  · rename_i absent
    cases served
    exact .inl ⟨absent, rfl, rfl⟩

private theorem passes_rows (passes : Passes sha256 passage event reached)
    (served : gatewayServes backend before event after) :
    RowChange sha256 before.rows after.rows passage event reached := by
  cases passes with
  | insert record keyed =>
    obtain ⟨⟨now, served⟩, _⟩ := served
    rcases insert_rows served with ⟨free, same, changed⟩ | ⟨_, absent, _⟩
    · rw [Option.some.injEq] at same
      subst same
      exact .reserve _ _ _ keyed free ⟨rfl, rfl, rfl⟩ rfl changed
    · cases absent
  | meet keyed =>
    obtain ⟨⟨now, served⟩, _⟩ := served
    rcases insert_rows served with ⟨_, absent, _⟩ | ⟨_, _, same⟩
    · cases absent
    · exact .keep same (by simp) (by simp) fun _ _ impossible => impossible
  | enter => exact .keep (congrArg GatewayWorld.rows served) (by simp) (by simp) fun _ _ => id
  | own effect answer => exact .keep served.1 (by simp) (by simp) fun _ _ => id
  | complete response keyed answered =>
    obtain ⟨⟨now, served⟩, _⟩ := served
    exact .complete _ _ _ now keyed (congrArg Prod.snd served).symm
  | release keyed =>
    obtain ⟨⟨now, served⟩, _⟩ := served
    exact .release _ _ keyed (congrArg Prod.snd served).symm
  | get answer keyed =>
    obtain ⟨⟨now, served⟩, _⟩ := served
    refine .keep (congrArg Prod.snd served).symm (by simp) (by simp) ?_
    intro request key impossible
    unfold verdict at impossible
    split at impossible
    · cases impossible
    · split at impossible
      · split at impossible <;> cases impossible
      · cases impossible
  | mark keyed =>
    obtain ⟨⟨now, served⟩, _⟩ := served
    exact .keep (congrArg Prod.snd served).symm (by simp) (by simp) fun _ _ impossible => impossible

end Steps

section Invariants

variable {backend : Backend Own OwnAnswer Context Body State}
  {history : GatewayHistory Own OwnAnswer Context Body State} {pool next : GatewayPool Own OwnAnswer Body State}
  {passage : Passage Context Body}

/-- Where the requests of a history stand. -/
abbrev standing (sha256 : List UInt8 → String) (history : GatewayHistory Own OwnAnswer Context Body State) :
    Nat → Option (Passage Context Body) :=
  casting (passages OwnAnswer sha256) Passage.arriving history

theorem gateway_follows (sha256 : List UInt8 → String) (backend : Backend Own OwnAnswer Context Body State)
    (request : HttpRequest Context) : (passages OwnAnswer sha256).Follows Passage.fits (.arriving request)
      ((gatewayServer sha256 backend).program request) :=
  idempotency_follows backend.handler request

theorem began_standing (run : (gatewayServer sha256 backend).system.Run history pool)
    (began : Began history pid request) :
    ∃ passage, standing sha256 history pid = some passage ∧ passage.Told sha256 request (eventsOf pid history) := by
  obtain ⟨passage, stands, traced⟩ := Server.began_traced (gateway_follows sha256 backend) run began
  exact ⟨passage, stands, traced_told traced⟩

/-- The records of the requests: an occupied key has a pending record, of the one request
that occupies it, and a recorded response stays. -/
structure Reserving (sha256 : List UInt8 → String) (history : GatewayHistory Own OwnAnswer Context Body State)
    (pool : GatewayPool Own OwnAnswer Body State) : Prop where
  occupied : ∀ pid passage request key, standing sha256 history pid = some passage → passage.Occupies request key →
    ∃ record, pool.world.rows key = some record ∧ request.Matches sha256 record ∧ record.stored = none
  single : ∀ pid other passage rival request again key, standing sha256 history pid = some passage →
    standing sha256 history other = some rival → passage.Occupies request key → rival.Occupies again key →
      pid = other
  completed : ∀ pid request key response, Began history pid request →
    Made history pid ⟨.store (.complete key response), ()⟩ →
      ∃ record now, pool.world.rows key = some record ∧ request.Matches sha256 record ∧
        record.stored = some ⟨response, now⟩

private theorem Reserving.same {entry : GatewayEntry Own OwnAnswer Context Body State}
    (reserving : Reserving sha256 history pool) (rows : next.world.rows = pool.world.rows)
    (earlier : ∀ pid passage request key, standing sha256 (entry :: history) pid = some passage →
      passage.Occupies request key → ∃ last, standing sha256 history pid = some last ∧ last.Occupies request key)
    (began : ∀ pid request, Began (entry :: history) pid request →
      ∀ key response, Made (entry :: history) pid ⟨.store (.complete key response), ()⟩ →
        Began history pid request ∧ Made history pid ⟨.store (.complete key response), ()⟩) :
    Reserving sha256 (entry :: history) next := by
  refine ⟨?_, ?_, ?_⟩
  · intro pid passage request key stands occupies
    obtain ⟨last, stood, occupied⟩ := earlier pid passage request key stands occupies
    rw [rows]
    exact reserving.occupied pid last request key stood occupied
  · intro pid other passage rival request again key stands against occupies rivals
    obtain ⟨_, stood, occupied⟩ := earlier pid passage request key stands occupies
    obtain ⟨_, against, rivalled⟩ := earlier other rival again key against rivals
    exact reserving.single _ _ _ _ _ _ _ stood against occupied rivalled
  · intro pid request key response begun made
    obtain ⟨begun, made⟩ := began pid request begun key response made
    rw [rows]
    exact reserving.completed pid request key response begun made

/-- A call that changes the record of a key leaves what other requests hold. -/
theorem Reserving.changed (reserving : Reserving sha256 history pool)
    (stands : standing sha256 (⟨pool, .perform pid event, next⟩ :: history) =
      update (standing sha256 history) pid (some reached))
    (rows : next.world.rows = update pool.world.rows key value)
    (own : ∀ request' key', reached.Occupies request' key' → key' = key ∧ ∃ record, value = some record ∧
      request'.Matches sha256 record ∧ record.stored = none)
    (alone : ∀ other rival request', other ≠ pid → standing sha256 history other = some rival →
      ¬ rival.Occupies request' key)
    (recorded : ∀ other request' response, Began history other request' →
      Made (⟨pool, .perform pid event, next⟩ :: history) other ⟨.store (.complete key response), ()⟩ →
        ∃ record now, value = some record ∧ request'.Matches sha256 record ∧ record.stored = some ⟨response, now⟩)
    (quiet : ∀ key' response, event = ⟨.store (.complete key' response), ()⟩ → key' = key) :
    Reserving sha256 (⟨pool, .perform pid event, next⟩ :: history) next := by
  refine ⟨?_, ?_, ?_⟩
  · intro other passage request' key' stood occupies
    rw [stands] at stood
    rw [rows]
    rcases update_assigned stood with ⟨rfl, rfl⟩ | ⟨different, stood⟩
    · obtain ⟨rfl, present⟩ := own request' key' occupies
      rw [update_self]
      exact present
    · rw [update_of_ne (show key' ≠ key from fun same =>
        alone other passage request' different stood (same ▸ occupies))]
      exact reserving.occupied other passage request' key' stood occupies
  · intro first second passage rival request' again key' stood against occupies rivals
    rw [stands] at stood against
    rcases update_assigned stood with ⟨here, now⟩ | ⟨different, before⟩
    · rcases update_assigned against with ⟨there, _⟩ | ⟨apart, against'⟩
      · rw [here, there]
      · obtain ⟨rfl, _⟩ := own request' key' (now ▸ occupies)
        exact absurd rivals (alone second rival again apart against')
    · rcases update_assigned against with ⟨_, now⟩ | ⟨_, against'⟩
      · obtain ⟨rfl, _⟩ := own again key' (now ▸ rivals)
        exact absurd occupies (alone first passage request' different before)
      · exact reserving.single first second passage rival request' again key' before against' occupies rivals
  · intro other request' key' response began made
    rw [rows]
    by_cases same : key' = key
    · subst same
      rw [update_self]
      exact recorded other request' response (began_perform.mp began) made
    · rw [update_of_ne same]
      rcases made_cons.mp made with label | made
      · cases label
        exact absurd (quiet key' response rfl) same
      · exact reserving.completed other request' key' response (began_perform.mp began) made

/-- No response has been recorded for a key whose record has none. -/
private theorem Reserving.unanswered (reserving : Reserving sha256 history pool)
    (bare : ∀ record, pool.world.rows key = some record → record.stored = none) (began : Began history pid request) :
    ¬ Made history pid ⟨.store (.complete key response), ()⟩ := by
  intro made
  obtain ⟨record, _, present, _, stored⟩ := reserving.completed pid request key response began made
  rw [bare record present] at stored
  cases stored

private theorem Reserving.bare (reserving : Reserving sha256 history pool)
    (stood : standing sha256 history pid = some passage) (occupies : passage.Occupies request key) :
    ∀ record, pool.world.rows key = some record → record.stored = none := by
  intro record present
  obtain ⟨other, there, _, pending⟩ := reserving.occupied pid passage request key stood occupies
  cases present.symm.trans there
  exact pending

/-- Nobody else occupies a key that is occupied. -/
private theorem Reserving.alone (reserving : Reserving sha256 history pool)
    (stood : standing sha256 history pid = some passage) (occupies : passage.Occupies request key) :
    ∀ other rival again, other ≠ pid → standing sha256 history other = some rival → ¬ rival.Occupies again key := by
  intro other rival again different against rivals
  exact different (reserving.single other pid rival passage again request key against stood rivals occupies)

private theorem reserving_perform (reserving : Reserving sha256 history pool)
    (acts : (gatewayServer sha256 backend).Acts (passages OwnAnswer sha256) Passage.arriving history pool pid event
      passage next) : Reserving sha256 (⟨pool, .perform pid event, next⟩ :: history) next := by
  have passes := passes_of_permits acts.permitted
  have change := passes_rows passes acts.served
  have stands : standing sha256 (⟨pool, .perform pid event, next⟩ :: history) =
      update (standing sha256 history) pid (some (passage.after sha256 event.effect event.answer)) :=
    casting_perform acts.assigned
  have stood := acts.assigned
  obtain ⟨asked, began, traced⟩ := Server.casting_traced (gateway_follows sha256 backend) acts.run stood
  have told := traced_told traced
  generalize passage.after sha256 event.effect event.answer = reached at change stands
  cases change with
  | reserve request key record keyed free fits pending changed =>
    apply reserving.changed stands changed
    · intro request' key' occupies
      obtain ⟨rfl, keyed'⟩ := occupies
      cases keyed.symm.trans keyed'
      exact ⟨rfl, record, rfl, fits, pending⟩
    · intro other rival request' _ against rivals
      obtain ⟨record', present, _⟩ := reserving.occupied other rival request' key against rivals
      rw [free] at present
      cases present
    · intro other request' response begun made
      rcases made_cons.mp made with label | made
      · cases label
      · refine absurd made (reserving.unanswered (fun record' present => ?_) begun)
        rw [free] at present
        cases present
    · intro key' response same
      cases same
  | complete request key response now keyed changed =>
    obtain ⟨record, present, fits, pending⟩ := reserving.occupied pid _ request key stood ⟨rfl, keyed⟩
    have bare := reserving.bare stood ⟨rfl, keyed⟩
    rw [present, Option.map_some] at changed
    apply reserving.changed stands changed
    · intro request' key' impossible
      cases impossible
    · exact reserving.alone stood ⟨rfl, keyed⟩
    · intro other request' response' begun made
      rcases made_cons.mp made with label | made
      · cases label
        cases Server.began_unique acts.run began begun
        obtain ⟨rfl, _⟩ := told
        exact ⟨_, now, rfl, fits, rfl⟩
      · exact absurd made (reserving.unanswered bare begun)
    · intro key' response' same
      cases same
      rfl
  | release request key keyed changed =>
    obtain ⟨record, present, fits, pending⟩ := reserving.occupied pid _ request key stood ⟨rfl, keyed⟩
    have bare := reserving.bare stood ⟨rfl, keyed⟩
    have dropped : (some record).filter (fun record => record.stored.isSome) = none := by
      simp [pending]
    rw [present, dropped] at changed
    apply reserving.changed stands changed
    · intro request' key' impossible
      cases impossible
    · exact reserving.alone stood ⟨rfl, keyed⟩
    · intro other request' response' begun made
      rcases made_cons.mp made with label | made
      · cases label
      · exact absurd made (reserving.unanswered bare begun)
    · intro key' response' same
      cases same
  | keep same quiet _ occupied =>
    apply reserving.same same
    · intro other passage' request key stands' occupies
      rw [stands] at stands'
      rcases update_assigned stands' with ⟨rfl, rfl⟩ | ⟨_, stands'⟩
      · exact ⟨passage, stood, occupied request key occupies⟩
      · exact ⟨passage', stands', occupies⟩
    · intro other request begun key response made
      refine ⟨began_perform.mp begun, (made_cons.mp made).resolve_left ?_⟩
      intro label
      cases label
      exact quiet key response rfl

theorem run_reserving (run : (gatewayServer sha256 backend).system.Run history pool) :
    Reserving sha256 history pool := by
  apply Server.run_kept (gateway_follows sha256 backend) ?_ ?_ ?_ ?_ run throughout_trivial
  · intro pool _
    refine ⟨?_, ?_, ?_⟩
    · intro pid passage request key stands
      cases stands
    · intro pid other passage rival request again key stands
      cases stands
    · intro pid request key response began
      obtain ⟨_, member, _⟩ := began
      cases member
  · intro history pool pid request next run _ absent taken reserving
    apply reserving.same (congrArg GatewayWorld.rows (Server.started taken).1)
    · intro other passage request' key stands occupies
      have assigned : update (standing sha256 history) pid (some (.arriving request)) other = some passage := stands
      rcases update_assigned assigned with ⟨_, rfl⟩ | ⟨_, before⟩
      · cases occupies
      · exact ⟨passage, before, occupies⟩
    · intro other request' began key response made
      have made' := (made_cons.mp made).resolve_left (by intro label; cases label)
      refine ⟨?_, made'⟩
      rcases began_start.mp began with ⟨rfl, _⟩ | sooner
      · exact absurd made' (Server.unmade (gateway_follows sha256 backend) run absent)
      · exact sooner
  · intro history pool pid event passage next acts _ reserving
    exact reserving_perform reserving acts
  · intro history pool next run _ taken reserving
    apply reserving.same taken.1.1
    · intro pid passage request key stands occupies
      exact ⟨passage, stands, occupies⟩
    · intro pid request began key response made
      exact ⟨began_drift.mp began, (made_cons.mp made).resolve_left (by intro label; cases label)⟩

/-- A request inserts only under its own key. -/
theorem insert_key (run : (gatewayServer sha256 backend).system.Run history pool) (began : Began history pid request)
    (made : Made history pid ⟨.store (.insertPending entry), answer⟩) :
    request.key = some entry.idempotencyKey ∧ entry = request.pending sha256 entry.idempotencyKey := by
  obtain ⟨passage, _, traced⟩ := Server.began_traced (gateway_follows sha256 backend) run began
  obtain ⟨key, keyed, rfl⟩ := traced_insert traced (made_iff.mp made)
  exact ⟨keyed, rfl⟩

/-- A request completes only the record of its own key, with a status below 500. -/
theorem complete_key (run : (gatewayServer sha256 backend).system.Run history pool) (began : Began history pid request)
    (made : Made history pid ⟨.store (.complete key response), ()⟩) :
    request.key = some key ∧ response.status < 500 := by
  obtain ⟨passage, _, traced⟩ := Server.began_traced (gateway_follows sha256 backend) run began
  exact traced_complete traced (made_iff.mp made)

/-- What is held is there. -/
theorem held_record (run : (gatewayServer sha256 backend).system.Run history pool)
    (began : Began history pid request) (holds : Holds history pid key) :
    ∃ record, pool.world.rows key = some record ∧ request.Matches sha256 record := by
  have reserving := run_reserving run
  obtain ⟨⟨entry, record, rfl, made⟩, unreleased⟩ := holds
  obtain ⟨keyed, _⟩ := insert_key run began made
  obtain ⟨passage, stands, told⟩ := began_standing run began
  have member := made_iff.mp made
  cases passage with
  | arriving =>
    rw [told.2] at member
    cases member
  | reserved =>
    obtain ⟨rfl, _⟩ := told
    obtain ⟨record, present, fits, _⟩ := reserving.occupied pid _ _ _ stands ⟨rfl, keyed⟩
    exact ⟨record, present, fits⟩
  | handling =>
    obtain ⟨rfl, _⟩ := told
    obtain ⟨record, present, fits, _⟩ := reserving.occupied pid _ _ _ stands ⟨rfl, keyed⟩
    exact ⟨record, present, fits⟩
  | settled =>
    rcases told.2.2 with ⟨key, response, keyed', done⟩ | ⟨key, released⟩
    · cases keyed.symm.trans keyed'
      obtain ⟨record, now, present, fits, _⟩ :=
        reserving.completed pid request _ response began (made_iff.mpr done)
      exact ⟨record, present, fits⟩
    · exact absurd (made_iff.mpr released) (unreleased key)
  | conflicted => exact absurd member (told.2.1.2 entry record)
  | replaying => exact absurd member (told.2.1.2 entry record)
  | replayed => exact absurd member (told.2.1.2 entry record)
  | refused => exact absurd member (told.2.1.2 entry record)

/-- A request whose handler runs occupies its key. -/
theorem handles_occupies (run : (gatewayServer sha256 backend).system.Run history pool)
    (began : Began history pid request) (keyed : request.key = some key) (handles : Handles history pid) :
    ∃ passage, standing sha256 history pid = some passage ∧ passage.Occupies request key := by
  obtain ⟨entered, uncompleted, unreleased⟩ := handles
  obtain ⟨passage, stands, told⟩ := began_standing run began
  have member := made_iff.mp entered
  cases passage with
  | arriving =>
    rw [told.2] at member
    cases member
  | reserved => exact absurd member told.2.2.2
  | handling =>
    obtain ⟨rfl, _⟩ := told
    exact ⟨_, stands, rfl, keyed⟩
  | settled =>
    rcases told.2.2 with ⟨key, response, _, done⟩ | ⟨key, released⟩
    · exact absurd (made_iff.mpr done) (uncompleted key response)
    · exact absurd (made_iff.mpr released) (unreleased key)
  | conflicted => exact absurd member told.2.1.1
  | replaying => exact absurd member told.2.1.1
  | replayed => exact absurd member told.2.1.1
  | refused => exact absurd member told.2.1.1

/-- What a lookup finds decides what becomes of the request. -/
theorem found_standing (run : (gatewayServer sha256 backend).system.Run history pool)
    (began : Began history pid request) (made : Made history pid ⟨.store (.get key), answer⟩) :
    ∃ passage, standing sha256 history pid = some passage ∧ ¬ Made history pid ⟨.next, ()⟩ ∧
      match verdict sha256 request key answer with
      | .replaying _ stored => passage = .replaying request stored ∨ passage = .replayed request stored
      | led => passage = led := by
  obtain ⟨passage, stands, told⟩ := began_standing run began
  have member := made_iff.mp made
  refine ⟨passage, stands, ?_⟩
  rw [made_iff]
  cases passage with
  | arriving =>
    rw [told.2] at member
    cases member
  | reserved => exact absurd member (told.2.1.2 key answer)
  | handling => exact absurd member (told.2.1.2 key answer)
  | settled => exact absurd member (told.2.1.2 key answer)
  | conflicted => exact absurd member (told.2.2 key answer)
  | replaying =>
    obtain ⟨rfl, barred, key', answer', _, led, only⟩ := told
    obtain ⟨rfl, rfl⟩ := (only key answer).mp member
    rw [led]
    exact ⟨barred.1, .inl rfl⟩
  | replayed =>
    obtain ⟨rfl, barred, key', answer', _, led, only⟩ := told
    obtain ⟨rfl, rfl⟩ := (only key answer).mp member
    rw [led]
    exact ⟨barred.1, .inr rfl⟩
  | refused =>
    obtain ⟨rfl, barred, key', answer', _, led, only⟩ := told
    obtain ⟨rfl, rfl⟩ := (only key answer).mp member
    rw [led]
    exact ⟨barred.1, rfl⟩

/-- A lookup answers with the record that is there. -/
theorem get_answer (taken : (gatewayServer sha256 backend).system.step pool
    (.perform pid ⟨.store (.get key), answer⟩) next) : answer = pool.world.rows key := by
  obtain ⟨_, _, ⟨⟨now, served⟩, _⟩, _⟩ := taken
  exact (congrArg Prod.fst served).symm

/-- An insert under a key that is taken comes back empty. -/
theorem insert_answer (taken : (gatewayServer sha256 backend).system.step pool
    (.perform pid ⟨.store (.insertPending entry), answer⟩) next)
    (present : pool.world.rows entry.idempotencyKey ≠ none) : answer = none := by
  obtain ⟨_, _, ⟨⟨now, served⟩, _⟩, _⟩ := taken
  rcases insert_rows served with ⟨free, _⟩ | ⟨_, same, _⟩
  · exact absurd free present
  · exact same

theorem holds_cons {entry : GatewayEntry Own OwnAnswer Context Body State} (holds : Holds (entry :: history) pid key) :
    Holds history pid key ∨ ∃ pending record, pending.idempotencyKey = key ∧
      entry.label = .perform pid ⟨.store (.insertPending pending), some record⟩ := by
  obtain ⟨⟨pending, record, named, made⟩, unreleased⟩ := holds
  rcases made_cons.mp made with label | sooner
  · exact .inr ⟨pending, record, named, label⟩
  · exact .inl ⟨⟨pending, record, named, sooner⟩, fun key released => unreleased key (released.later entry)⟩

/-- The record of a held key is there. -/
theorem held_present (run : (gatewayServer sha256 backend).system.Run history pool) (holds : Holds history pid key) :
    pool.world.rows key ≠ none := by
  obtain ⟨⟨entry, record, _, made⟩, _⟩ := id holds
  obtain ⟨program, present⟩ := Option.ne_none_iff_exists'.mp (Server.made_running run made)
  obtain ⟨role, assigned, _⟩ := (Server.run_casting (gateway_follows sha256 backend) run).assigned present
  obtain ⟨request, began, _⟩ := Server.casting_traced (gateway_follows sha256 backend) run assigned
  obtain ⟨row, there, _⟩ := held_record run began holds
  simp [there]

/-- A call leaves a record just to a request that holds it. -/
theorem held_perform (held : ∀ {key record}, pool.world.rows key = some record → ∃ pid, Holds history pid key)
    (acts : (gatewayServer sha256 backend).Acts (passages OwnAnswer sha256) Passage.arriving history pool pid event
      passage next) (present : next.world.rows key = some record) :
    ∃ other, Holds (⟨pool, .perform pid event, next⟩ :: history) other key := by
  have passes := passes_of_permits acts.permitted
  have change := passes_rows passes acts.served
  generalize passage.after sha256 event.effect event.answer = reached at change
  have earlier {row : IdempotencyRecord Body} (present : pool.world.rows key = some row)
      (unreleased : ∀ key', event = ⟨.store (.releasePending key'), ()⟩ → key' ≠ key) :
      ∃ other, Holds (⟨pool, .perform pid event, next⟩ :: history) other key := by
    obtain ⟨other, ⟨entry, row, rfl, made⟩, unreleased'⟩ := held present
    refine ⟨other, ⟨entry, row, rfl, made.later _⟩, ?_⟩
    intro key' released
    rcases made_cons.mp released with label | sooner
    · cases label
      obtain ⟨request, began, traced⟩ :=
        Server.casting_traced (gateway_follows sha256 backend) acts.run acts.assigned
      obtain ⟨keyed, _⟩ := insert_key acts.run began made
      cases passes with
      | release keyed' =>
        obtain ⟨rfl, _⟩ := traced_told traced
        rw [keyed, Option.some.injEq] at keyed'
        exact unreleased key' rfl keyed'.symm
    · exact unreleased' key' sooner
  have reserving := run_reserving acts.run
  have stood := acts.assigned
  cases change with
  | reserve request key' row keyed free fits pending changed =>
    by_cases same : key = key'
    · subst same
      refine ⟨pid, ⟨request.pending sha256 key, row, rfl, made_cons.mpr (.inl rfl)⟩, ?_⟩
      intro key' released
      rcases made_cons.mp released with label | sooner
      · cases label
      · obtain ⟨asked, began, traced⟩ :=
          Server.casting_traced (gateway_follows sha256 backend) acts.run stood
        have member := made_iff.mp sooner
        rw [(traced_told traced).2] at member
        cases member
    · rw [changed, update_of_ne same] at present
      apply earlier present
      intro key' impossible
      cases impossible
  | complete request key' response now keyed changed =>
    have before : ∃ row, pool.world.rows key = some row := by
      by_cases same : key = key'
      · subst same
        obtain ⟨row, there, _⟩ := reserving.occupied pid _ request key stood ⟨rfl, keyed⟩
        exact ⟨row, there⟩
      · rw [changed, update_of_ne same] at present
        exact ⟨_, present⟩
    obtain ⟨row, there⟩ := before
    apply earlier there
    intro key' impossible
    cases impossible
  | release request key' keyed changed =>
    by_cases same : key = key'
    · subst same
      obtain ⟨row, there, _, pending⟩ := reserving.occupied pid _ request key stood ⟨rfl, keyed⟩
      rw [changed, update_self, there, Option.filter_eq_some_iff] at present
      obtain ⟨same, stored⟩ := present
      cases same
      rw [pending] at stored
      cases stored
    · rw [changed, update_of_ne same] at present
      apply earlier present
      intro released other
      cases other
      exact Ne.symm same
  | keep same _ retained _ =>
    rw [same] at present
    exact earlier present fun key' impossible => absurd impossible (retained key')

/-- A record is there just if a request holds it. -/
theorem run_held (run : (gatewayServer sha256 backend).system.Run history pool)
    (present : pool.world.rows key = some record) : ∃ pid, Holds history pid key := by
  revert key record
  apply Server.run_kept (gateway_follows sha256 backend) ?_ ?_ ?_ ?_ run throughout_trivial
  · intro pool initial key record present
    rw [initial.1.1 key] at present
    cases present
  · intro history pool pid request next run _ absent taken held key record present
    rw [(Server.started taken).1] at present
    obtain ⟨other, ⟨entry, row, named, made⟩, unreleased⟩ := held present
    refine ⟨other, ⟨entry, row, named, made.later _⟩, ?_⟩
    intro key' released
    exact unreleased key' ((made_cons.mp released).resolve_left (by intro label; cases label))
  · intro history pool pid event passage next acts _ held key record present
    exact held_perform held acts present
  · intro history pool next run _ taken held key record present
    rw [taken.1.1] at present
    obtain ⟨other, ⟨entry, row, named, made⟩, unreleased⟩ := held present
    refine ⟨other, ⟨entry, row, named, made.later _⟩, ?_⟩
    intro key' released
    exact unreleased key' ((made_cons.mp released).resolve_left (by intro label; cases label))

end Invariants

end Agroasys.Gateway
