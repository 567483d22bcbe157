import Mathlib.Data.Nat.Init
import Agroasys.Gateway.Replays

/-! Whose response a replay is. The table knows keys, methods, paths and fingerprints, and
no users: one user's request can be answered for another's. -/

namespace Agroasys.Gateway

open Function Agroasys.Foundation Agroasys.Runtime

variable {Body Own Context State : Type} {OwnAnswer : Own → Type} {sha256 : List UInt8 → String}

/-- The user that a request is authenticated as. -/
def HttpRequest.userId (principal : Context → GatewayPrincipal) (request : HttpRequest Context) : String :=
  (principal request.context).session.userId

/-- One method and one path, and one body or what the middleware takes for one. -/
def Rivals (sha256 : List UInt8 → String) (request again : HttpRequest Context) : Prop :=
  request.method = again.method ∧ request.path = again.path ∧
    (request.body = again.body ∨ request.fingerprint sha256 = again.fingerprint sha256)

/-- When a request arrives, each rival of its key from another user is over, and has left
no record: it was answered with a server error, or never had one. -/
def Separate (principal : Context → GatewayPrincipal) (sha256 : List UInt8 → String)
    (earlier : GatewayHistory Own OwnAnswer Context Body State)
    (step : GatewayEntry Own OwnAnswer Context Body State) : Prop :=
  ∀ other again pid request key, step.label = .start other again → Began earlier pid request →
    request.key = some key → again.key = some key → Rivals sha256 request again →
      request.userId principal ≠ again.userId principal → ¬ step.before.Live pid ∧ ¬ Holds earlier pid key

/-- A record of the request stands under the key when the other looks it up. -/
def Prevents (history : GatewayHistory Own OwnAnswer Context Body State) (pid other : Nat) (key : String) : Prop :=
  Sometime (fun earlier entry => Holds earlier pid key ∧ LooksUp entry other key) history

private theorem Rivals.symm {request again : HttpRequest Context} (rivals : Rivals sha256 request again) :
    Rivals sha256 again request :=
  ⟨rivals.1.symm, rivals.2.1.symm, rivals.2.2.imp Eq.symm Eq.symm⟩

section Traces

variable {request : HttpRequest Context} {events : List (Event (GatewayEffect Body Own) (GatewayAnswer OwnAnswer))}
  {passage : Passage Context Body}

/-- The request asked for its key, and this came of it. -/
def Asked (sha256 : List UInt8 → String) (request : HttpRequest Context)
    (events : List (Event (GatewayEffect Body Own) (GatewayAnswer OwnAnswer)))
    (came : Option (IdempotencyRecord Body) → Prop) : Prop :=
  ∃ key answer, request.key = some key ∧ came answer ∧
    ⟨.store (.insertPending (request.pending sha256 key)), answer⟩ ∈ events

/-- Which way a request went: to its handler, or past it. -/
def Passage.Went (sha256 : List UInt8 → String) (request : HttpRequest Context)
    (events : List (Event (GatewayEffect Body Own) (GatewayAnswer OwnAnswer))) : Passage Context Body → Prop
  | .arriving _ => True
  | .reserved _ => Asked sha256 request events (· ≠ none)
  | .handling _ | .settled _ => ⟨.next, ()⟩ ∈ events ∧ Asked sha256 request events (· ≠ none)
  | _ => Asked sha256 request events (· = none)

private theorem Asked.later {came : Option (IdempotencyRecord Body) → Prop} (asked : Asked sha256 request events came)
    (event : Event (GatewayEffect Body Own) (GatewayAnswer OwnAnswer)) :
    Asked sha256 request (event :: events) came := by
  obtain ⟨key, answer, keyed, met, member⟩ := asked
  exact ⟨key, answer, keyed, met, List.mem_cons_of_mem _ member⟩

private theorem traced_went (traced : (passages OwnAnswer sha256).Traced (.arriving request) events passage) :
    passage.Went sha256 request events := by
  induction traced with
  | start => trivial
  | @next events passage event earlier permitted ih =>
    have passes := passes_of_permits permitted
    have told := traced_told earlier
    change (passage.after sha256 event.effect event.answer).Went sha256 request (event :: events)
    generalize passage.after sha256 event.effect event.answer = reached at passes
    cases passes with
    | insert record keyed =>
      obtain ⟨rfl, _⟩ := told
      exact ⟨_, some record, keyed, Option.some_ne_none record, List.mem_cons_self⟩
    | meet keyed =>
      obtain ⟨rfl, _⟩ := told
      exact ⟨_, none, keyed, rfl, List.mem_cons_self⟩
    | enter => exact ⟨List.mem_cons_self, Asked.later ih _⟩
    | own => exact ⟨List.mem_cons_of_mem _ ih.1, ih.2.later _⟩
    | complete => exact ⟨List.mem_cons_of_mem _ ih.1, ih.2.later _⟩
    | release => exact ⟨List.mem_cons_of_mem _ ih.1, ih.2.later _⟩
    | get answer keyed =>
      unfold verdict
      split
      · exact Asked.later ih _
      · split
        · split
          · exact Asked.later ih _
          · exact Asked.later ih _
        · exact Asked.later ih _
    | mark => exact Asked.later ih _

/-- A recorded response is the last of its request, and never released. -/
theorem traced_kept (traced : (passages OwnAnswer sha256).Traced (.arriving request) events passage)
    (completed : ⟨.store (.complete key response), ()⟩ ∈ events) :
    (∃ arrived, passage = .settled arrived) ∧ ∀ key, ⟨.store (.releasePending key), ()⟩ ∉ events := by
  induction traced with
  | start => cases completed
  | @next events passage event earlier permitted ih =>
    have passes := passes_of_permits permitted
    have told := traced_told earlier
    change (∃ arrived, passage.after sha256 event.effect event.answer = .settled arrived) ∧ _
    generalize passage.after sha256 event.effect event.answer = reached at passes ⊢
    rcases List.mem_cons.mp completed with same | before
    · subst same
      cases passes with
      | complete =>
        refine ⟨⟨_, rfl⟩, ?_⟩
        intro key released
        rcases List.mem_cons.mp released with same | sooner
        · cases same
        · exact told.2.2.2 key sooner
    · obtain ⟨⟨arrived, rfl⟩, _⟩ := ih before
      cases passes

end Traces

section Runs

variable {principal : Context → GatewayPrincipal} {backend : Backend Own OwnAnswer Context Body State}
  {history earlier later : GatewayHistory Own OwnAnswer Context Body State}
  {entry : GatewayEntry Own OwnAnswer Context Body State} {pool : GatewayPool Own OwnAnswer Body State}
  {request again : HttpRequest Context}

/-- While a request runs, its rivals from other users are over and hold nothing. -/
def Apart (principal : Context → GatewayPrincipal) (sha256 : List UInt8 → String)
    (history : GatewayHistory Own OwnAnswer Context Body State) (pool : GatewayPool Own OwnAnswer Body State) : Prop :=
  ∀ pid other request again key, Began history pid request → Began history other again → request.key = some key →
    again.key = some key → Rivals sha256 request again → request.userId principal ≠ again.userId principal →
      pool.Live other → ¬ pool.Live pid ∧ ¬ Holds history pid key

private theorem run_apart (run : (gatewayServer sha256 backend).system.Run history pool)
    (separate : Throughout (Separate principal sha256) history) : Apart principal sha256 history pool := by
  apply Server.run_kept (gateway_follows sha256 backend) ?_ ?_ ?_ ?_ run separate
  · intro pool _ pid other request again key began
    obtain ⟨_, member, _⟩ := began
    cases member
  · intro history pool fresh call next run granted _ taken apart pid other request again key began begun keyed keyed'
      rivals different live
    have begin_holds (holds : Holds (⟨pool, .start fresh call, next⟩ :: history) pid key) : Holds history pid key := by
      rcases holds_cons holds with before | ⟨_, _, _, label⟩
      · exact before
      · cases label
    obtain ⟨_, running⟩ := Server.started taken
    have older {number : Nat} (apart : number ≠ fresh) (alive : next.Live number) : pool.Live number := by
      obtain ⟨effect, rest, present⟩ := alive
      rw [running, update_of_ne apart] at present
      exact ⟨effect, rest, present⟩
    rcases began_start.mp begun with ⟨rfl, rfl⟩ | before
    · rcases began_start.mp began with ⟨_, rfl⟩ | sooner
      · exact absurd rfl different
      · have passed := granted other again pid request key rfl sooner keyed keyed' rivals different
        have elsewhere : pid ≠ other := by
          rintro rfl
          exact Server.began_running run sooner taken.1
        exact ⟨fun alive => passed.1 (older elsewhere alive), fun holds => passed.2 (begin_holds holds)⟩
    · have present : pool.Live other := older (by
        rintro rfl
        exact Server.began_running run before taken.1) live
      rcases began_start.mp began with ⟨rfl, rfl⟩ | sooner
      · exact absurd present (granted pid request other again key rfl before keyed' keyed rivals.symm different.symm).1
      · have passed := apart pid other request again key sooner before keyed keyed' rivals different present
        have elsewhere : pid ≠ fresh := by
          rintro rfl
          exact Server.began_running run sooner taken.1
        exact ⟨fun alive => passed.1 (older elsewhere alive), fun holds => passed.2 (begin_holds holds)⟩
  · intro history pool caller event passage next acts _ apart pid other request again key began begun keyed keyed'
      rivals different live
    have passed := apart pid other request again key (began_perform.mp began) (began_perform.mp begun) keyed keyed'
      rivals different (acts.before live)
    refine ⟨fun alive => passed.1 (acts.before alive), ?_⟩
    intro holds
    rcases holds_cons holds with before | ⟨_, _, _, label⟩
    · exact passed.2 before
    · cases label
      exact passed.1 acts.live
  · intro history pool next _ _ taken apart pid other request again key began begun keyed keyed' rivals different live
    have same (number : Nat) (alive : next.Live number) : pool.Live number := by
      unfold Pool.Live at alive ⊢
      rwa [taken.2] at alive
    have passed := apart pid other request again key (began_drift.mp began) (began_drift.mp begun) keyed keyed'
      rivals different (same other live)
    refine ⟨fun alive => passed.1 (same pid alive), ?_⟩
    intro holds
    rcases holds_cons holds with before | ⟨_, _, _, label⟩
    · exact passed.2 before
    · cases label

/-- Where rivals of different users come one after the other, none finds a record of the
other's. -/
theorem unprevented (run : (gatewayServer sha256 backend).system.Run history pool)
    (separate : Throughout (Separate principal sha256) history) (began : Began history pid request)
    (begun : Began history other again) (keyed : request.key = some key) (keyed' : again.key = some key)
    (rivals : Rivals sha256 request again) (different : request.userId principal ≠ again.userId principal) :
    ¬ Prevents history pid other key := by
  intro prevents
  obtain ⟨later, entry, earlier, rfl, holds, looks⟩ := prevents
  obtain ⟨before, taken, _⟩ := run.split
  obtain ⟨⟨reserved, row, _, made⟩, _⟩ := id holds
  have first := Server.began_before (gateway_follows sha256 backend) run made began
  obtain ⟨event, calls⟩ : ∃ event, entry.label = .perform other event := by
    rcases looks with ⟨pending, answer, _, label⟩ | ⟨answer, label⟩
    · exact ⟨_, label⟩
    · exact ⟨_, label⟩
  have second := Server.began_calling (gateway_follows sha256 backend) run calls begun
  have live : entry.before.Live other := by
    rw [calls] at taken
    obtain ⟨rest, present, _⟩ := taken
    exact ⟨_, rest, present⟩
  have sofar := (Throughout.before separate).cons.2
  exact (run_apart before sofar pid other request again key first second keyed keyed' rivals different live).2 holds

/-- A recorded response stays in the table. -/
theorem serve_keeps {rows left : IdempotencyTable Body} (served : serveStore now rows effect = (answer, left))
    (stored : ∃ record, rows key = some record ∧ record.stored.isSome) :
    ∃ record, left key = some record ∧ record.stored.isSome := by
  obtain ⟨record, present, recorded⟩ := stored
  cases effect with
  | insertPending pending =>
    rcases insert_rows served with ⟨free, _, changed⟩ | ⟨_, _, same⟩
    · rw [changed, update_of_ne]
      · exact ⟨record, present, recorded⟩
      · rintro rfl
        cases free.symm.trans present
    · exact ⟨record, same ▸ present, recorded⟩
  | get =>
    cases served
    exact ⟨record, present, recorded⟩
  | complete done response =>
    cases served
    by_cases same : key = done
    · subst same
      rw [update_self, present]
      exact ⟨_, rfl, rfl⟩
    · rw [update_of_ne same]
      exact ⟨record, present, recorded⟩
  | releasePending released =>
    cases served
    by_cases same : key = released
    · subst same
      rw [update_self, present]
      exact ⟨record, Option.filter_eq_some_iff.mpr ⟨rfl, recorded⟩, recorded⟩
    · rw [update_of_ne same]
      exact ⟨record, present, recorded⟩
  | markReplay =>
    cases served
    exact ⟨record, present, recorded⟩

private theorem run_keeps (run : (gatewayServer sha256 backend).system.Run (later ++ entry :: earlier) pool)
    (stored : ∃ record, entry.before.world.rows key = some record ∧ record.stored.isSome) :
    ∃ record, pool.world.rows key = some record ∧ record.stored.isSome := by
  obtain ⟨_, taken, after⟩ := run.split
  have kept (state : GatewayPool Own OwnAnswer Body State) (move : GatewayMove Own OwnAnswer Context Body)
      (next : GatewayPool Own OwnAnswer Body State)
      (taken : (gatewayServer sha256 backend).system.step state move next)
      (stored : ∃ record, state.world.rows key = some record ∧ record.stored.isSome) :
      ∃ record, next.world.rows key = some record ∧ record.stored.isSome := by
    cases move with
    | start pid call =>
      rw [(Server.started taken).1]
      exact stored
    | perform pid event =>
      obtain ⟨_, _, served, _⟩ := taken
      obtain ⟨effect, answer⟩ := event
      cases effect with
      | store effect =>
        obtain ⟨⟨now, served⟩, _⟩ := served
        exact serve_keeps served stored
      | next =>
        rw [show next.world = state.world from served]
        exact stored
      | own effect =>
        rw [show next.world.rows = state.world.rows from served.1]
        exact stored
    | drift =>
      rw [show next.world.rows = state.world.rows from taken.1.1]
      exact stored
  apply after.invariant
  · exact kept _ _ _ taken stored
  · exact kept

/-- What a request has recorded it holds for good. -/
theorem completed_holds (run : (gatewayServer sha256 backend).system.Run history pool)
    (began : Began history pid request) (completed : Made history pid ⟨.store (.complete key response), ()⟩) :
    Holds history pid key := by
  obtain ⟨passage, stands, traced⟩ := Server.began_traced (gateway_follows sha256 backend) run began
  obtain ⟨keyed, _⟩ := complete_key run began completed
  have member := made_iff.mp completed
  obtain ⟨⟨arrived, rfl⟩, unreleased⟩ := traced_kept traced member
  have asked : Asked sha256 request (eventsOf pid history) (· ≠ none) := (traced_went traced).2
  obtain ⟨own, answer, mine, created, reserved⟩ := asked
  cases keyed.symm.trans mine
  obtain ⟨record, rfl⟩ := Option.ne_none_iff_exists'.mp created
  exact ⟨⟨_, record, rfl, made_iff.mpr reserved⟩, fun key released => unreleased key (made_iff.mp released)⟩

/-- Who holds a key in the end held it when a recorded response was found there. -/
theorem held_sooner (run : (gatewayServer sha256 backend).system.Run (later ++ entry :: earlier) pool)
    (stored : ∃ record, entry.before.world.rows key = some record ∧ record.stored.isSome)
    (label : entry.label = .perform other ⟨.store (.get key), answer⟩)
    (holds : Holds (later ++ entry :: earlier) pid key) : Holds earlier pid key := by
  obtain ⟨⟨pending, row, rfl, inserted, member, inserts⟩, unreleased⟩ := holds
  refine ⟨⟨pending, row, rfl, inserted, ?_, inserts⟩, ?_⟩
  · rcases List.mem_append.mp member with after | here
    · obtain ⟨newest, between, rfl⟩ := List.append_of_mem after
      rw [List.append_assoc, List.cons_append] at run
      obtain ⟨sofar, taken, _⟩ := run.split
      obtain ⟨record, present, _⟩ := run_keeps sofar stored
      rw [inserts] at taken
      cases insert_answer taken (by simp [present])
    · rcases List.mem_cons.mp here with rfl | before
      · cases label.symm.trans inserts
      · exact before
  · intro key released
    exact unreleased key (released.append later entry)

/-- A response that is replayed is one that its request holds. -/
theorem replay_held (run : (gatewayServer sha256 backend).system.Run history pool) (began : Began history pid request)
    (begun : Began history other again) (keyed : again.key = some key)
    (completed : Made history pid ⟨.store (.complete key response), ()⟩)
    (finished : pool.running other = some (.done (.ok reply))) (replayed : reply.replayed = true) :
    Rivals sha256 request again ∧ Prevents history pid other key := by
  obtain ⟨passage, stands, traced⟩ := Server.began_traced (gateway_follows sha256 backend) run begun
  obtain ⟨passage', stands', fits⟩ := (Server.run_casting (gateway_follows sha256 backend) run).finished finished
  cases stands.symm.trans stands'
  have told := traced_told traced
  cases passage with
  | replayed =>
    obtain ⟨rfl, _, asked, answer, keyed', led, only⟩ := told
    cases keyed.symm.trans keyed'
    have made := made_iff.mpr ((only key answer).mpr ⟨rfl, rfl⟩)
    obtain ⟨entry, member, label⟩ := made
    obtain ⟨later, earlier, rfl⟩ := List.append_of_mem member
    obtain ⟨before, taken, _⟩ := run.split
    rw [label] at taken
    have found := get_answer taken
    cases answer with
    | none => cases led
    | some record =>
      unfold verdict at led
      dsimp only at led
      split at led
      · rename_i matched
        split at led
        · rename_i stored recorded
          have kept : ∃ record, entry.before.world.rows key = some record ∧ record.stored.isSome := by
            refine ⟨record, found.symm, ?_⟩
            rw [recorded]
            rfl
          have holds := held_sooner run kept label (completed_holds run began completed)
          obtain ⟨⟨_, _, _, reserved⟩, _⟩ := id holds
          have first := Server.began_before (gateway_follows sha256 backend) run reserved began
          obtain ⟨row, present, fits⟩ := held_record before first holds
          cases found.trans present
          refine ⟨⟨fits.2.1.symm.trans matched.2.1, fits.2.2.symm.trans matched.2.2,
            .inr (fits.1.symm.trans matched.1)⟩, ?_⟩
          exact ⟨later, entry, earlier, rfl, holds, .inr ⟨some record, label⟩⟩
        · cases led
      · cases led
  | settled =>
    rw [fits] at replayed
    cases replayed
  | _ => cases fits

/-- A request that is over was kept from its handler just if a record stood under its key
when it asked for it. -/
theorem entered_iff (run : (gatewayServer sha256 backend).system.Run history pool)
    (begun : Began history other again) (keyed : again.key = some key) (finished : pool.running other = some (.done result)) :
    Made history other ⟨.next, ()⟩ ↔ ∀ pid, ¬ Prevents history pid other key := by
  obtain ⟨passage, stands, traced⟩ := Server.began_traced (gateway_follows sha256 backend) run begun
  obtain ⟨passage', stands', fits⟩ := (Server.run_casting (gateway_follows sha256 backend) run).finished finished
  cases stands.symm.trans stands'
  have went := traced_went traced
  constructor
  · intro entered pid prevents
    obtain ⟨later, entry, earlier, rfl, holds, looks⟩ := prevents
    obtain ⟨before, _, _⟩ := run.split
    rcases looks with ⟨pending, answer, rfl, label⟩ | ⟨answer, label⟩
    · exact insert_barred run begun
        ⟨later, entry, earlier, rfl, pending, answer, rfl, label, held_present before holds⟩ entered
    · have asked : Made (later ++ entry :: earlier) other ⟨.store (.get key), answer⟩ :=
        ⟨entry, List.mem_append_right _ List.mem_cons_self, label⟩
      obtain ⟨_, _, unentered, _⟩ := found_standing run begun asked
      exact unentered entered
  · intro free
    have met (asked : Asked sha256 again (eventsOf other history) (· = none)) : False := by
      obtain ⟨own, answer, mine, rfl, inserted⟩ := asked
      cases keyed.symm.trans mine
      obtain ⟨entry, member, label⟩ := made_iff.mpr inserted
      obtain ⟨later, earlier, rfl⟩ := List.append_of_mem member
      obtain ⟨before, taken, _⟩ := run.split
      rw [label] at taken
      obtain ⟨_, _, ⟨⟨now, served⟩, _⟩, _⟩ := taken
      rcases insert_rows served with ⟨_, created, _⟩ | ⟨occupied, _⟩
      · cases created
      · obtain ⟨record, present⟩ := Option.ne_none_iff_exists'.mp occupied
        obtain ⟨pid, holds⟩ := run_held before present
        exact free pid ⟨later, entry, earlier, rfl, holds, .inl ⟨_, _, rfl, label⟩⟩
    cases passage with
    | arriving arrived =>
      obtain ⟨rfl, _⟩ := traced_told traced
      cases result with
      | ok => cases fits
      | error => cases keyed.symm.trans fits
    | reserved => cases fits
    | handling => cases fits
    | settled => exact made_iff.mpr went.1
    | conflicted => cases fits
    | replaying => cases fits
    | replayed => exact (met went).elim
    | refused => exact (met went).elim

end Runs

/-- A recorded response is replayed only to its own user, no request stands in the way of
another user's equal one, and a request is kept from its handler only by a record found
under its key. -/
structure Attributed (principal : Context → GatewayPrincipal)
    (history : GatewayHistory Own OwnAnswer Context Body State) (pool : GatewayPool Own OwnAnswer Body State) :
    Prop where
  replays : ∀ pid other request again key response reply, Began history pid request → Began history other again →
    again.key = some key → Made history pid ⟨.store (.complete key response), ()⟩ →
      pool.running other = some (.done (.ok reply)) → reply.replayed = true →
        request.userId principal = again.userId principal
  unhindered : ∀ pid other request again key, Began history pid request → Began history other again →
    request.key = some key → again.key = some key → SameCall request again →
      request.userId principal ≠ again.userId principal → ¬ Prevents history pid other key
  executed : ∀ other again key result, Began history other again → again.key = some key →
    pool.running other = some (.done result) →
      (Made history other ⟨.next, ()⟩ ↔ ∀ pid, ¬ Prevents history pid other key)

/-- Where rivals of different users come one after the other, every response is its own
user's. -/
theorem replays_attributed {backend : Backend Own OwnAnswer Context Body State}
    {history : GatewayHistory Own OwnAnswer Context Body State} {pool : GatewayPool Own OwnAnswer Body State}
    (principal : Context → GatewayPrincipal) (run : (gatewayServer sha256 backend).system.Run history pool)
    (separate : Throughout (Separate principal sha256) history) : Attributed principal history pool := by
  refine ⟨?_, ?_, ?_⟩
  · intro pid other request again key response reply began begun keyed completed finished replayed
    obtain ⟨rivals, prevents⟩ := replay_held run began begun keyed completed finished replayed
    by_contra different
    exact unprevented run separate began begun (complete_key run began completed).1 keyed rivals different prevents
  · intro pid other request again key began begun keyed keyed' same different
    exact unprevented run separate began begun keyed keyed' ⟨same.1, same.2.1, .inl same.2.2⟩ different
  · intro other again key result begun keyed finished
    exact entered_iff run begun keyed finished

section Examples

def proposalPath : String := "/api/dashboard-gateway/v1/governance/oracle/proposals/7/approve"

/-- SHA-256 of an approval with an empty object. -/
def approvalSha256 (bytes : List UInt8) : String :=
  if bytes = utf8 ("POST\n" ++ proposalPath ++ "\n\x7b\x7d") then
    "6ec67ed152b8206d4d51d934e93b17810b2584d24538ae4f8a1f7272642d480a"
  else ""

def adminNamed (userId walletAddress : String) : GatewayPrincipal :=
  principalOf true [userId] ⟨userId, walletAddress, .admin, 0, 3600⟩

def aliceAdmin : GatewayPrincipal := adminNamed "admin-1" "0x00000000000000000000000000000000000000a1"

def bobAdmin : GatewayPrincipal := adminNamed "admin-2" "0x00000000000000000000000000000000000000b2"

def approvalRequest (admin : GatewayPrincipal) (requestId : String) : HttpRequest GatewayPrincipal :=
  ⟨"POST", proposalPath, some "key-1", requestId, true, [123, 125], admin⟩

/-- A route that queues the caller's approval. -/
def approvalRoute : Backend Empty (fun _ => Unit) GatewayPrincipal String Unit where
  handler request := .done ⟨202, some "application/json; charset=utf-8",
    "approval of " ++ request.context.session.userId⟩
  initial _ := True
  serves := objectServing.serves
  drifts _ _ := False

/-- The approval of the first admin. -/
def approvalReply : Reply String :=
  ⟨⟨202, some "application/json; charset=utf-8", "approval of admin-1"⟩, true⟩

abbrev ApprovalHistory := GatewayHistory Empty (fun _ => Unit) GatewayPrincipal String Unit

def approved (entry : GatewayEntry Empty (fun _ => Unit) GatewayPrincipal String Unit) : Option Nat :=
  match entry.label with
  | .perform pid ⟨.store (.complete "key-1" ⟨202, some "application/json; charset=utf-8", "approval of admin-1"⟩), _⟩ =>
    some pid
  | _ => none

private theorem made_of_approved {history : ApprovalHistory} (member : pid ∈ history.filterMap approved) :
    Made history pid ⟨.store (.complete "key-1" approvalReply.response), ()⟩ := by
  obtain ⟨entry, recorded, same⟩ := List.mem_filterMap.mp member
  refine ⟨entry, recorded, ?_⟩
  unfold approved at same
  split at same
  · rename_i label
    cases same
    exact label
  · cases same

/-- The route while it cannot serve the first admin. -/
def stalledRoute : Backend Empty (fun _ => Unit) GatewayPrincipal String Unit :=
  { approvalRoute with
    handler request :=
      if request.context = aliceAdmin then .done ⟨503, some "application/json; charset=utf-8", "unavailable"⟩
      else approvalRoute.handler request }

def releases (pid : Nat) (entry : GatewayEntry Empty (fun _ => Unit) GatewayPrincipal String Unit) : Bool :=
  match entry.label with
  | .perform other ⟨.store (.releasePending _), _⟩ => other = pid
  | _ => false

/-- `Separate`, checked. -/
def afterOthers (earlier : ApprovalHistory) (entry : GatewayEntry Empty (fun _ => Unit) GatewayPrincipal String Unit) :
    Bool :=
  match entry.label with
  | .start _ again => (earlier.filterMap begins).all fun begun =>
      begun.2.context.session.userId = again.context.session.userId ||
        (((entry.before.running begun.1).bind Program.outcome).isSome && earlier.any (releases begun.1))
  | _ => true

private theorem separate_of_afterOthers {earlier : ApprovalHistory}
    {entry : GatewayEntry Empty (fun _ => Unit) GatewayPrincipal String Unit} (passed : afterOthers earlier entry = true) :
    Separate id approvalSha256 earlier entry := by
  intro other again pid request key label began _ _ _ different
  unfold afterOthers at passed
  rw [label] at passed
  have apart := List.all_eq_true.mp passed (pid, request) (began_iff.mp began)
  simp only [Bool.or_eq_true, Bool.and_eq_true, decide_eq_true_eq] at apart
  obtain ⟨finished, released⟩ := apart.resolve_left different
  constructor
  · rintro ⟨effect, rest, running⟩
    rw [running] at finished
    cases finished
  · intro holds
    obtain ⟨step, member, releasing⟩ := List.any_eq_true.mp released
    unfold releases at releasing
    split at releasing
    · rename_i holder name answer label
      obtain rfl := of_decide_eq_true releasing
      exact holds.2 name ⟨step, member, label⟩
    · cases releasing

end Examples

/-- One admin's request has failed and left no record; another admin who then asks under the same key, and asks
again, is answered with the response to its own first request. -/
theorem approval_replayed_to_caller : ∃ (history : ApprovalHistory)
    (pool : GatewayPool Empty (fun _ => Unit) String Unit),
    (gatewayServer approvalSha256 stalledRoute).system.Run history pool ∧
      Throughout (Separate id approvalSha256) history ∧
        Began history 0 (approvalRequest aliceAdmin "r-0") ∧ Began history 2 (approvalRequest bobAdmin "r-2") ∧
          pool.running 2 = some (.done (.ok
            ⟨⟨202, some "application/json; charset=utf-8", "approval of admin-2"⟩, true⟩)) ∧
              Attributed id history pool := by
  obtain ⟨recording, run, checked⟩ :=
    (gatewayServer approvalSha256 stalledRoute).record_run (gatewayServing objectServing) (fun time => (time, ()))
      ⟨fun _ => none, ()⟩ [.start 0 (approvalRequest aliceAdmin "r-0"), .go 0 3,
        .start 1 (approvalRequest bobAdmin "r-1"), .go 1 3, .start 2 (approvalRequest bobAdmin "r-2"), .go 2 3]
      (fun recording => checkEach afterOthers recording.history &&
        decide (recording.history.filterMap begins = [(2, approvalRequest bobAdmin "r-2"),
          (1, approvalRequest bobAdmin "r-1"), (0, approvalRequest aliceAdmin "r-0")]) &&
        decide ((recording.pool.running 2).bind Program.outcome = some (.ok
          ⟨⟨202, some "application/json; charset=utf-8", "approval of admin-2"⟩, true⟩)))
      (gatewayServing_serves objectServing stalledRoute rfl) ⟨fun _ => rfl, trivial⟩ (by decide +kernel)
  simp only [Bool.and_eq_true, decide_eq_true_eq] at checked
  obtain ⟨⟨apart, begun⟩, finished⟩ := checked
  obtain ⟨result, ended, finished⟩ := Option.bind_eq_some_iff.mp finished
  rw [Program.outcome_eq_some] at finished
  subst finished
  have separate : Throughout (Separate id approvalSha256) recording.history :=
    throughout_of_checkEach (fun _ _ => separate_of_afterOthers) apart
  exact ⟨recording.history, recording.pool, run, separate, began_iff.mpr (by rw [begun]; simp),
    began_iff.mpr (by rw [begun]; simp), ended, replays_attributed id run separate⟩

/-- Two admins approve one proposal under one key: the second is answered with the first's
response, and its approval is never made. -/
theorem approval_swallowed : ¬ ∀ (history : ApprovalHistory) (pool : GatewayPool Empty (fun _ => Unit) String Unit),
    (gatewayServer approvalSha256 approvalRoute).system.Run history pool → Attributed id history pool := by
  intro attributed
  obtain ⟨recording, run, checked⟩ :=
    (gatewayServer approvalSha256 approvalRoute).record_run (gatewayServing objectServing) (fun time => (time, ()))
      ⟨fun _ => none, ()⟩ [.start 0 (approvalRequest aliceAdmin "r-0"), .go 0 3,
        .start 1 (approvalRequest bobAdmin "r-1"), .go 1 3]
      (fun recording => decide (recording.history.filterMap begins =
          [(1, approvalRequest bobAdmin "r-1"), (0, approvalRequest aliceAdmin "r-0")]) &&
        decide ((recording.pool.running 1).bind Program.outcome = some (.ok approvalReply)) &&
        decide (0 ∈ recording.history.filterMap approved))
      (gatewayServing_serves objectServing approvalRoute rfl) ⟨fun _ => rfl, trivial⟩ (by decide +kernel)
  simp only [Bool.and_eq_true, decide_eq_true_eq] at checked
  obtain ⟨⟨begun, finished⟩, completed⟩ := checked
  obtain ⟨result, ended, finished⟩ := Option.bind_eq_some_iff.mp finished
  rw [Program.outcome_eq_some] at finished
  subst finished
  have began : Began recording.history 0 (approvalRequest aliceAdmin "r-0") := began_iff.mpr (by rw [begun]; simp)
  have again : Began recording.history 1 (approvalRequest bobAdmin "r-1") := began_iff.mpr (by rw [begun]; simp)
  have same := (attributed _ _ run).replays 0 1 _ _ "key-1" approvalReply.response approvalReply began again
    (by decide +kernel) (made_of_approved completed) ended rfl
  exact absurd same (by decide)

end Agroasys.Gateway
