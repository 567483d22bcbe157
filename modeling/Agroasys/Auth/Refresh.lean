import Agroasys.Auth.SessionService

namespace Agroasys.Auth

open Function Agroasys.Foundation

/-- The insert took effect. -/
def Inserts (entry : SessionEntry) (pid : Nat) (sessionId : String) : Prop :=
  ∃ profile issuedAt expiresAt answer,
    entry.label = .perform pid ⟨.insertSession sessionId profile issuedAt expiresAt, answer⟩ ∧
      entry.after.world.session sessionId ≠ entry.before.world.session sessionId

def InsertedBy (history : SessionHistory) (pid : Nat) (sessionId : String) : Prop :=
  ∃ entry ∈ history, Inserts entry pid sessionId

/-- Some refresh of a session has inserted another one for it. -/
def Exchanged (history : SessionHistory) (sessionId successor : String) : Prop :=
  ∃ pid ttlSeconds, Began history pid (.refresh sessionId ttlSeconds) ∧ InsertedBy history pid successor

/-- A revoke of a stored session was acknowledged. -/
def Revoked (history : SessionHistory) (sessionId : String) : Prop :=
  ∃ entry ∈ history, ∃ pid revokedAt,
    entry.label = .perform pid ⟨.revokeSession sessionId revokedAt, .ok ()⟩ ∧
      entry.before.world.session sessionId ≠ none

/-- A refresh of the session has inserted its successor and not yet sent its revoke. -/
def Outstanding (history : SessionHistory) (sessionId : String) (pid : Nat) : Prop :=
  (∃ ttlSeconds, Began history pid (.refresh sessionId ttlSeconds)) ∧
    (∃ successor, InsertedBy history pid successor) ∧
    ∀ revokedAt answer, ¬ Made history pid ⟨.revokeSession sessionId revokedAt, answer⟩

/-- What a refresh does not check: its insert is acknowledged if it takes effect, and
does so while the session is stored and unrevoked and no other refresh of it is
between its insert and its revoke; and its revoke is acknowledged. -/
def Orderly (earlier : SessionHistory) (entry : SessionEntry) : Prop :=
  ∀ pid sessionId ttlSeconds, Began earlier pid (.refresh sessionId ttlSeconds) →
    (∀ successor, Inserts entry pid successor →
      (∃ row, entry.before.world.session sessionId = some row ∧ row.revokedAt = none) ∧
      (∀ other, ¬ Outstanding earlier sessionId other) ∧
      ∃ profile issuedAt expiresAt,
        entry.label = .perform pid ⟨.insertSession successor profile issuedAt expiresAt, .ok ()⟩) ∧
    ∀ revokedAt answer, entry.label = .perform pid ⟨.revokeSession sessionId revokedAt, answer⟩ →
      answer = .ok ()

/-- Where a call stands. -/
inductive Stage where
  /-- No refresh. -/
  | visiting
  | refreshing (sessionId : String)
  /-- The successor is in, the revoke is not. -/
  | owing (sessionId : String)
  | settled (sessionId : String)
  /-- The revoke failed. -/
  | astray
  | failed

def Stage.permits : Stage → Effect → Prop
  | .visiting, _ => True
  | .refreshing _, .revokeSession _ _ => False
  | .refreshing _, _ => True
  | .owing _, .now => True
  | .owing sessionId, .revokeSession revoked _ => revoked = sessionId
  | _, _ => False

def Stage.after : Stage → (effect : Effect) → Answer effect → Stage
  | .refreshing sessionId, .insertSession _ _ _ _, answer =>
    match answer with
    | .ok _ => .owing sessionId
    | .error _ => .failed
  | .owing sessionId, .revokeSession _ _, answer =>
    match answer with
    | .ok _ => .settled sessionId
    | .error _ => .astray
  | stage, _, _ => stage

def stages : Protocol Effect Answer Stage where
  permits := Stage.permits
  after := Stage.after

def Call.stage : Call → Stage
  | .refresh sessionId _ => .refreshing sessionId
  | _ => .visiting

/-- A refresh that throws has not exchanged anything, or its revoke failed. -/
def Stage.fits : Stage → Result → Prop
  | .owing _, _ => False
  | .settled _, .error _ => False
  | _, _ => True

section Follows

variable {sessionId : String} {throws : Stage → String → Prop}

private theorem visiting_follows (program : Program Effect Answer Result) :
    stages.Follows Stage.fits .visiting program := by
  induction program with
  | done result => trivial
  | call effect next ih =>
    refine ⟨trivial, ?_⟩
    intro answer
    cases effect <;> exact ih answer

theorem runs_nowSeconds {returns : Stage → Nat → Prop} (stage : Stage) (permitted : stage.permits .now)
    (returned : ∀ time, returns stage time) : stages.Runs returns throws stage nowSeconds := by
  apply Protocol.Runs.bind
  refine Protocol.Runs.perform permitted ?_
  intro time
  apply Protocol.Runs.pure
  cases stage <;> exact returned _

private theorem runs_lookup {returns : Stage → Option UserSession → Prop}
    (returned : ∀ session, returns (.refreshing sessionId) session)
    (thrown : ∀ error, throws (.refreshing sessionId) error) (named : String) :
    stages.Runs returns throws (.refreshing sessionId) (lookup named) := by
  apply Protocol.Runs.bind
  refine Protocol.Runs.perform (by trivial) ?_
  intro answer
  apply Protocol.Runs.bind
  refine Protocol.Runs.ofExcept ?_ fun error _ => thrown error
  intro found _
  cases found with
  | none => exact .pure (returned none)
  | some row =>
    apply Protocol.Runs.bind
    exact Protocol.Runs.ofExcept (fun session _ => .pure (returned _)) fun error _ => thrown error

private theorem runs_resolveActive {returns : Stage → Option UserSession → Prop}
    (returned : ∀ session, returns (.refreshing sessionId) session)
    (thrown : ∀ error, throws (.refreshing sessionId) error) (named : String) :
    stages.Runs returns throws (.refreshing sessionId) (resolveActive named) := by
  apply Protocol.Runs.bind
  refine runs_lookup ?_ thrown named
  intro session
  cases session with
  | none => exact .pure (returned none)
  | some session =>
    dsimp only
    split
    · exact .pure (returned none)
    · apply Protocol.Runs.bind
      refine runs_nowSeconds _ (by trivial) ?_
      intro now
      split
      · exact .pure (returned none)
      · exact .pure (returned _)

private theorem runs_issue {returns : Stage → SessionIssueResult → Prop}
    (returned : ∀ result, returns (.owing sessionId) result)
    (thrown : ∀ error, throws .failed error) (profile : UserProfile) (ttlSeconds : Int) :
    stages.Runs returns throws (.refreshing sessionId) (issue profile ttlSeconds) := by
  apply Protocol.Runs.bind
  refine Protocol.Runs.perform (by trivial) ?_
  intro successor
  apply Protocol.Runs.bind
  refine runs_nowSeconds _ (by trivial) ?_
  intro now
  apply Protocol.Runs.bind
  refine runs_nowSeconds _ (by trivial) ?_
  intro issuedAt
  apply Protocol.Runs.bind
  refine Protocol.Runs.perform (by trivial) ?_
  intro answer
  cases answer with
  | ok _ => exact .pure (returned _)
  | error error => exact .throw (thrown error)

private theorem runs_revokeSession {returns : Stage → Unit → Prop}
    (returned : returns (.settled sessionId) ()) (thrown : ∀ error, throws .astray error) :
    stages.Runs returns throws (.owing sessionId) (revokeSession sessionId) := by
  apply Protocol.Runs.bind
  refine runs_nowSeconds _ (by trivial) ?_
  intro now
  apply Protocol.Runs.bind
  refine Protocol.Runs.perform rfl ?_
  intro answer
  cases answer with
  | ok _ => exact .pure returned
  | error error => exact .throw (thrown error)

private theorem runs_refresh (sessionId : String) (ttlSeconds : Option Int) :
    stages.Runs (fun stage result => stage.fits (.ok (.issued result)))
      (fun stage error => stage.fits (.error error)) (.refreshing sessionId)
      (refresh sessionId ttlSeconds) := by
  apply Protocol.Runs.bind
  refine runs_resolveActive ?_ (fun _ => trivial) sessionId
  intro session
  cases session with
  | none => exact .throw trivial
  | some existing =>
    apply Protocol.Runs.bind
    apply Protocol.Runs.bind
    refine Protocol.Runs.perform (by trivial) ?_
    intro answer
    refine Protocol.Runs.ofExcept ?_ fun _ _ => trivial
    intro profile _
    cases profile with
    | none => exact .throw trivial
    | some profile =>
      dsimp only
      split
      · apply Protocol.Runs.bind
        refine runs_issue ?_ (fun _ => trivial) profile _
        intro result
        apply Protocol.Runs.bind
        exact runs_revokeSession (.pure trivial) fun _ => trivial
      · exact .throw trivial

private theorem service_stages (call : Call) :
    stages.Follows Stage.fits call.stage (sessionServer.program call) := by
  cases call with
  | refresh sessionId ttlSeconds =>
    refine Protocol.Runs.follows ?_
    exact Protocol.Runs.bind (runs_refresh sessionId ttlSeconds)
  | login walletAddress role orgId ttlSeconds => exact visiting_follows _
  | revoke sessionId => exact visiting_follows _
  | resolve sessionId => exact visiting_follows _

end Follows

section Steps

variable {history : SessionHistory} {pool next : SessionPool}

theorem insertedBy_cons {entry : SessionEntry} :
    InsertedBy (entry :: history) pid successor ↔ Inserts entry pid successor ∨ InsertedBy history pid successor :=
  List.exists_mem_cons_iff _ _ _

private theorem inserts_perform (inserts : Inserts ⟨pool, .perform pid event, next⟩ other successor) :
    other = pid ∧ ∃ profile issuedAt expiresAt,
      event.effect = .insertSession successor profile issuedAt expiresAt := by
  obtain ⟨profile, issuedAt, expiresAt, answer, label, _⟩ := inserts
  cases label
  exact ⟨rfl, _, _, _, rfl⟩

/-- The effect of an insert on the sessions is seen. -/
theorem inserts_of_ok (label : event = ⟨.insertSession successor profile issuedAt expiresAt, .ok ()⟩)
    (served : serve.serves pool.world event next.world) :
    Inserts ⟨pool, .perform pid event, next⟩ pid successor := by
  subst label
  exact ⟨profile, issuedAt, expiresAt, _, rfl, insert_served served⟩

private theorem drift_sessions {before after : World} (drifted : before.Drifts after) :
    after.sessions = before.sessions := by
  cases drifted <;> rfl

end Steps

/-- What a call has done so far, by its stage. -/
def Stage.Held (history : SessionHistory) (world : World) (pid : Nat) : Stage → Prop
  | .visiting => ∀ sessionId ttlSeconds, ¬ Began history pid (.refresh sessionId ttlSeconds)
  | .refreshing sessionId => (∃ ttlSeconds, Began history pid (.refresh sessionId ttlSeconds)) ∧
      (∀ successor, ¬ InsertedBy history pid successor) ∧
      ∀ revokedAt answer, ¬ Made history pid ⟨.revokeSession sessionId revokedAt, answer⟩
  | .owing sessionId => Outstanding history sessionId pid ∧ world.session sessionId ≠ none
  | .settled sessionId => (∃ ttlSeconds, Began history pid (.refresh sessionId ttlSeconds)) ∧
      world.Dead sessionId
  | .failed => ∀ successor, ¬ InsertedBy history pid successor
  | .astray => False

/-- The stages of all calls, and one successor at most for each session. -/
structure Exchanging (history : SessionHistory) (pool : SessionPool) (parts : Nat → Option Stage) : Prop where
  held : ∀ pid stage, parts pid = some stage → stage.Held history pool.world pid
  single : ∀ sessionId successor other, Exchanged history sessionId successor →
    Exchanged history sessionId other → successor = other

section Invariant

variable {history : SessionHistory} {pool next : SessionPool} {parts : Nat → Option Stage} {stage : Stage}

/-- A step of another call. -/
theorem Stage.Held.later {entry : SessionEntry} (held : stage.Held history entry.before.world pid)
    (unbegun : ∀ call, entry.label ≠ .start pid call) (unmade : ∀ event, entry.label ≠ .perform pid event)
    (kept : ∀ sessionId row, entry.before.world.session sessionId = some row →
      ∃ after, entry.after.world.session sessionId = some after ∧ (row.revokedAt ≠ none → after.revokedAt ≠ none)) :
    stage.Held (entry :: history) entry.after.world pid := by
  have began {call : Call} (began : Began (entry :: history) pid call) : Began history pid call := by
    obtain ⟨earlier, member, label⟩ := began
    rcases List.mem_cons.mp member with rfl | member
    · exact absurd label (unbegun call)
    · exact ⟨earlier, member, label⟩
  have made {event : Event Effect Answer} (made : Made (entry :: history) pid event) : Made history pid event :=
    (made_cons.mp made).resolve_left (unmade event)
  have inserted {successor : String} (inserted : InsertedBy (entry :: history) pid successor) :
      InsertedBy history pid successor := by
    refine (insertedBy_cons.mp inserted).resolve_left ?_
    intro inserts
    obtain ⟨_, _, _, answer, label, _⟩ := inserts
    exact unmade _ label
  cases stage with
  | visiting => exact fun sessionId ttlSeconds again => held sessionId ttlSeconds (began again)
  | refreshing sessionId =>
    obtain ⟨⟨ttlSeconds, started⟩, fresh, unsent⟩ := held
    exact ⟨⟨ttlSeconds, started.later entry⟩, fun successor again => fresh successor (inserted again),
      fun revokedAt answer again => unsent revokedAt answer (made again)⟩
  | owing sessionId =>
    obtain ⟨⟨⟨ttlSeconds, started⟩, ⟨successor, present⟩, unsent⟩, stored⟩ := held
    obtain ⟨row, found⟩ := Option.ne_none_iff_exists'.mp stored
    obtain ⟨after, same, _⟩ := kept sessionId row found
    exact ⟨⟨⟨ttlSeconds, started.later entry⟩, ⟨successor, insertedBy_cons.mpr (.inr present)⟩,
      fun revokedAt answer again => unsent revokedAt answer (made again)⟩, by simp [same]⟩
  | settled sessionId =>
    obtain ⟨⟨ttlSeconds, started⟩, row, found, revoked⟩ := held
    obtain ⟨after, same, still⟩ := kept sessionId row found
    exact ⟨⟨ttlSeconds, started.later entry⟩, after, same, still revoked⟩
  | failed => exact fun successor again => held successor (inserted again)
  | astray => exact held

/-- A step of the call itself. -/
theorem Stage.Held.perform (held : stage.Held history pool.world pid)
    (orderly : Orderly history ⟨pool, .perform pid event, next⟩) (permitted : stage.permits event.effect)
    (served : serve.serves pool.world event next.world) :
    (stage.after event.effect event.answer).Held (⟨pool, .perform pid event, next⟩ :: history) next.world pid := by
  obtain ⟨effect, answer⟩ := event
  cases stage with
  | visiting =>
    have same : Stage.after .visiting effect answer = .visiting := by cases effect <;> rfl
    rw [same]
    intro sessionId ttlSeconds began
    exact held sessionId ttlSeconds (began_perform.mp began)
  | refreshing sessionId =>
    obtain ⟨⟨ttlSeconds, began⟩, fresh, unsent⟩ := held
    have refreshed := began.later ⟨pool, .perform pid ⟨effect, answer⟩, next⟩
    have uninserted (quiet : ∀ successor, ¬ Inserts ⟨pool, .perform pid ⟨effect, answer⟩, next⟩ pid successor) :
        ∀ successor, ¬ InsertedBy (⟨pool, .perform pid ⟨effect, answer⟩, next⟩ :: history) pid successor := by
      intro successor inserted
      exact (insertedBy_cons.mp inserted).elim (quiet successor) (fresh successor)
    have unrevoked : ∀ revokedAt reply,
        ¬ Made (⟨pool, .perform pid ⟨effect, answer⟩, next⟩ :: history) pid
          ⟨.revokeSession sessionId revokedAt, reply⟩ := by
      intro revokedAt reply made
      rcases made_cons.mp made with label | made
      · cases label
        exact permitted
      · exact unsent revokedAt reply made
    obtain ⟨inserting, _⟩ := orderly pid sessionId ttlSeconds began
    cases effect with
    | insertSession successor profile issuedAt expiresAt =>
      cases answer with
      | ok _ =>
        have inserts : Inserts
            ⟨pool, .perform pid ⟨.insertSession successor profile issuedAt expiresAt, .ok ()⟩, next⟩
            pid successor :=
          inserts_of_ok rfl served
        obtain ⟨⟨row, found, _⟩, _⟩ := inserting successor inserts
        obtain ⟨after, same, _⟩ := session_served served found
        exact ⟨⟨⟨ttlSeconds, refreshed⟩, ⟨successor, insertedBy_cons.mpr (.inl inserts)⟩, unrevoked⟩,
          by simp [same]⟩
      | error error =>
        apply uninserted
        intro other inserts
        obtain ⟨_, _, _, _, _, acknowledged⟩ := inserting other inserts
        cases acknowledged
    | revokeSession => exact absurd permitted id
    | _ =>
      refine ⟨⟨ttlSeconds, refreshed⟩, uninserted ?_, unrevoked⟩
      intro successor inserts
      obtain ⟨_, _, _, _, impossible⟩ := inserts_perform inserts
      cases impossible
  | owing sessionId =>
    obtain ⟨⟨⟨ttlSeconds, began⟩, ⟨successor, inserted⟩, unsent⟩, stored⟩ := held
    have refreshed := began.later ⟨pool, .perform pid ⟨effect, answer⟩, next⟩
    obtain ⟨_, revoking⟩ := orderly pid sessionId ttlSeconds began
    cases effect with
    | now =>
      obtain ⟨row, found⟩ := Option.ne_none_iff_exists'.mp stored
      obtain ⟨after, same, _⟩ := session_served served found
      refine ⟨⟨⟨ttlSeconds, refreshed⟩, ⟨successor, insertedBy_cons.mpr (.inr inserted)⟩, ?_⟩, by simp [same]⟩
      intro revokedAt reply made
      rcases made_cons.mp made with label | made
      · cases label
      · exact unsent revokedAt reply made
    | revokeSession revoked revokedAt =>
      cases permitted
      cases revoking revokedAt answer rfl
      exact ⟨⟨ttlSeconds, refreshed⟩, revoke_served served stored⟩
    | _ => exact absurd permitted id
  | settled => exact absurd permitted (by cases effect <;> exact id)
  | failed => exact absurd permitted (by cases effect <;> exact id)
  | astray => exact absurd held id

private theorem inserted_running (run : sessionServer.system.Run history pool)
    (inserted : InsertedBy history pid successor) : pool.running pid ≠ none := by
  obtain ⟨entry, member, _, _, _, answer, label, _⟩ := inserted
  exact Server.made_running run ⟨entry, member, label⟩

private theorem exchanged_start (run : sessionServer.system.Run history pool) (absent : pool.running pid = none)
    (exchanged : Exchanged (⟨pool, .start pid call, next⟩ :: history) sessionId successor) :
    Exchanged history sessionId successor := by
  obtain ⟨other, ttlSeconds, began, inserted⟩ := exchanged
  rcases insertedBy_cons.mp inserted with ⟨_, _, _, _, label, _⟩ | before
  · cases label
  · refine ⟨other, ttlSeconds, ?_, before⟩
    rcases began_start.mp began with ⟨here, _⟩ | started
    · exact absurd absent (here ▸ inserted_running run before)
    · exact started

private theorem exchanging_start (run : sessionServer.system.Run history pool)
    (exchanging : Exchanging history pool parts) (absent : pool.running pid = none)
    (same : next.world = pool.world) :
    Exchanging (⟨pool, .start pid call, next⟩ :: history) next (update parts pid (some call.stage)) := by
  refine ⟨?_, ?_⟩
  · intro other stage assigned
    rcases update_assigned assigned with ⟨rfl, rfl⟩ | ⟨different, assigned⟩
    · have uninserted : ∀ successor,
          ¬ InsertedBy (⟨pool, .start other call, next⟩ :: history) other successor := by
        intro successor inserted
        rcases insertedBy_cons.mp inserted with ⟨_, _, _, _, label, _⟩ | earlier
        · cases label
        · exact absurd absent (inserted_running run earlier)
      have begun {asked : Call} (began : Began (⟨pool, .start other call, next⟩ :: history) other asked) :
          asked = call := by
        rcases began_start.mp began with ⟨_, rfl⟩ | began
        · rfl
        · exact absurd absent (Server.began_running run began)
      cases call with
      | refresh sessionId ttlSeconds =>
        refine ⟨⟨ttlSeconds, _, List.mem_cons_self, rfl⟩, uninserted, ?_⟩
        intro revokedAt answer made
        rcases made_cons.mp made with label | made
        · cases label
        · exact absurd absent (Server.made_running run made)
      | _ => exact fun sessionId ttlSeconds began => by cases begun began
    · apply (exchanging.held other stage assigned).later
      · intro asked label
        cases label
        exact different rfl
      · intro event label
        cases label
      · intro sessionId row found
        exact ⟨row, by rw [same]; exact found, id⟩
  · intro sessionId successor other first second
    exact exchanging.single sessionId successor other (exchanged_start run absent first)
      (exchanged_start run absent second)

/-- A refresh that has inserted a successor keeps others from inserting one. -/
theorem Exchanging.excludes (exchanging : Exchanging history pool parts)
    (played : Played stages Stage.fits parts pool.running) (run : sessionServer.system.Run history pool)
    (orderly : Orderly history ⟨pool, .perform pid event, next⟩)
    (began : Began history pid (.refresh sessionId ttlSeconds))
    (inserts : Inserts ⟨pool, .perform pid event, next⟩ pid successor) : ¬ Exchanged history sessionId other := by
  intro exchanged
  obtain ⟨rival, seconds, started, inserted⟩ := exchanged
  obtain ⟨⟨⟨row, found, unrevoked⟩, alone, _⟩, _⟩ :=
    (orderly pid sessionId ttlSeconds began).imp_left fun holds => holds successor inserts
  obtain ⟨program, present⟩ := Option.ne_none_iff_exists'.mp (Server.began_running run started)
  obtain ⟨stage, assigned, _⟩ := played.assigned present
  have held := exchanging.held rival stage assigned
  cases stage with
  | visiting => exact held _ _ started
  | refreshing => exact held.2.1 _ inserted
  | owing owed =>
    obtain ⟨_, again⟩ := held.1.1
    cases Server.began_unique run started again
    exact alone rival held.1
  | settled exchanged =>
    obtain ⟨⟨_, again⟩, dead, same, revoked⟩ := held
    cases Server.began_unique run started again
    rw [found, Option.some.injEq] at same
    exact revoked (same ▸ unrevoked)
  | failed => exact held _ inserted
  | astray => exact held

private theorem exchanging_perform (run : sessionServer.system.Run history pool)
    (played : Played stages Stage.fits parts pool.running)
    (orderly : Orderly history ⟨pool, .perform pid event, next⟩) (exchanging : Exchanging history pool parts)
    (assigned : parts pid = some stage) (permitted : stage.permits event.effect)
    (served : serve.serves pool.world event next.world) :
    Exchanging (⟨pool, .perform pid event, next⟩ :: history) next
      (update parts pid (some (stage.after event.effect event.answer))) := by
  refine ⟨?_, ?_⟩
  · intro other stage' assigned'
    rcases update_assigned assigned' with ⟨rfl, rfl⟩ | ⟨different, assigned'⟩
    · exact (exchanging.held _ _ assigned).perform orderly permitted served
    · apply (exchanging.held _ _ assigned').later
      · intro asked label
        cases label
      · intro event' label
        cases label
        exact different rfl
      · intro sessionId row found
        exact session_served served found
  · -- Whether a successor is the new one or an old one.
    have split {sessionId successor : String}
        (exchanged : Exchanged (⟨pool, .perform pid event, next⟩ :: history) sessionId successor) :
        Exchanged history sessionId successor ∨
          (∃ ttlSeconds, Began history pid (.refresh sessionId ttlSeconds)) ∧
            Inserts ⟨pool, .perform pid event, next⟩ pid successor := by
      obtain ⟨other, ttlSeconds, began, inserted⟩ := exchanged
      rcases insertedBy_cons.mp inserted with inserts | inserted
      · obtain ⟨rfl, _⟩ := inserts_perform inserts
        exact .inr ⟨⟨ttlSeconds, began_perform.mp began⟩, inserts⟩
      · exact .inl ⟨other, ttlSeconds, began_perform.mp began, inserted⟩
    intro sessionId successor other first second
    rcases split first with first | ⟨⟨ttlSeconds, began⟩, inserts⟩
    · rcases split second with second | ⟨⟨ttlSeconds, began⟩, inserts⟩
      · exact exchanging.single sessionId successor other first second
      · exact absurd first (exchanging.excludes played run orderly began inserts)
    · rcases split second with second | ⟨_, again⟩
      · exact absurd second (exchanging.excludes played run orderly began inserts)
      · obtain ⟨_, _, _, _, first⟩ := inserts_perform inserts
        obtain ⟨_, _, _, _, second⟩ := inserts_perform again
        rw [first] at second
        cases second
        rfl

private theorem run_exchanging (run : sessionServer.system.Run history pool) (orderly : Throughout Orderly history) :
    ∃ parts, Played stages Stage.fits parts pool.running ∧ Exchanging history pool parts := by
  apply Server.run_played Exchanging service_stages ?_ ?_ ?_ ?_ run orderly
  · intro pool _
    refine ⟨fun _ _ assigned => (nomatch assigned), ?_⟩
    intro sessionId successor other exchanged
    obtain ⟨_, _, ⟨_, member, _⟩, _⟩ := exchanged
    cases member
  · intro history pool parts pid call next before _ _ exchanging absent same
    exact exchanging_start before exchanging absent (by rw [same])
  · intro history pool parts pid event stage rest next before played allowed exchanging present assigned
      permitted served _
    exact exchanging_perform before played allowed exchanging assigned permitted served
  · intro history pool parts next _ _ exchanging drifted _
    have same := drift_sessions drifted
    refine ⟨?_, ?_⟩
    · intro pid stage assigned
      apply (exchanging.held pid stage assigned).later
      · intro call label
        cases label
      · intro event label
        cases label
      · intro sessionId row found
        exact ⟨row, (session_same same sessionId).trans found, id⟩
    · have earlier {sessionId successor : String}
          (exchanged : Exchanged (⟨pool, .drift, next⟩ :: history) sessionId successor) :
          Exchanged history sessionId successor := by
        obtain ⟨other, ttlSeconds, began, inserted⟩ := exchanged
        rcases insertedBy_cons.mp inserted with ⟨_, _, _, _, label, _⟩ | inserted
        · cases label
        · exact ⟨other, ttlSeconds, began_drift.mp began, inserted⟩
      intro sessionId successor other first second
      exact exchanging.single sessionId successor other (earlier first) (earlier second)

/-- A session whose revoke was acknowledged stays revoked. -/
theorem revoked_dead (run : sessionServer.system.Run history pool) (revoked : Revoked history sessionId) :
    pool.world.Dead sessionId := by
  obtain ⟨entry, member, pid, revokedAt, label, stored⟩ := revoked
  obtain ⟨later, earlier, _, _, taken, after⟩ := run.cut member
  apply after.invariant
  · rw [label] at taken
    obtain ⟨_, _, served, _⟩ := taken
    exact revoke_served served stored
  · intro state move next taken dead
    cases move with
    | start =>
      obtain ⟨_, rfl⟩ := taken
      exact dead
    | perform =>
      obtain ⟨_, _, served, _⟩ := taken
      exact Dead.served served dead
    | drift =>
      obtain ⟨row, found, revoked⟩ := dead
      exact ⟨row, (session_same (drift_sessions taken.1) sessionId).trans found, revoked⟩

end Invariant

/-! Recordings, with their statements all acknowledged. -/

/-- The insert of a transition, if it took effect. -/
def insertion (entry : SessionEntry) : Option (Nat × String) :=
  match entry.label with
  | .perform pid ⟨.insertSession sessionId _ _ _, _⟩ =>
    if entry.after.world.session sessionId = entry.before.world.session sessionId then none
    else some (pid, sessionId)
  | _ => none

private theorem insertion_eq_some {entry : SessionEntry} :
    insertion entry = some (pid, sessionId) ↔ Inserts entry pid sessionId := by
  unfold insertion Inserts
  split
  · rename_i other named profile issuedAt expiresAt answer label
    constructor
    · intro same
      split at same
      · cases same
      · rename_i changed
        cases same
        exact ⟨profile, issuedAt, expiresAt, answer, label, changed⟩
    · intro inserts
      obtain ⟨_, _, _, _, same, changed⟩ := inserts
      rw [label] at same
      cases same
      rw [if_neg changed]
  · rename_i different
    constructor
    · intro impossible
      cases impossible
    · intro inserts
      obtain ⟨profile, issuedAt, expiresAt, answer, label, _⟩ := inserts
      exact absurd label (different _ _ _ _ _ _)

theorem insertedBy_iff {history : SessionHistory} :
    InsertedBy history pid sessionId ↔ (pid, sessionId) ∈ history.filterMap insertion := by
  rw [List.mem_filterMap]
  exact exists_congr fun entry => and_congr_right fun _ => insertion_eq_some.symm

/-- The only insert so far, acknowledged, while the sessions being refreshed are unrevoked. -/
def refreshesAlone (earlier : SessionHistory) (entry : SessionEntry) : Bool :=
  match entry.label with
  | .perform _ ⟨.insertSession _ _ _ _, answer⟩ =>
    answer.isOk && (earlier.filterMap insertion).isEmpty && (earlier.filterMap begins).all fun begun =>
      match begun.2 with
      | .refresh sessionId _ => (entry.before.world.session sessionId).any (·.revokedAt = none)
      | _ => true
  | .perform _ ⟨.revokeSession _ _, answer⟩ => answer.isOk
  | _ => true

private theorem orderly_of_refreshesAlone {earlier : SessionHistory} {entry : SessionEntry}
    (alone : refreshesAlone earlier entry = true) : Orderly earlier entry := by
  intro pid sessionId ttlSeconds began
  refine ⟨?_, ?_⟩
  · intro successor inserts
    obtain ⟨profile, issuedAt, expiresAt, answer, label, _⟩ := inserts
    rw [refreshesAlone, label] at alone
    simp only [Bool.and_eq_true, List.isEmpty_iff, List.all_eq_true] at alone
    obtain ⟨⟨acknowledged, first⟩, unrevoked⟩ := alone
    have row := unrevoked _ (began_iff.mp began)
    simp only [Option.any_eq_true, decide_eq_true_eq] at row
    refine ⟨row, ?_, profile, issuedAt, expiresAt, ?_⟩
    · intro other outstanding
      obtain ⟨_, ⟨_, inserted⟩, _⟩ := outstanding
      rw [insertedBy_iff, first] at inserted
      cases inserted
    · cases answer with
      | ok _ => exact label
      | error _ => cases acknowledged
  · intro revokedAt answer label
    rw [refreshesAlone, label] at alone
    cases answer with
    | ok _ => rfl
    | error _ => cases alone

def buyerProfile : UserProfile :=
  ⟨"7d9f", "0x00000000000000000000000000000000000000b0", .buyer, none, true⟩

/-- One session of one profile. -/
def signedIn : World :=
  ⟨[buyerProfile], [⟨"first", "7d9f", "0x00000000000000000000000000000000000000b0", .buyer, 1000, 4600, none⟩],
    fun _ => none⟩

/-- Every statement is acknowledged; the random bytes spell the number of the move. -/
def healthy (time : Nat) : Choice :=
  ⟨.acknowledged, 1000000 + time, toString time⟩

/-- In an orderly run a session is exchanged for one successor at most, for none once a
revoke of it has completed, and a refresh that throws leaves no session behind. -/
theorem single_successor (run : sessionServer.system.Run history pool) (orderly : Throughout Orderly history) :
    (∀ sessionId successor other, Exchanged history sessionId successor →
        Exchanged history sessionId other → successor = other) ∧
      (∀ later entry earlier pid sessionId ttlSeconds successor, history = later ++ entry :: earlier →
        Began earlier pid (.refresh sessionId ttlSeconds) → Inserts entry pid successor →
          ¬ Revoked earlier sessionId) ∧
      ∀ pid sessionId ttlSeconds error successor, Began history pid (.refresh sessionId ttlSeconds) →
        pool.running pid = some (.done (.error error)) → ¬ InsertedBy history pid successor := by
  obtain ⟨parts, played, exchanging⟩ := run_exchanging run orderly
  refine ⟨exchanging.single, ?_, ?_⟩
  · intro later entry earlier pid sessionId ttlSeconds successor same began inserts revoked
    obtain ⟨⟨row, found, unrevoked⟩, _⟩ :=
      (orderly later entry earlier same pid sessionId ttlSeconds began).1 successor inserts
    obtain ⟨before, _, _⟩ := System.Run.split (same ▸ run)
    obtain ⟨dead, present, revokedAt⟩ := revoked_dead before revoked
    rw [found, Option.some.injEq] at present
    exact revokedAt (present ▸ unrevoked)
  · intro pid sessionId ttlSeconds error successor began failed inserted
    obtain ⟨stage, assigned, fits⟩ := played.finished failed
    have held := exchanging.held pid stage assigned
    cases stage with
    | visiting => exact held _ _ began
    | refreshing => exact held.2.1 _ inserted
    | owing => exact fits
    | settled => exact fits
    | failed => exact held _ inserted
    | astray => exact held

/-- A refresh that another call follows up in vain. -/
theorem refreshedSession_single :
    ∃ (history : SessionHistory) (pool : SessionPool), Exchanged history "first" "4" ∧
      (∀ other, Exchanged history "first" other → "4" = other) ∧
      ∀ pid ttlSeconds error successor, Began history pid (.refresh "first" ttlSeconds) →
        pool.running pid = some (.done (.error error)) → ¬ InsertedBy history pid successor := by
  obtain ⟨recording, run, checked⟩ :=
    sessionServer.record_run serve healthy signedIn
      [.start 0 (.refresh "first" none), .go 0 9, .start 1 (.refresh "first" none), .go 1 1]
      (fun recording => checkEach refreshesAlone recording.history &&
        (decide ((0, Call.refresh "first" none) ∈ recording.history.filterMap begins) &&
          decide ((0, "4") ∈ recording.history.filterMap insertion)))
      rfl trivial (by decide +kernel)
  simp only [Bool.and_eq_true, decide_eq_true_eq] at checked
  obtain ⟨alone, began, inserted⟩ := checked
  obtain ⟨single, _, thrown⟩ :=
    single_successor run (throughout_of_checkEach (fun _ _ => orderly_of_refreshesAlone) alone)
  have exchanged : Exchanged recording.history "first" "4" :=
    ⟨0, none, began_iff.mpr began, insertedBy_iff.mpr inserted⟩
  exact ⟨recording.history, recording.pool, exchanged, fun other => single "first" "4" other exchanged,
    fun pid ttlSeconds error successor => thrown pid "first" ttlSeconds error successor⟩

/-- Two refreshes that both look the session up before either revokes it. -/
theorem concurrentRefreshes_split :
    ∃ (history : SessionHistory) (pool : SessionPool), sessionServer.system.Run history pool ∧
      Exchanged history "first" "6" ∧ Exchanged history "first" "14" ∧
      (∃ row, pool.world.session "6" = some row ∧ row.revokedAt = none) ∧
      ∃ row, pool.world.session "14" = some row ∧ row.revokedAt = none := by
  obtain ⟨recording, run, checked⟩ :=
    sessionServer.record_run serve healthy signedIn
      [.start 0 (.refresh "first" none), .start 1 (.refresh "first" none), .go 0 1, .go 1 1, .go 0 8, .go 1 8]
      (fun recording =>
        (decide ((0, Call.refresh "first" none) ∈ recording.history.filterMap begins) &&
          decide ((0, "6") ∈ recording.history.filterMap insertion)) &&
        (decide ((1, Call.refresh "first" none) ∈ recording.history.filterMap begins) &&
          decide ((1, "14") ∈ recording.history.filterMap insertion)) &&
        ((recording.pool.world.session "6").any (·.revokedAt = none) &&
          (recording.pool.world.session "14").any (·.revokedAt = none)))
      rfl trivial (by decide +kernel)
  simp only [Bool.and_eq_true, decide_eq_true_eq, Option.any_eq_true] at checked
  obtain ⟨⟨⟨began, inserted⟩, again, second⟩, first, other⟩ := checked
  exact ⟨recording.history, recording.pool, run, ⟨0, none, began_iff.mpr began, insertedBy_iff.mpr inserted⟩,
    ⟨1, none, began_iff.mpr again, insertedBy_iff.mpr second⟩, first, other⟩

end Agroasys.Auth
