import Agroasys.Foundation.Pool

/-! The roles of a pool's programs, read off its history. Invariants of runs can then
be proved one after another, and what a program has done is a path through its roles. -/

namespace Agroasys.Foundation

open Function

variable {Call Effect Result World Role : Type} {Answer : Effect → Type}

/-- The roles a history leaves its programs in. -/
def casting (protocol : Protocol Effect Answer Role) (enter : Call → Role) :
    History (Pool Effect Answer Result World) (Move Call Effect Answer) → Nat → Option Role
  | [] => fun _ => none
  | entry :: earlier =>
    match entry.label with
    | .start pid call => update (casting protocol enter earlier) pid (some (enter call))
    | .perform pid event => update (casting protocol enter earlier) pid
        ((casting protocol enter earlier pid).map fun role => protocol.after role event.effect event.answer)
    | .drift => casting protocol enter earlier

/-- The calls of a program with their answers, newest first. -/
def eventsOf (pid : Nat) (history : History (Pool Effect Answer Result World) (Move Call Effect Answer)) :
    List (Event Effect Answer) :=
  history.filterMap fun entry =>
    match entry.label with
    | .perform other event => if other = pid then some event else none
    | _ => none

/-- A way through the roles: every call was permitted to the role that made it. -/
inductive Protocol.Traced (protocol : Protocol Effect Answer Role) (origin : Role) :
    List (Event Effect Answer) → Role → Prop where
  | start : Traced protocol origin [] origin
  | next (earlier : Traced protocol origin events role) (permitted : protocol.permits role event.effect) :
      Traced protocol origin (event :: events) (protocol.after role event.effect event.answer)

theorem Protocol.Traced.permitted {protocol : Protocol Effect Answer Role}
    (traced : protocol.Traced origin events role) (member : event ∈ events) :
    ∃ sooner reached, protocol.Traced origin sooner reached ∧ protocol.permits reached event.effect := by
  induction traced with
  | start => cases member
  | @next events role last earlier permitted ih =>
    rcases List.mem_cons.mp member with rfl | before
    · exact ⟨events, role, earlier, permitted⟩
    · exact ih before

/-- A call of a program in its role. -/
structure Server.Acts (server : Server Call Effect Answer Result World) (protocol : Protocol Effect Answer Role)
    (enter : Call → Role) (history : History (Pool Effect Answer Result World) (Move Call Effect Answer))
    (pool : Pool Effect Answer Result World) (pid : Nat) (event : Event Effect Answer) (role : Role)
    (next : Pool Effect Answer Result World) : Prop where
  run : server.system.Run history pool
  assigned : casting protocol enter history pid = some role
  permitted : protocol.permits role event.effect
  taken : server.system.step pool (.perform pid event) next

section Roles

variable {server : Server Call Effect Answer Result World} {protocol : Protocol Effect Answer Role} {post : Role → Result → Prop} {enter : Call → Role}
  {history : History (Pool Effect Answer Result World) (Move Call Effect Answer)}
  {pool next : Pool Effect Answer Result World}

theorem casting_start : casting protocol enter (⟨pool, .start pid call, next⟩ :: history) =
    update (casting protocol enter history) pid (some (enter call)) := rfl

theorem casting_drift : casting protocol enter (⟨pool, .drift, next⟩ :: history) =
    casting protocol enter history := rfl

theorem casting_perform (assigned : casting protocol enter history pid = some role) :
    casting protocol enter (⟨pool, .perform pid event, next⟩ :: history) =
      update (casting protocol enter history) pid (some (protocol.after role event.effect event.answer)) := by
  have stepped : casting protocol enter (⟨pool, .perform pid event, next⟩ :: history) =
      update (casting protocol enter history) pid
        ((casting protocol enter history pid).map fun role => protocol.after role event.effect event.answer) := rfl
  rw [stepped, assigned, Option.map_some]

theorem made_iff : Made history pid event ↔ event ∈ eventsOf pid history := by
  unfold Made eventsOf
  rw [List.mem_filterMap]
  refine exists_congr fun entry => and_congr_right fun _ => ?_
  cases entry.label with
  | start => simp
  | perform other event' =>
    by_cases same : other = pid
    · simp [same]
    · simp [same]
  | drift => simp

theorem Server.started (taken : server.system.step pool (.start pid call) next) :
    next.world = pool.world ∧ next.running = update pool.running pid (some (server.program call)) := by
  obtain ⟨_, rfl⟩ := taken
  exact ⟨rfl, rfl⟩

theorem Server.Acts.served (acts : server.Acts protocol enter history pool pid event role next) :
    server.serves pool.world event next.world := by
  obtain ⟨_, _, served, _⟩ := acts.taken
  exact served

theorem Server.Acts.live (acts : server.Acts protocol enter history pool pid event role next) : pool.Live pid := by
  obtain ⟨rest, present, _, _⟩ := acts.taken
  exact ⟨_, rest, present⟩

theorem Server.Acts.before (acts : server.Acts protocol enter history pool pid event role next)
    (alive : next.Live other) : pool.Live other := by
  obtain ⟨_, _, _, advanced⟩ := acts.taken
  exact acts.live.before advanced alive

/-- The roles of a history are played. -/
theorem Server.run_casting (follows : ∀ call, protocol.Follows post (enter call) (server.program call))
    (run : server.system.Run history pool) : Played protocol post (casting protocol enter history) pool.running := by
  apply run.history_invariant (P := fun history pool =>
    Played protocol post (casting protocol enter history) pool.running)
  · intro pool initial pid
    rw [initial.2 pid]
    rfl
  · intro earlier pool move next _ taken played
    cases move with
    | start pid call =>
      obtain ⟨_, rfl⟩ := taken
      exact played.update (follows call)
    | perform pid event =>
      obtain ⟨rest, present, _, advanced⟩ := taken
      obtain ⟨role, assigned, plays⟩ := played.assigned present
      rw [casting_perform assigned, advanced]
      exact played.update (plays.2 event.answer)
    | drift =>
      rw [taken.2]
      exact played

/-- An invariant of runs: it is enough that a new program keeps it, that every call a
role permits keeps it, and that the world's own moves do. -/
theorem Server.run_kept {allowed : History (Pool Effect Answer Result World) (Move Call Effect Answer) →
      Transition (Pool Effect Answer Result World) (Move Call Effect Answer) → Prop}
    {holds : History (Pool Effect Answer Result World) (Move Call Effect Answer) →
      Pool Effect Answer Result World → Prop}
    (follows : ∀ call, protocol.Follows post (enter call) (server.program call))
    (initial : ∀ pool, server.system.initial pool → holds [] pool)
    (start : ∀ history pool pid call next, server.system.Run history pool →
      allowed history ⟨pool, .start pid call, next⟩ → casting protocol enter history pid = none →
      server.system.step pool (.start pid call) next → holds history pool →
      holds (⟨pool, .start pid call, next⟩ :: history) next)
    (perform : ∀ history pool pid event role next, server.Acts protocol enter history pool pid event role next →
      allowed history ⟨pool, .perform pid event, next⟩ → holds history pool →
      holds (⟨pool, .perform pid event, next⟩ :: history) next)
    (drift : ∀ history pool next, server.system.Run history pool → allowed history ⟨pool, .drift, next⟩ →
      server.system.step pool .drift next → holds history pool → holds (⟨pool, .drift, next⟩ :: history) next)
    (run : server.system.Run history pool) (permitted : Throughout allowed history) : holds history pool := by
  obtain ⟨origin, first, path⟩ := run
  induction path with
  | start => exact initial origin first
  | @next earlier pool move final reached taken ih =>
    have sofar : server.system.Run earlier pool := ⟨origin, first, reached⟩
    obtain ⟨granted, before⟩ := permitted.cons
    have held := ih before
    have played := Server.run_casting follows sofar
    cases move with
    | start pid call => exact start _ _ _ _ _ sofar granted (played.unassigned taken.1) taken held
    | perform pid event =>
      obtain ⟨rest, present, _, _⟩ := id taken
      obtain ⟨role, assigned, plays⟩ := played.assigned present
      exact perform _ _ _ _ _ _ ⟨sofar, assigned, plays.1, taken⟩ granted held
    | drift => exact drift _ _ _ sofar granted taken held

theorem eventsOf_start : eventsOf other (⟨pool, .start pid call, next⟩ :: history) = eventsOf other history := rfl

theorem eventsOf_perform : eventsOf other (⟨pool, .perform pid event, next⟩ :: history) =
    if pid = other then event :: eventsOf other history else eventsOf other history := by
  unfold eventsOf
  by_cases same : pid = other
  · simp [same]
  · simp [same]

theorem eventsOf_absent (run : server.system.Run history pool) (absent : pool.running pid = none) :
    eventsOf pid history = [] := by
  apply List.eq_nil_iff_forall_not_mem.mpr
  intro event member
  exact Server.made_running run (made_iff.mpr member) absent

/-- What a program has done is a way through its roles. -/
theorem Server.casting_traced (follows : ∀ call, protocol.Follows post (enter call) (server.program call))
    (run : server.system.Run history pool) (assigned : casting protocol enter history pid = some role) :
    ∃ call, Began history pid call ∧ protocol.Traced (enter call) (eventsOf pid history) role := by
  revert pid role
  apply run.history_invariant (P := fun history _ => ∀ {pid : Nat} {role : Role},
    casting protocol enter history pid = some role →
      ∃ call, Began history pid call ∧ protocol.Traced (enter call) (eventsOf pid history) role)
  · intro pool _ pid role assigned
    cases assigned
  · intro earlier pool move next before taken ih other role assigned
    have played := Server.run_casting follows before
    cases move with
    | start pid call =>
      rw [casting_start] at assigned
      rw [eventsOf_start]
      rcases update_assigned assigned with ⟨rfl, rfl⟩ | ⟨different, assigned⟩
      · rw [eventsOf_absent before taken.1]
        exact ⟨call, began_start.mpr (.inl ⟨rfl, rfl⟩), .start⟩
      · obtain ⟨asked, began, traced⟩ := ih assigned
        exact ⟨asked, began.later _, traced⟩
    | perform pid event =>
      obtain ⟨rest, present, _, _⟩ := taken
      obtain ⟨last, playing, plays⟩ := played.assigned present
      rw [casting_perform playing] at assigned
      rw [eventsOf_perform]
      rcases update_assigned assigned with ⟨rfl, rfl⟩ | ⟨different, assigned⟩
      · obtain ⟨asked, began, traced⟩ := ih playing
        rw [if_pos rfl]
        exact ⟨asked, began.later _, traced.next plays.1⟩
      · obtain ⟨asked, began, traced⟩ := ih assigned
        rw [if_neg (Ne.symm different)]
        exact ⟨asked, began.later _, traced⟩
    | drift =>
      obtain ⟨asked, began, traced⟩ := ih assigned
      exact ⟨asked, began.later _, traced⟩

/-- A call that is made is made in a role. -/
theorem Server.acts (follows : ∀ call, protocol.Follows post (enter call) (server.program call))
    (run : server.system.Run history pool) (taken : server.system.step pool (.perform pid event) next) :
    ∃ role, server.Acts protocol enter history pool pid event role next := by
  obtain ⟨rest, present, _, _⟩ := id taken
  obtain ⟨role, assigned, plays⟩ := (Server.run_casting follows run).assigned present
  exact ⟨role, run, assigned, plays.1, taken⟩

theorem Server.unmade (follows : ∀ call, protocol.Follows post (enter call) (server.program call))
    (run : server.system.Run history pool) (absent : casting protocol enter history pid = none) :
    ¬ Made history pid event := by
  intro made
  obtain ⟨program, present⟩ := Option.ne_none_iff_exists'.mp (Server.made_running run made)
  obtain ⟨role, assigned, _⟩ := (Server.run_casting follows run).assigned present
  cases absent.symm.trans assigned

theorem Server.began_sooner (follows : ∀ call, protocol.Follows post (enter call) (server.program call))
    (run : server.system.Run (later ++ entry :: earlier) pool) (running : entry.before.running pid ≠ none)
    (began : Began (later ++ entry :: earlier) pid call) : Began earlier pid call := by
  obtain ⟨before, _, _⟩ := run.split
  obtain ⟨program, present⟩ := Option.ne_none_iff_exists'.mp running
  obtain ⟨role, assigned, _⟩ := (Server.run_casting follows before).assigned present
  obtain ⟨asked, first, _⟩ := Server.casting_traced follows before assigned
  obtain ⟨start, member, label⟩ := first
  have again : Began (later ++ entry :: earlier) pid asked :=
    ⟨start, List.mem_append_right _ (List.mem_cons_of_mem _ member), label⟩
  cases Server.began_unique run began again
  exact ⟨start, member, label⟩

/-- A program that has made a call began before it. -/
theorem Server.began_before (follows : ∀ call, protocol.Follows post (enter call) (server.program call))
    (run : server.system.Run (later ++ entry :: earlier) pool) (made : Made earlier pid event)
    (began : Began (later ++ entry :: earlier) pid call) : Began earlier pid call :=
  Server.began_sooner follows run (Server.made_running run.split.1 made) began

/-- A program that makes a call began before it. -/
theorem Server.began_calling (follows : ∀ call, protocol.Follows post (enter call) (server.program call))
    (run : server.system.Run (later ++ entry :: earlier) pool) (calls : entry.label = .perform pid event)
    (began : Began (later ++ entry :: earlier) pid call) : Began earlier pid call := by
  obtain ⟨_, taken, _⟩ := run.split
  rw [calls] at taken
  obtain ⟨rest, present, _⟩ := taken
  exact Server.began_sooner follows run (by simp [present]) began

/-- A call that began has a role. -/
theorem Server.began_traced (follows : ∀ call, protocol.Follows post (enter call) (server.program call))
    (run : server.system.Run history pool) (began : Began history pid call) :
    ∃ role, casting protocol enter history pid = some role ∧
      protocol.Traced (enter call) (eventsOf pid history) role := by
  obtain ⟨program, present⟩ := Option.ne_none_iff_exists'.mp (Server.began_running run began)
  obtain ⟨role, assigned, _⟩ := (Server.run_casting follows run).assigned present
  obtain ⟨asked, again, traced⟩ := Server.casting_traced follows run assigned
  cases Server.began_unique run began again
  exact ⟨role, assigned, traced⟩

end Roles

end Agroasys.Foundation
