import Agroasys.Foundation.Process

namespace Agroasys.Foundation

open Function

structure Pool (Effect : Type) (Answer : Effect → Type) (Result World : Type) where
  world : World
  running : Nat → Option (Program Effect Answer Result)

inductive Move (Call Effect : Type) (Answer : Effect → Type) where
  | start (pid : Nat) (call : Call)
  | perform (pid : Nat) (event : Event Effect Answer)
  | drift

/-- What a pool is made of. `serves` relates the worlds before and after a call and
its answer. -/
structure Server (Call Effect : Type) (Answer : Effect → Type) (Result World : Type) where
  initial : World → Prop
  program : Call → Program Effect Answer Result
  serves : World → Event Effect Answer → World → Prop
  drifts : World → World → Prop

variable {Call Effect Result World Role : Type} {Answer : Effect → Type}

def Pool.Live (pool : Pool Effect Answer Result World) (pid : Nat) : Prop :=
  ∃ effect rest, pool.running pid = some (.call effect rest)

namespace Server

variable (server : Server Call Effect Answer Result World)

/-- Programs never leave the pool, so that a number stands for one call. -/
def system : System (Pool Effect Answer Result World) (Move Call Effect Answer) where
  initial pool := server.initial pool.world ∧ ∀ pid, pool.running pid = none
  step pool move next :=
    match move with
    | .start pid call => pool.running pid = none ∧
        next = { pool with running := update pool.running pid (some (server.program call)) }
    | .perform pid event => ∃ rest, pool.running pid = some (.call event.effect rest) ∧
        server.serves pool.world event next.world ∧
          next.running = update pool.running pid (some (rest event.answer))
    | .drift => server.drifts pool.world next.world ∧ next.running = pool.running

end Server

/-- A condition on every step of a history, given what came before it. -/
def Throughout (condition : History State Label → Transition State Label → Prop)
    (history : History State Label) : Prop :=
  ∀ later entry earlier, history = later ++ entry :: earlier → condition earlier entry

theorem Throughout.cons {condition : History State Label → Transition State Label → Prop}
    (throughout : Throughout condition (entry :: history)) :
    condition history entry ∧ Throughout condition history := by
  refine ⟨throughout [] entry history rfl, ?_⟩
  intro later other earlier same
  exact throughout (entry :: later) other earlier (by rw [same, List.cons_append])

theorem Throughout.before {condition : History State Label → Transition State Label → Prop}
    (throughout : Throughout condition (later ++ earlier)) : Throughout condition earlier := by
  intro recent entry sooner same
  exact throughout (later ++ recent) entry sooner (by rw [same, List.append_assoc])

theorem throughout_trivial : Throughout (fun _ _ => True) history :=
  fun _ _ _ _ => trivial

/-- Some step of a history, given what came before it, meets a condition. -/
def Sometime (condition : History State Label → Transition State Label → Prop)
    (history : History State Label) : Prop :=
  ∃ later entry earlier, history = later ++ entry :: earlier ∧ condition earlier entry

theorem sometime_cons {condition : History State Label → Transition State Label → Prop} :
    Sometime condition (entry :: history) ↔ condition history entry ∨ Sometime condition history := by
  constructor
  · intro happened
    obtain ⟨later, other, earlier, same, met⟩ := happened
    cases later with
    | nil =>
      obtain ⟨rfl, rfl⟩ := List.cons.inj same
      exact .inl met
    | cons _ later =>
      obtain ⟨rfl, rfl⟩ := List.cons.inj same
      exact .inr ⟨later, other, earlier, rfl, met⟩
  · intro happened
    rcases happened with met | ⟨later, other, earlier, rfl, met⟩
    · exact ⟨[], entry, history, rfl, met⟩
    · exact ⟨entry :: later, other, earlier, rfl, met⟩

/-- A check of every step of a history, given what came before it. -/
def checkEach (check : History State Label → Transition State Label → Bool) : History State Label → Bool
  | [] => true
  | entry :: earlier => check earlier entry && checkEach check earlier

theorem throughout_of_checkEach {check : History State Label → Transition State Label → Bool}
    {condition : History State Label → Transition State Label → Prop}
    (sound : ∀ earlier entry, check earlier entry = true → condition earlier entry)
    (passed : checkEach check history = true) : Throughout condition history := by
  induction history with
  | nil =>
    intro later entry earlier same
    simp at same
  | cons head rest ih =>
    rw [checkEach, Bool.and_eq_true] at passed
    intro later entry earlier same
    cases later with
    | nil =>
      obtain ⟨rfl, rfl⟩ := List.cons.inj same
      exact sound _ _ passed.1
    | cons first later =>
      obtain ⟨rfl, rfl⟩ := List.cons.inj same
      exact ih passed.2 later entry earlier rfl

/-- A check of some step of a history, given what came before it. -/
def checkSome (check : History State Label → Transition State Label → Bool) : History State Label → Bool
  | [] => false
  | entry :: earlier => check earlier entry || checkSome check earlier

theorem sometime_of_checkSome {check : History State Label → Transition State Label → Bool}
    {condition : History State Label → Transition State Label → Prop}
    (sound : ∀ earlier entry, check earlier entry = true → condition earlier entry)
    (passed : checkSome check history = true) : Sometime condition history := by
  induction history with
  | nil => cases passed
  | cons entry earlier ih =>
    rw [checkSome, Bool.or_eq_true] at passed
    rw [sometime_cons]
    rcases passed with here | sooner
    · exact .inl (sound _ _ here)
    · exact .inr (ih sooner)

section Records

variable {history : History (Pool Effect Answer Result World) (Move Call Effect Answer)}

/-- A call of the server was started under this number. -/
def Began (history : History (Pool Effect Answer Result World) (Move Call Effect Answer)) (pid : Nat)
    (call : Call) : Prop :=
  ∃ entry ∈ history, entry.label = .start pid call

/-- A call of this program was made and answered. -/
def Made (history : History (Pool Effect Answer Result World) (Move Call Effect Answer)) (pid : Nat)
    (event : Event Effect Answer) : Prop :=
  ∃ entry ∈ history, entry.label = .perform pid event

theorem Began.later (began : Began history pid call)
    (entry : Transition (Pool Effect Answer Result World) (Move Call Effect Answer)) :
    Began (entry :: history) pid call := by
  obtain ⟨earlier, member, label⟩ := began
  exact ⟨earlier, List.mem_cons_of_mem _ member, label⟩

theorem Made.later (made : Made history pid event)
    (entry : Transition (Pool Effect Answer Result World) (Move Call Effect Answer)) :
    Made (entry :: history) pid event := by
  obtain ⟨earlier, member, label⟩ := made
  exact ⟨earlier, List.mem_cons_of_mem _ member, label⟩

theorem Made.append (made : Made earlier pid event)
    (later : History (Pool Effect Answer Result World) (Move Call Effect Answer))
    (entry : Transition (Pool Effect Answer Result World) (Move Call Effect Answer)) :
    Made (later ++ entry :: earlier) pid event := by
  obtain ⟨sooner, member, label⟩ := made
  exact ⟨sooner, List.mem_append_right _ (List.mem_cons_of_mem _ member), label⟩

theorem made_cons {entry : Transition (Pool Effect Answer Result World) (Move Call Effect Answer)} :
    Made (entry :: history) pid event ↔ entry.label = .perform pid event ∨ Made history pid event :=
  List.exists_mem_cons_iff _ _ _

theorem began_start {pool next : Pool Effect Answer Result World} :
    Began (⟨pool, .start pid call, next⟩ :: history) other asked ↔
      (other = pid ∧ asked = call) ∨ Began history other asked := by
  simp only [Began, List.exists_mem_cons_iff, Move.start.injEq]
  exact or_congr_left ⟨fun same => ⟨same.1.symm, same.2.symm⟩, fun same => ⟨same.1.symm, same.2.symm⟩⟩

theorem began_perform {pool next : Pool Effect Answer Result World} :
    Began (⟨pool, .perform pid event, next⟩ :: history) other asked ↔ Began history other asked := by
  simp [Began]

theorem began_drift {pool next : Pool Effect Answer Result World} :
    Began (⟨pool, .drift, next⟩ :: history) other asked ↔ Began history other asked := by
  simp [Began]

/-- The call a transition starts. -/
def begins (entry : Transition (Pool Effect Answer Result World) (Move Call Effect Answer)) :
    Option (Nat × Call) :=
  match entry.label with
  | .start pid call => some (pid, call)
  | _ => none

theorem began_iff : Began history pid call ↔ (pid, call) ∈ history.filterMap begins := by
  rw [List.mem_filterMap]
  refine exists_congr fun entry => and_congr_right fun _ => ?_
  unfold begins
  cases entry.label with
  | start => simp
  | perform => simp
  | drift => simp

variable {server : Server Call Effect Answer Result World} {pool : Pool Effect Answer Result World}

/-- What a label says about a program that started or called is remembered: its number
is taken for good. -/
theorem Server.step_running {next : Pool Effect Answer Result World}
    (taken : server.system.step pool move next) (running : pool.running pid ≠ none) :
    next.running pid ≠ none := by
  cases move with
  | start other call =>
    obtain ⟨absent, rfl⟩ := taken
    by_cases same : pid = other
    · exact absurd (same ▸ absent) running
    · simpa [same] using running
  | perform other event =>
    obtain ⟨rest, _, _, advanced⟩ := taken
    rw [advanced]
    by_cases same : pid = other
    · simp [same]
    · simpa [same] using running
  | drift =>
    rw [taken.2]
    exact running

theorem Server.began_running (run : server.system.Run history pool) (began : Began history pid call) :
    pool.running pid ≠ none := by
  obtain ⟨entry, member, label⟩ := began
  obtain ⟨later, earlier, _, _, taken, after⟩ := run.cut member
  apply after.invariant
  · rw [label] at taken
    rw [taken.2]
    simp
  · intro state move next taken running
    exact Server.step_running taken running

theorem Server.made_running (run : server.system.Run history pool) (made : Made history pid event) :
    pool.running pid ≠ none := by
  obtain ⟨entry, member, label⟩ := made
  obtain ⟨later, earlier, _, _, taken, after⟩ := run.cut member
  apply after.invariant
  · rw [label] at taken
    obtain ⟨rest, _, _, advanced⟩ := taken
    rw [advanced]
    simp
  · intro state move next taken running
    exact Server.step_running taken running

/-- A number stands for one call. -/
theorem Server.began_unique (run : server.system.Run history pool) (began : Began history pid call)
    (again : Began history pid other) : call = other := by
  revert began again
  apply run.history_invariant (P := fun history _ =>
    Began history pid call → Began history pid other → call = other)
  · intro origin _ began
    obtain ⟨_, member, _⟩ := began
    cases member
  · intro earlier state move next before taken ih began again
    cases move with
    | start started asked =>
      rcases began_start.mp began with ⟨here, first⟩ | sooner
      · rcases began_start.mp again with ⟨_, second⟩ | earlier
        · rw [first, second]
        · exact absurd (here ▸ taken.1) (Server.began_running before earlier)
      · rcases began_start.mp again with ⟨here, _⟩ | earlier
        · exact absurd (here ▸ taken.1) (Server.began_running before sooner)
        · exact ih sooner earlier
    | perform => exact ih (began_perform.mp began) (began_perform.mp again)
    | drift => exact ih (began_drift.mp began) (began_drift.mp again)

end Records

/-- Every program of a pool plays its role, and the result of a finished one fits it. -/
def Played (protocol : Protocol Effect Answer Role) (post : Role → Result → Prop)
    (roles : Nat → Option Role) (running : Nat → Option (Program Effect Answer Result)) : Prop :=
  ∀ pid, match running pid with
    | none => roles pid = none
    | some program => ∃ role, roles pid = some role ∧ protocol.Follows post role program

/-- Every program of a pool plays its role. -/
def Cast (protocol : Protocol Effect Answer Role) (roles : Nat → Option Role)
    (running : Nat → Option (Program Effect Answer Result)) : Prop :=
  ∀ pid, match running pid with
    | none => roles pid = none
    | some program => ∃ role, roles pid = some role ∧ protocol.Follows (fun _ _ => True) role program

section Played

variable {protocol : Protocol Effect Answer Role} {post : Role → Result → Prop} {roles : Nat → Option Role}
  {running : Nat → Option (Program Effect Answer Result)}

theorem Played.unassigned (played : Played protocol post roles running) (absent : running pid = none) :
    roles pid = none := by
  have part := played pid
  rw [absent] at part
  exact part

theorem Played.assigned (played : Played protocol post roles running) (present : running pid = some program) :
    ∃ role, roles pid = some role ∧ protocol.Follows post role program := by
  have part := played pid
  rw [present] at part
  exact part

/-- A finished program has a result that fits its role. -/
theorem Played.finished (played : Played protocol post roles running)
    (present : running pid = some (.done result)) : ∃ role, roles pid = some role ∧ post role result :=
  played.assigned present

theorem Played.update (played : Played protocol post roles running)
    (follows : protocol.Follows post role program) :
    Played protocol post (update roles pid (some role)) (update running pid (some program)) := by
  intro other
  by_cases same : other = pid
  · subst same
    simpa using follows
  · simpa [same] using played other

end Played

section Cast

variable {protocol : Protocol Effect Answer Role} {roles : Nat → Option Role}
  {running : Nat → Option (Program Effect Answer Result)}

theorem Cast.unassigned (cast : Cast protocol roles running) (absent : running pid = none) :
    roles pid = none :=
  Played.unassigned cast absent

theorem Cast.assigned (cast : Cast protocol roles running) (present : running pid = some program) :
    ∃ role, roles pid = some role ∧ protocol.Follows (fun _ _ => True) role program :=
  Played.assigned cast present

theorem update_assigned {Key Value : Type} [DecidableEq Key] {roles : Key → Option Value} {key other : Key}
    {role role' : Value} (assigned : Function.update roles key (some role) other = some role') :
    (other = key ∧ role' = role) ∨ (other ≠ key ∧ roles other = some role') := by
  by_cases same : other = key
  · subst same
    rw [update_self, Option.some.injEq] at assigned
    exact .inl ⟨rfl, assigned.symm⟩
  · rw [update_of_ne same] at assigned
    exact .inr ⟨same, assigned⟩

/-- While one program makes a call no other comes to life. -/
theorem Pool.Live.before {pool next : Pool Effect Answer Result World} (live : pool.Live pid)
    (advanced : next.running = Function.update pool.running pid program) (alive : next.Live other) :
    pool.Live other := by
  by_cases same : other = pid
  · exact same ▸ live
  · obtain ⟨effect, rest, running⟩ := alive
    rw [advanced, update_of_ne same] at running
    exact ⟨effect, rest, running⟩

/-- A role that permits no call belongs to a finished program. -/
theorem Cast.not_live {pool : Pool Effect Answer Result World} (cast : Cast protocol roles pool.running)
    (played : roles pid = some role) (silent : ∀ effect, ¬ protocol.permits role effect) :
    ¬ pool.Live pid := by
  intro live
  obtain ⟨effect, rest, present⟩ := live
  obtain ⟨same, assigned, follows⟩ := cast.assigned present
  rw [played, Option.some.injEq] at assigned
  subst assigned
  exact silent effect follows.1

end Cast

/-- An invariant of pools over the roles of their programs: it is enough that a new
role keeps it, that every permitted call keeps it, and that the world's own moves do. -/
theorem Server.path_played {server : Server Call Effect Answer Result World}
    {protocol : Protocol Effect Answer Role} {post : Role → Result → Prop} {enter : Call → Role}
    {allowed : History (Pool Effect Answer Result World) (Move Call Effect Answer) →
      Transition (Pool Effect Answer Result World) (Move Call Effect Answer) → Prop}
    (holds : History (Pool Effect Answer Result World) (Move Call Effect Answer) →
      Pool Effect Answer Result World → (Nat → Option Role) → Prop)
    (follows : ∀ call, protocol.Follows post (enter call) (server.program call))
    (initial : holds [] origin fun _ => none)
    (start : ∀ history pool roles pid call next, server.system.Run history pool →
      Played protocol post roles pool.running →
      allowed history ⟨pool, .start pid call, next⟩ → holds history pool roles →
      pool.running pid = none →
      next = { pool with running := update pool.running pid (some (server.program call)) } →
      holds (⟨pool, .start pid call, next⟩ :: history) next (update roles pid (some (enter call))))
    (perform : ∀ history pool roles pid event role rest next, server.system.Run history pool →
      Played protocol post roles pool.running →
      allowed history ⟨pool, .perform pid event, next⟩ → holds history pool roles →
      pool.running pid = some (.call event.effect rest) →
      roles pid = some role → protocol.permits role event.effect →
      server.serves pool.world event next.world →
      next.running = update pool.running pid (some (rest event.answer)) →
      holds (⟨pool, .perform pid event, next⟩ :: history) next
        (update roles pid (some (protocol.after role event.effect event.answer))))
    (drift : ∀ history pool roles next, server.system.Run history pool →
      allowed history ⟨pool, .drift, next⟩ → holds history pool roles →
      server.drifts pool.world next.world → next.running = pool.running →
      holds (⟨pool, .drift, next⟩ :: history) next roles)
    (first : server.system.initial origin) (path : Path server.system origin history pool)
    (permitted : Throughout allowed history) :
    ∃ roles, Played protocol post roles pool.running ∧ holds history pool roles := by
  induction path with
  | start =>
    refine ⟨fun _ => none, ?_, initial⟩
    intro pid
    rw [first.2 pid]
  | @next earlier pool move final reached taken ih =>
    have sofar : server.system.Run earlier pool := ⟨origin, first, reached⟩
    obtain ⟨granted, before⟩ := permitted.cons
    obtain ⟨roles, played, held⟩ := ih before
    cases move with
    | start pid call =>
      obtain ⟨absent, rfl⟩ := taken
      exact ⟨_, played.update (follows call), start _ _ _ _ _ _ sofar played granted held absent rfl⟩
    | perform pid event =>
      obtain ⟨rest, present, served, advanced⟩ := taken
      obtain ⟨role, assigned, plays⟩ := played.assigned present
      refine ⟨_, ?_, perform _ _ _ _ _ _ _ _ sofar played granted held present assigned plays.1 served advanced⟩
      rw [advanced]
      exact played.update (plays.2 event.answer)
    | drift =>
      obtain ⟨drifted, same⟩ := taken
      exact ⟨roles, same ▸ played, drift _ _ _ _ sofar granted held drifted same⟩

/-- The rule over runs. -/
theorem Server.run_played {server : Server Call Effect Answer Result World}
    {protocol : Protocol Effect Answer Role} {post : Role → Result → Prop} {enter : Call → Role}
    {allowed : History (Pool Effect Answer Result World) (Move Call Effect Answer) →
      Transition (Pool Effect Answer Result World) (Move Call Effect Answer) → Prop}
    (holds : History (Pool Effect Answer Result World) (Move Call Effect Answer) →
      Pool Effect Answer Result World → (Nat → Option Role) → Prop)
    (follows : ∀ call, protocol.Follows post (enter call) (server.program call))
    (initial : ∀ pool, server.system.initial pool → holds [] pool fun _ => none)
    (start : ∀ history pool roles pid call next, server.system.Run history pool →
      Played protocol post roles pool.running →
      allowed history ⟨pool, .start pid call, next⟩ → holds history pool roles →
      pool.running pid = none →
      next = { pool with running := update pool.running pid (some (server.program call)) } →
      holds (⟨pool, .start pid call, next⟩ :: history) next (update roles pid (some (enter call))))
    (perform : ∀ history pool roles pid event role rest next, server.system.Run history pool →
      Played protocol post roles pool.running →
      allowed history ⟨pool, .perform pid event, next⟩ → holds history pool roles →
      pool.running pid = some (.call event.effect rest) →
      roles pid = some role → protocol.permits role event.effect →
      server.serves pool.world event next.world →
      next.running = update pool.running pid (some (rest event.answer)) →
      holds (⟨pool, .perform pid event, next⟩ :: history) next
        (update roles pid (some (protocol.after role event.effect event.answer))))
    (drift : ∀ history pool roles next, server.system.Run history pool →
      allowed history ⟨pool, .drift, next⟩ → holds history pool roles →
      server.drifts pool.world next.world → next.running = pool.running →
      holds (⟨pool, .drift, next⟩ :: history) next roles)
    (run : server.system.Run history pool)
    (permitted : Throughout allowed history) :
    ∃ roles, Played protocol post roles pool.running ∧ holds history pool roles := by
  obtain ⟨origin, first, path⟩ := run
  exact Server.path_played holds follows (initial origin first) start perform drift first path permitted

/-- The rule where nothing is asked of the results. -/
theorem Server.run_roles {server : Server Call Effect Answer Result World}
    {protocol : Protocol Effect Answer Role} {enter : Call → Role}
    {allowed : History (Pool Effect Answer Result World) (Move Call Effect Answer) →
      Transition (Pool Effect Answer Result World) (Move Call Effect Answer) → Prop}
    (holds : History (Pool Effect Answer Result World) (Move Call Effect Answer) →
      Pool Effect Answer Result World → (Nat → Option Role) → Prop)
    (follows : ∀ call, protocol.Follows (fun _ _ => True) (enter call) (server.program call))
    (initial : ∀ pool, server.system.initial pool → holds [] pool fun _ => none)
    (start : ∀ history pool roles pid call next, Cast protocol roles pool.running →
      allowed history ⟨pool, .start pid call, next⟩ → holds history pool roles →
      pool.running pid = none →
      next = { pool with running := update pool.running pid (some (server.program call)) } →
      holds (⟨pool, .start pid call, next⟩ :: history) next (update roles pid (some (enter call))))
    (perform : ∀ history pool roles pid event role rest next, Cast protocol roles pool.running →
      allowed history ⟨pool, .perform pid event, next⟩ → holds history pool roles →
      pool.running pid = some (.call event.effect rest) →
      roles pid = some role → protocol.permits role event.effect →
      server.serves pool.world event next.world →
      next.running = update pool.running pid (some (rest event.answer)) →
      holds (⟨pool, .perform pid event, next⟩ :: history) next
        (update roles pid (some (protocol.after role event.effect event.answer))))
    (drift : ∀ history pool roles next, allowed history ⟨pool, .drift, next⟩ → holds history pool roles →
      server.drifts pool.world next.world → next.running = pool.running →
      holds (⟨pool, .drift, next⟩ :: history) next roles)
    (run : server.system.Run history pool)
    (permitted : Throughout allowed history) :
    ∃ roles, Cast protocol roles pool.running ∧ holds history pool roles :=
  Server.run_played holds follows initial (fun history pool roles pid call next _ => start history pool roles pid call next)
    (fun history pool roles pid event role rest next _ => perform history pool roles pid event role rest next)
    (fun history pool roles next _ => drift history pool roles next) run permitted

/-! Schedules: a world that answers by itself turns them into runs. -/

/-- Start a call, or let a started one make some of its calls. -/
inductive Cue (Call : Type) where
  | start (pid : Nat) (call : Call)
  | go (pid count : Nat)

namespace Server

variable (server : Server Call Effect Answer Result World)
  (respond : Nat → World → (effect : Effect) → Option (Answer effect × World))

abbrev Drive (Call Effect : Type) (Answer : Effect → Type) (Result World : Type) :=
  List (Move Call Effect Answer) × Pool Effect Answer Result World

/-- One call of a started program; the number of moves so far is the time. -/
def advance (pid : Nat) (drive : Drive Call Effect Answer Result World) :
    Option (Drive Call Effect Answer Result World) :=
  match drive.2.running pid with
  | some (.call effect rest) =>
    (respond drive.1.length drive.2.world effect).map fun (answer, world) =>
      (.perform pid ⟨effect, answer⟩ :: drive.1,
        { world := world, running := update drive.2.running pid (some (rest answer)) })
  | _ => none

def advances (pid : Nat) : Nat → Drive Call Effect Answer Result World →
    Option (Drive Call Effect Answer Result World)
  | 0, drive => some drive
  | count + 1, drive => (advance respond pid drive).bind (advances pid count)

def follow : Cue Call → Drive Call Effect Answer Result World →
    Option (Drive Call Effect Answer Result World)
  | .start pid call, drive =>
    match drive.2.running pid with
    | none => some (.start pid call :: drive.1,
        { drive.2 with running := update drive.2.running pid (some (server.program call)) })
    | some _ => none
  | .go pid count, drive => advances respond pid count drive

def schedule : List (Cue Call) → Drive Call Effect Answer Result World →
    Option (Drive Call Effect Answer Result World)
  | [], drive => some drive
  | cue :: rest, drive => (server.follow respond cue drive).bind (schedule rest)

/-- A path with these moves, newest first, leads from one pool to the other. -/
def Driven (origin drive : Drive Call Effect Answer Result World) : Prop :=
  ∃ history, Path server.system origin.2 history drive.2 ∧
    drive.1 = history.map Transition.label ++ origin.1

variable {server respond}
variable (sound : ∀ time world effect answer next, respond time world effect = some (answer, next) →
  server.serves world ⟨effect, answer⟩ next)

include sound

theorem advance_step {drive next : Drive Call Effect Answer Result World}
    (success : Server.advance respond pid drive = some next) :
    ∃ move, server.system.step drive.2 move next.2 ∧ next.1 = move :: drive.1 := by
  unfold Server.advance at success
  split at success
  · rename_i effect rest present
    obtain ⟨⟨answer, world⟩, responded, rfl⟩ := Option.map_eq_some_iff.mp success
    exact ⟨.perform pid ⟨effect, answer⟩, ⟨rest, present, sound _ _ _ _ _ responded, rfl⟩, rfl⟩
  · cases success

theorem Driven.advance {origin drive next : Drive Call Effect Answer Result World}
    (driven : server.Driven origin drive) (success : Server.advance respond pid drive = some next) :
    server.Driven origin next := by
  obtain ⟨history, path, same⟩ := driven
  obtain ⟨move, taken, moves⟩ := advance_step sound success
  exact ⟨_, path.next taken, by rw [moves, same]; rfl⟩

theorem Driven.advances {origin drive next : Drive Call Effect Answer Result World}
    (driven : server.Driven origin drive) (success : Server.advances respond pid count drive = some next) :
    server.Driven origin next := by
  induction count generalizing drive with
  | zero =>
    cases success
    exact driven
  | succ count ih =>
    obtain ⟨middle, first, rest⟩ := Option.bind_eq_some_iff.mp success
    exact ih (driven.advance sound first) rest

theorem Driven.follow {origin drive next : Drive Call Effect Answer Result World}
    (driven : server.Driven origin drive) (success : server.follow respond cue drive = some next) :
    server.Driven origin next := by
  cases cue with
  | start pid call =>
    obtain ⟨moves, pool⟩ := drive
    obtain ⟨history, path, same⟩ := driven
    unfold Server.follow at success
    dsimp only at success path same
    split at success
    · rename_i absent
      cases success
      have taken : server.system.step pool (.start pid call)
          ⟨pool.world, update pool.running pid (some (server.program call))⟩ := ⟨absent, rfl⟩
      exact ⟨_, path.next taken, by rw [same]; rfl⟩
    · cases success
  | go pid count => exact driven.advances sound success

theorem Driven.schedule {origin drive next : Drive Call Effect Answer Result World}
    (driven : server.Driven origin drive) (success : server.schedule respond cues drive = some next) :
    server.Driven origin next := by
  induction cues generalizing drive with
  | nil =>
    cases success
    exact driven
  | cons cue cues ih =>
    obtain ⟨middle, first, rest⟩ := Option.bind_eq_some_iff.mp success
    exact ih (driven.follow sound first) rest

end Server

end Agroasys.Foundation
