import Agroasys.Foundation.Pool

/-! Statements that may fail, and servers whose worlds answer every call once the
outcome of its statement is known. The outcomes are the surroundings' choice. -/

namespace Agroasys.Foundation

open Function

/-- How a statement ends: acknowledged, refused without effect, or with the answer
lost after it took effect. -/
inductive Fate where
  | acknowledged
  | refused
  | lost
  deriving DecidableEq, Repr, Inhabited

variable {World Value Error : Type}

/-- A statement against a world: `.error` is a violated constraint, which changes
nothing; `unreachable` is what a lost connection raises. -/
def Fate.execute (fate : Fate) (unreachable : Error) (statement : Except Error (Value × World))
    (world : World) : Except Error Value × World :=
  match fate, statement with
  | .refused, _ => (.error unreachable, world)
  | _, .error violation => (.error violation, world)
  | .acknowledged, .ok (value, next) => (.ok value, next)
  | .lost, .ok (_, next) => (.error unreachable, next)

section Execute

variable {fate : Fate} {unreachable : Error} {statement : Except Error (Value × World)} {world next : World}
  {answer : Except Error Value}

/-- A statement took effect, acknowledged or not, or changed nothing and failed. -/
theorem Fate.executed (executed : fate.execute unreachable statement world = (answer, next)) :
    (∃ value, statement = .ok (value, next) ∧ (answer = .ok value ∨ answer = .error unreachable)) ∨
      (next = world ∧ ∃ error, answer = .error error) := by
  cases statement with
  | error violation => cases fate <;> cases executed <;> exact .inr ⟨rfl, _, rfl⟩
  | ok done =>
    obtain ⟨value, changed⟩ := done
    cases fate <;> cases executed
    · exact .inl ⟨value, rfl, .inl rfl⟩
    · exact .inr ⟨rfl, _, rfl⟩
    · exact .inl ⟨value, rfl, .inr rfl⟩

/-- An acknowledged statement took effect. -/
theorem Fate.executed_ok (executed : fate.execute unreachable statement world = (.ok value, next)) :
    statement = .ok (value, next) := by
  rcases Fate.executed executed with ⟨value', done, same | lost⟩ | ⟨_, _, failed⟩
  · cases same
    exact done
  · cases lost
  · cases failed

/-- A read changes nothing, whatever becomes of it. -/
theorem Fate.executed_read (executed : fate.execute unreachable (.ok (value, world)) world = (answer, next)) :
    next = world ∧ (answer = .ok value ∨ answer = .error unreachable) := by
  cases fate <;> cases executed
  · exact ⟨rfl, .inl rfl⟩
  · exact ⟨rfl, .inr rfl⟩
  · exact ⟨rfl, .inr rfl⟩

end Execute

variable {Call Effect Result Choice : Type} {Answer : Effect → Type}

/-- A world that answers once a choice is made. -/
abbrev Serving (Choice Effect : Type) (Answer : Effect → Type) (World : Type) :=
  Choice → World → (effect : Effect) → Answer effect × World

/-- Any choice may be made. -/
def Serving.serves (serve : Serving Choice Effect Answer World) (before : World)
    (event : Event Effect Answer) (after : World) : Prop :=
  ∃ choice, serve choice before event.effect = (event.answer, after)

/-- Only some choices are made. -/
def Serving.under (serve : Serving Choice Effect Answer World) (allowed : Choice → Prop) (before : World)
    (event : Event Effect Answer) (after : World) : Prop :=
  ∃ choice, allowed choice ∧ serve choice before event.effect = (event.answer, after)

theorem Serving.under_serves {serve : Serving Choice Effect Answer World} (under : serve.under allowed before event after) :
    serve.serves before event after := by
  obtain ⟨choice, _, served⟩ := under
  exact ⟨choice, served⟩

theorem Serving.serves_under {serve : Serving Choice Effect Answer World} (served : serve.serves before event after) :
    serve.under (fun _ => True) before event after := by
  obtain ⟨choice, answered⟩ := served
  exact ⟨choice, trivial, answered⟩

section Recordings

/-- A run so far. -/
structure Recording (Call Effect : Type) (Answer : Effect → Type) (Result World : Type) where
  history : History (Pool Effect Answer Result World) (Move Call Effect Answer)
  pool : Pool Effect Answer Result World

variable (server : Server Call Effect Answer Result World) (serve : Serving Choice Effect Answer World)
  (script : Nat → Choice)

namespace Server

/-- One call of a started program; the script gives a choice for each move. -/
def recordCall (pid : Nat) (recording : Recording Call Effect Answer Result World) :
    Option (Recording Call Effect Answer Result World) :=
  match recording.pool.running pid with
  | some (.call effect rest) =>
    match serve (script recording.history.length) recording.pool.world effect with
    | (answer, world) =>
      let next := ⟨world, update recording.pool.running pid (some (rest answer))⟩
      some ⟨⟨recording.pool, .perform pid ⟨effect, answer⟩, next⟩ :: recording.history, next⟩
  | _ => none

def recordCalls (pid : Nat) : Nat → Recording Call Effect Answer Result World →
    Option (Recording Call Effect Answer Result World)
  | 0, recording => some recording
  | count + 1, recording => (recordCall serve script pid recording).bind (recordCalls pid count)

def recordCue : Cue Call → Recording Call Effect Answer Result World →
    Option (Recording Call Effect Answer Result World)
  | .start pid call, recording =>
    match recording.pool.running pid with
    | none =>
      let next := { recording.pool with
        running := update recording.pool.running pid (some (server.program call)) }
      some ⟨⟨recording.pool, .start pid call, next⟩ :: recording.history, next⟩
    | some _ => none
  | .go pid count, recording => recordCalls serve script pid count recording

/-- A schedule, followed to its end. -/
def record : List (Cue Call) → Recording Call Effect Answer Result World →
    Option (Recording Call Effect Answer Result World)
  | [], recording => some recording
  | cue :: rest, recording => (server.recordCue serve script cue recording).bind (record rest)

variable {server serve script} {origin : Pool Effect Answer Result World}
  {recording next : Recording Call Effect Answer Result World}

theorem recordCall_path (follows : server.serves = serve.serves)
    (path : Path server.system origin recording.history recording.pool)
    (success : recordCall serve script pid recording = some next) :
    Path server.system origin next.history next.pool := by
  unfold recordCall at success
  split at success
  · rename_i effect rest present
    generalize served : serve (script recording.history.length) recording.pool.world effect = reply at success
    cases success
    refine path.next ⟨rest, present, ?_, rfl⟩
    rw [follows]
    exact ⟨_, served⟩
  · cases success

theorem recordCalls_path (follows : server.serves = serve.serves)
    (path : Path server.system origin recording.history recording.pool)
    (success : recordCalls serve script pid count recording = some next) :
    Path server.system origin next.history next.pool := by
  induction count generalizing recording with
  | zero =>
    cases success
    exact path
  | succ count ih =>
    obtain ⟨middle, first, rest⟩ := Option.bind_eq_some_iff.mp success
    exact ih (recordCall_path follows path first) rest

theorem recordCue_path (follows : server.serves = serve.serves)
    (path : Path server.system origin recording.history recording.pool)
    (success : server.recordCue serve script cue recording = some next) :
    Path server.system origin next.history next.pool := by
  cases cue with
  | start pid call =>
    unfold recordCue at success
    dsimp only at success
    split at success
    · rename_i absent
      cases success
      exact path.next ⟨absent, rfl⟩
    · cases success
  | go pid count => exact recordCalls_path follows path success

/-- What a recording recorded happened. -/
theorem record_path (follows : server.serves = serve.serves)
    (path : Path server.system origin recording.history recording.pool)
    (success : server.record serve script cues recording = some next) :
    Path server.system origin next.history next.pool := by
  induction cues generalizing recording with
  | nil =>
    cases success
    exact path
  | cons cue cues ih =>
    obtain ⟨middle, first, rest⟩ := Option.bind_eq_some_iff.mp success
    exact ih (recordCue_path follows path first) rest

end Server

/-- Nothing has run yet. -/
def blank (world : World) : Recording Call Effect Answer Result World :=
  ⟨[], world, fun _ => none⟩

/-- A recording that passes a check is a path that does. -/
theorem Server.record_from (world : World) (cues : List (Cue Call))
    (check : Recording Call Effect Answer Result World → Bool) (follows : server.serves = serve.serves)
    (success : ((server.record serve script cues (blank world)).map check) = some true) :
    ∃ recording : Recording Call Effect Answer Result World,
      Path server.system ⟨world, fun _ => none⟩ recording.history recording.pool ∧ check recording = true := by
  obtain ⟨recording, recorded, checked⟩ := Option.map_eq_some_iff.mp success
  exact ⟨recording, Server.record_path follows .start recorded, checked⟩

theorem Server.record_run (world : World) (cues : List (Cue Call))
    (check : Recording Call Effect Answer Result World → Bool) (follows : server.serves = serve.serves)
    (initial : server.initial world)
    (success : ((server.record serve script cues (blank world)).map check) = some true) :
    ∃ recording : Recording Call Effect Answer Result World,
      server.system.Run recording.history recording.pool ∧ check recording = true := by
  obtain ⟨recording, path, checked⟩ := server.record_from serve script world cues check follows success
  exact ⟨recording, ⟨⟨world, fun _ => none⟩, ⟨initial, fun _ => rfl⟩, path⟩, checked⟩

/-- The call a cue starts. -/
def Cue.begun : Cue Call → Option (Nat × Call)
  | .start pid call => some (pid, call)
  | .go _ _ => none

section Begun

variable {server : Server Call Effect Answer Result World} {serve : Serving Choice Effect Answer World}
  {script : Nat → Choice} {recording next : Recording Call Effect Answer Result World}

theorem Server.recordCall_begins (success : Server.recordCall serve script pid recording = some next) :
    next.history.filterMap begins = recording.history.filterMap begins := by
  unfold Server.recordCall at success
  split at success
  · cases success
    rfl
  · cases success

theorem Server.recordCalls_begins (success : Server.recordCalls serve script pid count recording = some next) :
    next.history.filterMap begins = recording.history.filterMap begins := by
  induction count generalizing recording with
  | zero =>
    cases success
    rfl
  | succ count ih =>
    obtain ⟨middle, first, rest⟩ := Option.bind_eq_some_iff.mp success
    exact (ih rest).trans (Server.recordCall_begins first)

theorem Server.recordCue_begins (success : server.recordCue serve script cue recording = some next) :
    next.history.filterMap begins = cue.begun.toList ++ recording.history.filterMap begins := by
  cases cue with
  | start pid call =>
    unfold Server.recordCue at success
    dsimp only at success
    split at success
    · cases success
      rfl
    · cases success
  | go pid count => exact Server.recordCalls_begins success

/-- The calls of a recording are those of its cues. -/
theorem Server.record_begins (success : server.record serve script cues recording = some next) :
    next.history.filterMap begins = (cues.filterMap Cue.begun).reverse ++ recording.history.filterMap begins := by
  induction cues generalizing recording with
  | nil =>
    cases success
    rfl
  | cons cue cues ih =>
    obtain ⟨middle, first, rest⟩ := Option.bind_eq_some_iff.mp success
    rw [ih rest, Server.recordCue_begins first]
    cases cue with
    | start pid call => simp [Cue.begun]
    | go pid count => simp [List.filterMap_cons, Cue.begun]

/-- A recording that passes a check is a run of its calls that does. -/
theorem Server.record_calls (server : Server Call Effect Answer Result World)
    (serve : Serving Choice Effect Answer World) (script : Nat → Choice) (world : World) (cues : List (Cue Call))
    (check : Recording Call Effect Answer Result World → Bool) (follows : server.serves = serve.serves)
    (initial : server.initial world)
    (success : ((server.record serve script cues (blank world)).map check) = some true) :
    ∃ recording : Recording Call Effect Answer Result World,
      server.system.Run recording.history recording.pool ∧
        (∀ pid call, Began recording.history pid call ↔ (pid, call) ∈ cues.filterMap Cue.begun) ∧
          check recording = true := by
  obtain ⟨recording, recorded, checked⟩ := Option.map_eq_some_iff.mp success
  refine ⟨recording, ⟨⟨world, fun _ => none⟩, ⟨initial, fun _ => rfl⟩, Server.record_path follows .start recorded⟩,
    ?_, checked⟩
  intro pid call
  rw [began_iff, Server.record_begins recorded]
  simp [blank]

end Begun

end Recordings

end Agroasys.Foundation
