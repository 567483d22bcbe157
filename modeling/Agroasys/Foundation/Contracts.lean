import Agroasys.Foundation.Faults

/-! Contracts of programs: what must hold of a world for a program that finishes in it
to end as promised, by the program's syntax. -/

namespace Agroasys.Foundation

variable {Effect : Type} {Answer : Effect → Type} {α β Error World : Type}
  {serves : World → Event Effect Answer → World → Prop} {world before after : World}

namespace Program

/-- Whatever the answers, the program ends as `post` says. -/
def wp (serves : World → Event Effect Answer → World → Prop) :
    Program Effect Answer α → (α → World → Prop) → World → Prop
  | .done value, post, world => post value world
  | .call effect next, post, world =>
    ∀ answer after, serves world ⟨effect, answer⟩ after → (next answer).wp serves post after

variable {post weaker : α → World → Prop}

theorem wp_mono {program : Program Effect Answer α} (holds : program.wp serves post world)
    (implied : ∀ value world, post value world → weaker value world) : program.wp serves weaker world := by
  induction program generalizing world with
  | done value => exact implied value world holds
  | call effect next ih =>
    intro answer after served
    exact ih answer (holds answer after served)

theorem wp_bind {program : Program Effect Answer α} {next : α → Program Effect Answer β}
    {post : β → World → Prop} (holds : program.wp serves (fun value world => (next value).wp serves post world) world) :
    (program.bind next).wp serves post world := by
  induction program generalizing world with
  | done value => exact holds
  | call effect rest ih =>
    intro answer after served
    exact ih answer (holds answer after served)

/-- A finished execution ends as promised. -/
theorem wp_sound {program : Program Effect Answer α} (holds : program.wp serves post before)
    (execution : Execution serves program before events (.done value) after) : post value after := by
  generalize ended : Program.done value = final at execution
  induction execution with
  | stop program world =>
    subst ended
    exact holds
  | call served rest ih => exact ih (holds _ _ served) ended

/-- A world with more answers has more executions. -/
theorem Execution.mono {wider : World → Event Effect Answer → World → Prop} {program final : Program Effect Answer α}
    (execution : Execution serves program before events final after)
    (answers : ∀ before event after, serves before event after → wider before event after) :
    Execution wider program before events final after := by
  induction execution with
  | stop program world => exact .stop program world
  | call served rest ih => exact .call (answers _ _ _ served) ih

/-- A world that answers every call lets a program finish. -/
theorem run_execution (serve : (effect : Effect) → World → Answer effect × World)
    (answers : ∀ effect world, serves world ⟨effect, (serve effect world).1⟩ (serve effect world).2)
    (program : Program Effect Answer α) (world : World) :
    ∃ events, Execution serves program world events (.done (program.run serve world).1)
      (program.run serve world).2 := by
  induction program generalizing world with
  | done value => exact ⟨[], .stop _ _⟩
  | call effect next ih =>
    obtain ⟨events, execution⟩ := ih (serve effect world).1 (serve effect world).2
    exact ⟨_, .call (answers effect world) execution⟩

/-- Under one choice made again and again every program finishes. -/
theorem finishes {Choice : Type} {choice : Choice} (serve : Serving Choice Effect Answer World)
    (allowed : Choice → Prop) (chosen : allowed choice) (program : Program Effect Answer α) (world : World) :
    ∃ events value after, Execution (serve.under allowed) program world events (.done value) after := by
  have answers (effect : Effect) (world : World) :
      serve.under allowed world ⟨effect, (serve choice world effect).1⟩ (serve choice world effect).2 :=
    ⟨choice, chosen, rfl⟩
  obtain ⟨events, execution⟩ := run_execution (fun effect world => serve choice world effect) answers program world
  exact ⟨events, _, _, execution⟩

end Program

section Records

/-- A world that is the record of what was called, newest first. -/
def recording (genuine : Event Effect Answer → Prop) (before : List (Event Effect Answer)) (event : Event Effect Answer)
    (after : List (Event Effect Answer)) : Prop :=
  genuine event ∧ after = event :: before

variable {genuine wider : Event Effect Answer → Prop} {program final : Program Effect Answer α}
  {log later : List (Event Effect Answer)}

/-- What is genuine may be asked less of. -/
theorem Program.Execution.widen (execution : Execution (recording genuine) program log events final later)
    (implied : ∀ event, genuine event → wider event) : Execution (recording wider) program log events final later :=
  execution.mono fun _ event _ recorded => ⟨implied event recorded.1, recorded.2⟩

/-- Where every call has a genuine answer, a program finishes. -/
theorem Program.recorded_finishes (respond : (effect : Effect) → Answer effect)
    (answers : ∀ effect, genuine ⟨effect, respond effect⟩) (program : Program Effect Answer α)
    (log : List (Event Effect Answer)) :
    ∃ events value later, Execution (recording genuine) program log events (.done value) later := by
  have recorded (effect : Effect) (log : List (Event Effect Answer)) :
      recording genuine log ⟨effect, respond effect⟩ (⟨effect, respond effect⟩ :: log) :=
    ⟨answers effect, rfl⟩
  obtain ⟨events, execution⟩ := Program.run_execution
    (fun effect (log : List (Event Effect Answer)) => (respond effect, Event.mk effect (respond effect) :: log))
    recorded program log
  exact ⟨events, _, _, execution⟩

end Records

namespace Task

variable {returns : α → World → Prop} {throws : Error → World → Prop}

/-- `returns` after a value, `throws` after an error. -/
def Ended (returns : α → World → Prop) (throws : Error → World → Prop) : Except Error α → World → Prop
  | .ok value, world => returns value world
  | .error error, world => throws error world

/-- The contract of a task. -/
def wp (serves : World → Event Effect Answer → World → Prop) (task : Task Effect Answer Error α)
    (returns : α → World → Prop) (throws : Error → World → Prop) (world : World) : Prop :=
  Program.wp serves task.run (Ended returns throws) world

theorem wp_pure (returned : returns value world) :
    wp serves (pure value : Task Effect Answer Error α) returns throws world :=
  returned

theorem wp_throw (thrown : throws error world) :
    wp serves (throw error : Task Effect Answer Error α) returns throws world :=
  thrown

theorem wp_mono {task : Task Effect Answer Error α} {returned : α → World → Prop} {thrown : Error → World → Prop}
    (holds : wp serves task returned thrown world) (kept : ∀ value world, returned value world → returns value world)
    (raised : ∀ error world, thrown error world → throws error world) : wp serves task returns throws world := by
  apply Program.wp_mono holds
  intro result world ended
  cases result with
  | ok value => exact kept value world ended
  | error error => exact raised error world ended

theorem wp_bind {task : Task Effect Answer Error α} {next : α → Task Effect Answer Error β}
    {returns : β → World → Prop}
    (holds : wp serves task (fun value world => wp serves (next value) returns throws world) throws world) :
    wp serves (task >>= next) returns throws world := by
  apply Program.wp_bind
  apply Program.wp_mono holds
  intro result world ended
  cases result with
  | ok value => exact ended
  | error error => exact ended

theorem wp_tryCatch {task : Task Effect Answer Error α} {handler : Error → Task Effect Answer Error α}
    (holds : wp serves task returns (fun error world => wp serves (handler error) returns throws world) world) :
    wp serves (tryCatch task handler) returns throws world := by
  apply Program.wp_bind
  apply Program.wp_mono holds
  intro result world ended
  cases result with
  | ok value => exact ended
  | error error => exact ended

theorem wp_perform {effect : Effect} {returns : Answer effect → World → Prop}
    (answered : ∀ answer after, serves world ⟨effect, answer⟩ after → returns answer after) :
    wp serves (monadLift (Program.perform effect : Program Effect Answer (Answer effect))) returns throws world :=
  answered

theorem wp_ofExcept {result : Except Error α} (returned : ∀ value, result = .ok value → returns value world)
    (raised : ∀ error, result = .error error → throws error world) :
    wp serves (Task.ofExcept result : Task Effect Answer Error α) returns throws world := by
  cases result with
  | ok value => exact returned value rfl
  | error error => exact raised error rfl

end Task

end Agroasys.Foundation
