import Agroasys.Foundation.Transition
import Mathlib.Logic.Function.Basic

/-! Programs that call their surroundings and go on with the answer, the roles
such a program goes through, and pools of programs that share one world. Calls are
atomic and nothing else is: between two calls of one program any other may run. -/

namespace Agroasys.Foundation

open Function

inductive Program (Effect : Type) (Answer : Effect → Type) (α : Type) where
  | done (value : α)
  | call (effect : Effect) (next : Answer effect → Program Effect Answer α)

variable {Effect : Type} {Answer : Effect → Type} {α β Error World : Type}

namespace Program

def bind (program : Program Effect Answer α) (next : α → Program Effect Answer β) :
    Program Effect Answer β :=
  match program with
  | .done value => next value
  | .call effect rest => .call effect fun answer => (rest answer).bind next

instance : Monad (Program Effect Answer) where
  pure := .done
  bind := bind

/-- A program whose calls are made through a wider set of calls. -/
def embed {Outer : Type} {OuterAnswer : Outer → Type} (inject : Effect → Outer)
    (read : (effect : Effect) → OuterAnswer (inject effect) → Answer effect) :
    Program Effect Answer α → Program Outer OuterAnswer α
  | .done value => .done value
  | .call effect next => .call (inject effect) fun answer => (next (read effect answer)).embed inject read

/-- What a finished program ended with. -/
def outcome : Program Effect Answer α → Option α
  | .done value => some value
  | .call _ _ => none

theorem outcome_eq_some {program : Program Effect Answer α} :
    program.outcome = some value ↔ program = .done value := by
  cases program with
  | done => simp [outcome]
  | call => simp [outcome]

/-- One call, answered. -/
def perform (effect : Effect) : Program Effect Answer (Answer effect) :=
  .call effect .done

end Program

/-- A call with its answer. -/
structure Event (Effect : Type) (Answer : Effect → Type) where
  effect : Effect
  answer : Answer effect

/-- Part of an execution in a world that may answer in many ways: the events, what is
left to do and the worlds on both sides. -/
inductive Program.Execution (serves : World → Event Effect Answer → World → Prop) :
    Program Effect Answer α → World → List (Event Effect Answer) → Program Effect Answer α → World →
      Prop where
  | stop (program : Program Effect Answer α) (world : World) : Execution serves program world [] program world
  | call (served : serves before ⟨effect, answer⟩ middle)
      (rest : Execution serves (next answer) middle events final after) :
      Execution serves (.call effect next) before (⟨effect, answer⟩ :: events) final after

/-- A deterministic world answers every call. -/
def Program.run (serve : (effect : Effect) → World → Answer effect × World) :
    Program Effect Answer α → World → α × World
  | .done value, world => (value, world)
  | .call effect next, world =>
    let (answer, world) := serve effect world
    (next answer).run serve world

/-- A fallible program: what it throws is part of its result. -/
abbrev Task (Effect : Type) (Answer : Effect → Type) (Error α : Type) :=
  ExceptT Error (Program Effect Answer) α

/-- A result that is no call. -/
def Task.ofExcept (result : Except Error α) : Task Effect Answer Error α :=
  match result with
  | .ok value => pure value
  | .error error => throw error

/-- `Promise.all` of two: their calls alternate in some order, given by `turns`, and the
first error is the result. -/
def Task.both : List Bool → Task Effect Answer Error α → Task Effect Answer Error β →
    Task Effect Answer Error (α × β)
  | [], first, second => do
    let value ← first
    return (value, ← second)
  | true :: turns, first, second =>
    match first.run with
    | .done (.error error) => throw error
    | .done (.ok _) => Task.both turns first second
    | .call effect next => ExceptT.mk (.call effect fun answer => Task.both turns (ExceptT.mk (next answer)) second)
  | false :: turns, first, second =>
    match second.run with
    | .done (.error error) => throw error
    | .done (.ok _) => Task.both turns first second
    | .call effect next => ExceptT.mk (.call effect fun answer => Task.both turns first (ExceptT.mk (next answer)))

section Tasks

variable {serve : (effect : Effect) → World → Answer effect × World}

theorem Program.run_bind (program : Program Effect Answer α) (next : α → Program Effect Answer β)
    (world : World) :
    (program.bind next).run serve world =
      (next (program.run serve world).1).run serve (program.run serve world).2 := by
  induction program generalizing world with
  | done value => rfl
  | call effect rest ih => exact ih _ _

/-- What a task ends with in a deterministic world, and the world it leaves. -/
def evaluate (serve : (effect : Effect) → World → Answer effect × World) (task : Task Effect Answer Error α)
    (world : World) : Except Error α × World :=
  task.run.run serve world

@[simp] theorem evaluate_pure (value : α) (world : World) :
    evaluate serve (pure value : Task Effect Answer Error α) world = (.ok value, world) := rfl

@[simp] theorem evaluate_throw (error : Error) (world : World) :
    evaluate serve (throw error : Task Effect Answer Error α) world = (.error error, world) := rfl

@[simp] theorem evaluate_perform (effect : Effect) (world : World) :
    evaluate serve (monadLift (Program.perform effect : Program Effect Answer (Answer effect)) :
      Task Effect Answer Error (Answer effect)) world =
        (.ok (serve effect world).1, (serve effect world).2) := rfl

@[simp] theorem evaluate_ofExcept (result : Except Error α) (world : World) :
    evaluate serve (Task.ofExcept result : Task Effect Answer Error α) world = (result, world) := by
  cases result <;> rfl

theorem evaluate_bind (task : Task Effect Answer Error α) (next : α → Task Effect Answer Error β)
    (world : World) :
    evaluate serve (task >>= next) world =
      match evaluate serve task world with
      | (.ok value, world) => evaluate serve (next value) world
      | (.error error, world) => (.error error, world) := by
  unfold evaluate
  change (task.run.bind _).run serve world = _
  rw [Program.run_bind]
  obtain ⟨result, after⟩ := task.run.run serve world
  cases result <;> rfl

theorem evaluate_tryCatch (task : Task Effect Answer Error α) (handler : Error → Task Effect Answer Error α)
    (world : World) :
    evaluate serve (tryCatch task handler) world =
      match evaluate serve task world with
      | (.ok value, world) => (.ok value, world)
      | (.error error, world) => evaluate serve (handler error) world := by
  unfold evaluate
  change (task.run.bind _).run serve world = _
  rw [Program.run_bind]
  obtain ⟨result, after⟩ := task.run.run serve world
  cases result <;> rfl

end Tasks

/-- The roles of a program: which calls a role may make, and which role it is after
the answer. -/
structure Protocol (Effect : Type) (Answer : Effect → Type) (Role : Type) where
  permits : Role → Effect → Prop
  after : Role → (effect : Effect) → Answer effect → Role

namespace Protocol

variable {Role : Type} (protocol : Protocol Effect Answer Role)

/-- Whatever the answers, every call is permitted and the result fits the last role. -/
def Follows (post : Role → α → Prop) : Role → Program Effect Answer α → Prop
  | role, .done value => post role value
  | role, .call effect next => protocol.permits role effect ∧
      ∀ answer, Follows post (protocol.after role effect answer) (next answer)

variable {protocol} {post weaker : Role → α → Prop}

theorem Follows.mono {program : Program Effect Answer α} (follows : protocol.Follows post role program)
    (implied : ∀ role value, post role value → weaker role value) :
    protocol.Follows weaker role program := by
  induction program generalizing role with
  | done value => exact implied role value follows
  | call effect next ih => exact ⟨follows.1, fun answer => ih answer (follows.2 answer)⟩

theorem Follows.bind {program : Program Effect Answer α} {next : α → Program Effect Answer β}
    {post : Role → β → Prop}
    (follows : protocol.Follows (fun role value => protocol.Follows post role (next value)) role program) :
    protocol.Follows post role (program.bind next) := by
  induction program generalizing role with
  | done value => exact follows
  | call effect rest ih => exact ⟨follows.1, fun answer => ih answer (follows.2 answer)⟩

/-- An embedded program follows what the program itself follows. -/
theorem Follows.embed {Outer Part : Type} {OuterAnswer : Outer → Type} {outer : Protocol Outer OuterAnswer Part}
    {inject : Effect → Outer} {read : (effect : Effect) → OuterAnswer (inject effect) → Answer effect}
    {wrap : Role → Part} {post : Part → α → Prop} {program : Program Effect Answer α}
    (permitted : ∀ role effect, protocol.permits role effect → outer.permits (wrap role) (inject effect))
    (advanced : ∀ role effect answer,
      outer.after (wrap role) (inject effect) answer = wrap (protocol.after role effect (read effect answer)))
    (follows : protocol.Follows (fun role => post (wrap role)) role program) :
    outer.Follows post (wrap role) (program.embed inject read) := by
  induction program generalizing role with
  | done value => exact follows
  | call effect next ih =>
    refine ⟨permitted role effect follows.1, ?_⟩
    intro answer
    rw [advanced]
    exact ih _ (follows.2 _)

/-- Roles of two protocols that stay related: what follows the one follows the other. -/
theorem Follows.simulate {Part : Type} {other : Protocol Effect Answer Part} {related : Role → Part → Prop}
    {result : Part → α → Prop} {program : Program Effect Answer α} {role : Role} {part : Part}
    (permitted : ∀ role part effect, related role part → protocol.permits role effect → other.permits part effect)
    (stepped : ∀ role part effect answer, related role part → protocol.permits role effect →
      related (protocol.after role effect answer) (other.after part effect answer))
    (ended : ∀ role part value, related role part → post role value → result part value)
    (start : related role part) (follows : protocol.Follows post role program) :
    other.Follows result part program := by
  induction program generalizing role part with
  | done value => exact ended role part value start follows
  | call effect next ih =>
    refine ⟨permitted role part effect start follows.1, ?_⟩
    intro answer
    exact ih answer (stepped role part effect answer start follows.1) (follows.2 answer)

/-- What a task leaves behind: `returns` after a value, `throws` after an error. -/
def Ends (returns : Role → α → Prop) (throws : Role → Error → Prop) (role : Role) :
    Except Error α → Prop
  | .ok value => returns role value
  | .error error => throws role error

/-- `Follows` for a task. -/
def Runs (protocol : Protocol Effect Answer Role) (returns : Role → α → Prop)
    (throws : Role → Error → Prop) (role : Role) (task : Task Effect Answer Error α) : Prop :=
  protocol.Follows (Ends returns throws) role task.run

section Runs

variable {returns : Role → α → Prop} {throws : Role → Error → Prop}

theorem Runs.pure (finished : returns role value) :
    protocol.Runs returns throws role (pure value : Task Effect Answer Error α) :=
  finished

theorem Runs.throw (failed : throws role error) :
    protocol.Runs returns throws role (throw error : Task Effect Answer Error α) :=
  failed

theorem Runs.mono {task : Task Effect Answer Error α} {returned : Role → α → Prop}
    {thrown : Role → Error → Prop} (runs : protocol.Runs returned thrown role task)
    (kept : ∀ role value, returned role value → returns role value)
    (raised : ∀ role error, thrown role error → throws role error) :
    protocol.Runs returns throws role task := by
  apply Follows.mono runs
  intro role result ends
  cases result with
  | ok value => exact kept role value ends
  | error error => exact raised role error ends

theorem Runs.bind {task : Task Effect Answer Error α} {next : α → Task Effect Answer Error β}
    {returns : Role → β → Prop}
    (runs : protocol.Runs (fun role value => protocol.Runs returns throws role (next value)) throws role
      task) :
    protocol.Runs returns throws role (task >>= next) := by
  apply Follows.bind
  apply Follows.mono runs
  intro role result ends
  cases result with
  | ok value => exact ends
  | error error => exact ends

theorem Runs.tryCatch {task : Task Effect Answer Error α} {handler : Error → Task Effect Answer Error α}
    (runs : protocol.Runs returns
      (fun role error => protocol.Runs returns throws role (handler error)) role task) :
    protocol.Runs returns throws role (tryCatch task handler) := by
  apply Follows.bind
  apply Follows.mono runs
  intro role result ends
  cases result with
  | ok value => exact ends
  | error error => exact ends

theorem Runs.perform {effect : Effect} {returns : Role → Answer effect → Prop}
    (permitted : protocol.permits role effect)
    (answered : ∀ answer, returns (protocol.after role effect answer) answer) :
    protocol.Runs returns throws role (monadLift (Program.perform effect : Program Effect Answer (Answer effect))) :=
  ⟨permitted, answered⟩

theorem Runs.lift {program : Program Effect Answer α} (follows : protocol.Follows returns role program) :
    protocol.Runs returns throws role (monadLift program : Task Effect Answer Error α) := by
  apply Follows.bind
  exact Follows.mono follows fun _ _ returned => returned

/-- A task as the program it is. -/
theorem Runs.follows {task : Task Effect Answer Error α} {post : Role → Except Error α → Prop}
    (runs : protocol.Runs (fun role value => post role (.ok value)) (fun role error => post role (.error error))
      role task) : protocol.Follows post role task.run := by
  apply Follows.mono runs
  intro role result ends
  cases result with
  | ok value => exact ends
  | error error => exact ends

theorem Runs.ofExcept {result : Except Error α} (returned : ∀ value, result = .ok value → returns role value)
    (raised : ∀ error, result = .error error → throws role error) :
    protocol.Runs returns throws role (Task.ofExcept result : Task Effect Answer Error α) := by
  cases result with
  | ok value => exact .pure (returned value rfl)
  | error error => exact .throw (raised error rfl)

end Runs

/-- A protocol whose calls only add to what a role may do. -/
structure Grows (protocol : Protocol Effect Answer Role) (grown : Role → Role → Prop) : Prop where
  permits : ∀ role later effect, grown role later → protocol.permits role effect → protocol.permits later effect
  after : ∀ role later effect answer, grown role later → protocol.permits role effect →
    grown (protocol.after role effect answer) (protocol.after later effect answer)
  step : ∀ role effect answer, protocol.permits role effect → grown role (protocol.after role effect answer)

section Both

variable {broader : Role → Role → Prop} {post : Role → α → Prop}

theorem Follows.grown {program : Program Effect Answer α} (grows : protocol.Grows broader)
    (kept : ∀ role later value, broader role later → post role value → post later value)
    (follows : protocol.Follows post role program) (later : broader role last) :
    protocol.Follows post last program := by
  induction program generalizing role last with
  | done value => exact kept role last value later follows
  | call effect next ih =>
    refine ⟨grows.permits role last effect later follows.1, ?_⟩
    intro answer
    exact ih answer (follows.2 answer) (grows.after role last effect answer later follows.1)

/-- What held of the first role holds of the last. -/
theorem Follows.kept {program : Program Effect Answer α} {fact : Role → Prop} (grows : protocol.Grows broader)
    (kept : ∀ role later, broader role later → fact role → fact later)
    (follows : protocol.Follows post role program) (held : fact role) :
    protocol.Follows (fun role value => post role value ∧ fact role) role program := by
  induction program generalizing role with
  | done value => exact ⟨follows, held⟩
  | call effect next ih =>
    refine ⟨follows.1, ?_⟩
    intro answer
    exact ih answer (follows.2 answer) (kept role _ (grows.step role effect answer follows.1) held)

variable {returned : Role → α → Prop} {gained : Role → β → Prop} {throws : Role → Error → Prop}

/-- What a task ends with is kept. -/
theorem Ends.grown {later : Role} {result : Except Error α}
    (keptValue : ∀ role later value, broader role later → returned role value → returned later value)
    (keptError : ∀ role later error, broader role later → throws role error → throws later error)
    (grew : broader role later) (ends : Ends returned throws role result) : Ends returned throws later result := by
  cases result with
  | ok value => exact keptValue role later value grew ends
  | error error => exact keptError role later error grew ends

/-- Two tasks side by side, whatever the order of their calls. -/
theorem Runs.both {first : Task Effect Answer Error α} {second : Task Effect Answer Error β}
    (grows : protocol.Grows broader)
    (keptFirst : ∀ role later value, broader role later → returned role value → returned later value)
    (keptSecond : ∀ role later value, broader role later → gained role value → gained later value)
    (keptError : ∀ role later error, broader role later → throws role error → throws later error)
    (turns : List Bool) (runsFirst : protocol.Runs returned throws role first)
    (runsSecond : protocol.Runs gained throws role second) :
    protocol.Runs (fun role pair => returned role pair.1 ∧ gained role pair.2) throws role
      (Task.both turns first second) := by
  have left : ∀ role later result, broader role later → Ends returned throws role result →
      Ends returned throws later result := fun _ _ _ => Ends.grown keptFirst keptError
  have right : ∀ role later result, broader role later → Ends gained throws role result →
      Ends gained throws later result := fun _ _ _ => Ends.grown keptSecond keptError
  induction turns generalizing role first second with
  | nil =>
    change protocol.Follows _ role (Program.bind first.run _)
    change protocol.Follows _ role first.run at runsFirst
    generalize first.run = program at runsFirst
    induction program generalizing role with
    | done result =>
      cases result with
      | error error => exact runsFirst
      | ok value =>
        change protocol.Follows _ role (Program.bind second.run _)
        apply Follows.bind
        have both := Follows.kept grows (fun role later => keptFirst role later value) runsSecond runsFirst
        apply Follows.mono both
        intro role result ends
        cases result with
        | error error => exact ends.1
        | ok other => exact ⟨ends.2, ends.1⟩
    | call effect next ih =>
      refine ⟨runsFirst.1, ?_⟩
      intro answer
      exact ih answer (Follows.grown grows right runsSecond (grows.step role effect answer runsFirst.1))
        (runsFirst.2 answer)
  | cons turn turns ih =>
    cases turn with
    | true =>
      unfold Task.both
      change protocol.Follows _ role first.run at runsFirst
      split
      · rename_i error ended
        rw [ended] at runsFirst
        exact runsFirst
      · exact ih runsFirst runsSecond
      · rename_i effect next called
        rw [called] at runsFirst
        refine ⟨runsFirst.1, ?_⟩
        intro answer
        exact ih (runsFirst.2 answer)
          (Follows.grown grows right runsSecond (grows.step role effect answer runsFirst.1))
    | false =>
      unfold Task.both
      change protocol.Follows _ role second.run at runsSecond
      split
      · rename_i error ended
        rw [ended] at runsSecond
        exact runsSecond
      · exact ih runsFirst runsSecond
      · rename_i effect next called
        rw [called] at runsSecond
        refine ⟨runsSecond.1, ?_⟩
        intro answer
        exact ih (Follows.grown grows left runsFirst (grows.step role effect answer runsSecond.1))
          (runsSecond.2 answer)

end Both

end Protocol

end Agroasys.Foundation
