import Agroasys.Foundation.Transition

/-! Two machines in lockstep: a map of states along which every attempt of one is
an attempt of the other, with the same verdict. Sequences of attempts, rejected
ones included, and reachable states follow. -/

namespace Agroasys.Foundation

variable {State Image Label Name : Type}

/-- Attempts one after the other; a rejected one leaves the state as it was. The
verdicts are kept, with the reasons of the rejections. -/
def attempts (attempt : Label → State → Except Error State) :
    List Label → State → List (Option Error) × State
  | [], state => ([], state)
  | label :: rest, state =>
    match attempt label state with
    | .ok next =>
      let (verdicts, final) := attempts attempt rest next
      (none :: verdicts, final)
    | .error error =>
      let (verdicts, final) := attempts attempt rest state
      (some error :: verdicts, final)

section Lockstep

variable {attempt : Label → State → Except Error State} {shadow : Name → Image → Except Error Image}
  {image : State → Image} {label : Name → Label}

theorem attempts_map
    (lockstep : ∀ name state, shadow name (image state) = (attempt (label name) state).map image)
    (names : List Name) (state : State) :
    attempts shadow names (image state) =
      Prod.map id image (attempts attempt (names.map label) state) := by
  induction names generalizing state with
  | nil => rfl
  | cons name rest ih =>
    rw [List.map_cons, attempts, attempts, lockstep]
    cases attempt (label name) state with
    | ok next =>
      simp only [Except.map, ih next]
      rfl
    | error error =>
      simp only [Except.map, ih state]
      rfl

end Lockstep

/-- A system whose only labels are the named ones of another. -/
def System.named (system : System State Label) (label : Name → Label) : System State Name where
  initial := system.initial
  step state name next := system.step state (label name) next

/-- A path along a map of states that keeps its steps. -/
theorem Path.image {system : System State Label} {target : System Image Label} {image : State → Image}
    (path : Path system origin history final)
    (step : ∀ entry ∈ history, target.step (image entry.before) entry.label (image entry.after)) :
    Path target (image origin)
      (history.map fun entry => ⟨image entry.before, entry.label, image entry.after⟩) (image final) := by
  induction path with
  | start => exact .start
  | next _ _ ih =>
    rw [List.forall_mem_cons] at step
    exact (ih step.2).next step.1

/-- Reachability along a map of states that keeps initial states and steps. -/
theorem System.Reachable.image {system : System State Label} {target : System Image Label}
    {image : State → Image} (initial : ∀ state, system.initial state → target.initial (image state))
    (step : ∀ state label next, system.step state label next →
      target.step (image state) label (image next))
    (reachable : system.Reachable state) : target.Reachable (image state) := by
  obtain ⟨history, run⟩ := reachable
  apply run.invariant
  · intro origin first
    exact ⟨[], image origin, initial origin first, .start⟩
  · intro state label next taken reached
    exact reached.step (step state label next taken)

end Agroasys.Foundation
