import Mathlib.Data.List.Sort
import Mathlib.Data.List.Chain

namespace Agroasys.Foundation

structure Lifecycle (State : Type) where
  first : State
  follows : State → State → Prop

namespace Lifecycle

variable {State : Type} {cycle : Lifecycle State} {state last : State} {states earlier later : List State}

/-- A history, oldest state first. -/
def Legal (cycle : Lifecycle State) (states : List State) : Prop :=
  states.head? = some cycle.first ∧ states.IsChain cycle.follows

/-- No state follows this one. -/
def Terminal (cycle : Lifecycle State) (state : State) : Prop :=
  ∀ next, ¬ cycle.follows state next

theorem legal_first : cycle.Legal [cycle.first] :=
  ⟨rfl, .singleton _⟩

theorem Legal.extend (legal : cycle.Legal states) (latest : states.getLast? = some last)
    (follows : cycle.follows last next) : cycle.Legal (states ++ [next]) := by
  constructor
  · rw [List.head?_append, legal.1]
    rfl
  · refine List.isChain_append.mpr ⟨legal.2, .singleton _, ?_⟩
    intro state member other single
    rw [latest] at member
    cases member
    cases single
    exact follows

/-- A terminal state is the last one. -/
theorem Legal.ends (legal : cycle.Legal (earlier ++ state :: later)) (terminal : cycle.Terminal state) :
    later = [] := by
  cases later with
  | nil => rfl
  | cons next rest =>
    have chain := (List.isChain_append_cons_cons.mp legal.2).2.1
    exact absurd chain (terminal next)

/-- A terminal state is entered at most once. -/
theorem Legal.once [DecidableEq State] (legal : cycle.Legal states) (terminal : cycle.Terminal state) :
    states.count state ≤ 1 := by
  by_cases member : state ∈ states
  · obtain ⟨earlier, later, rfl, absent⟩ := List.eq_append_cons_of_mem member
    rw [legal.ends terminal, List.count_append, List.count_eq_zero_of_not_mem absent]
    simp
  · rw [List.count_eq_zero_of_not_mem member]
    exact Nat.zero_le 1

end Lifecycle

end Agroasys.Foundation
