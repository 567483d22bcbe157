import Agroasys.Foundation.Chains
import Mathlib.Data.String.Basic

/-! `Array.prototype.sort` and `String.prototype.localeCompare`, as far as they are documented. -/

namespace Agroasys.Runtime

section Comparators

variable {comparator : α → α → Int} {values part : List α}

/-- A comparator whose sign turns round with its arguments. -/
def Swaps (comparator : α → α → Int) : Prop :=
  ∀ value other, 0 < comparator value other ↔ comparator other value < 0

/-- A consistent comparison function on the values. -/
structure Consistent (comparator : α → α → Int) (values : List α) : Prop where
  swaps : Swaps comparator
  transitive : ∀ first ∈ values, ∀ second ∈ values, ∀ third ∈ values,
    comparator first second ≤ 0 → comparator second third ≤ 0 → comparator first third ≤ 0

/-- The comparator does not put the next value first. -/
def InOrder (comparator : α → α → Int) (value next : α) : Prop :=
  0 ≤ comparator next value

instance (comparator : α → α → Int) : DecidableRel (InOrder comparator) :=
  fun value next => inferInstanceAs (Decidable (0 ≤ comparator next value))

theorem Swaps.self (swaps : Swaps comparator) (value : α) : comparator value value = 0 := by
  have turned := swaps value value
  omega

theorem Swaps.inOrder (swaps : Swaps comparator) : InOrder comparator value next ↔ comparator value next ≤ 0 := by
  have turned := swaps value next
  unfold InOrder
  omega

theorem Swaps.comparable (swaps : Swaps comparator) (values : List α) : Comparable (InOrder comparator) values := by
  intro value _ other _
  have turned := swaps value other
  have back := swaps other value
  unfold InOrder
  omega

theorem Consistent.subset (consistent : Consistent comparator values) (within : ∀ value ∈ part, value ∈ values) :
    Consistent comparator part :=
  ⟨consistent.swaps, fun first member second member' third member'' =>
    consistent.transitive first (within first member) second (within second member') third (within third member'')⟩

theorem Consistent.pairwise (consistent : Consistent comparator values) (chain : values.IsChain (InOrder comparator)) :
    values.Pairwise fun value later => comparator value later ≤ 0 := by
  refine (pairwise_of_chain ?_ chain).imp consistent.swaps.inOrder.mp
  intro first member second member' third member'' before after
  rw [consistent.swaps.inOrder] at before after ⊢
  exact consistent.transitive first member second member' third member'' before after

end Comparators

/-- `values.sort(comparator)` in an engine. What an inconsistent comparator gives is the engine's own
affair, but for this: V8 first counts the run in order that a list starts with, and when that is the
whole list it is left as it is. -/
structure Sorter where
  sort : {α : Type} → (α → α → Int) → List α → List α
  perm : ∀ {α : Type} (comparator : α → α → Int) (values : List α), (sort comparator values).Perm values
  sorted : ∀ {α : Type} {comparator : α → α → Int} {values : List α}, Consistent comparator values →
    (sort comparator values).Pairwise fun value later => comparator value later ≤ 0
  settled : ∀ {α : Type} {comparator : α → α → Int} {values : List α},
    values.IsChain (InOrder comparator) → sort comparator values = values

/-- `localeCompare` in an engine: a consistent comparison function on all texts, and zero also for
texts that the collation does not tell apart. -/
structure Collation where
  localeCompare : String → String → Int
  swaps : Swaps localeCompare
  transitive : ∀ first second third,
    localeCompare first second ≤ 0 → localeCompare second third ≤ 0 → localeCompare first third ≤ 0

/-- A sort by insertion is one that an engine may have. -/
def insertion : Sorter where
  sort comparator values := values.insertionSort (InOrder comparator)
  perm comparator values := List.perm_insertionSort (InOrder comparator) values
  sorted consistent :=
    (consistent.subset fun _ member => (List.mem_insertionSort _).mp member).pairwise
      (insertionSort_isChain (consistent.swaps.comparable _))
  settled chain := insertionSort_chain chain

/-- The order of code points. -/
def compareCodePoints (text other : String) : Int :=
  if text < other then -1 else if other < text then 1 else 0

theorem compareCodePoints_le : compareCodePoints text other ≤ 0 ↔ text ≤ other := by
  unfold compareCodePoints
  rcases lt_trichotomy text other with less | rfl | greater
  · simp [less, less.le]
  · simp
  · simp [greater, lt_asymm greater, not_le_of_gt greater]

private theorem compareCodePoints_lt : compareCodePoints text other < 0 ↔ text < other := by
  unfold compareCodePoints
  split_ifs with less greater
  · simp [less]
  · simp [less]
  · simp [less]

def codePoints : Collation where
  localeCompare := compareCodePoints
  swaps text other := by rw [← not_le, compareCodePoints_le, compareCodePoints_lt, not_le]
  transitive first second third before after := by
    rw [compareCodePoints_le] at before after ⊢
    exact before.trans after

end Agroasys.Runtime
