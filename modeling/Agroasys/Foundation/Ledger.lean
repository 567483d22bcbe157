import Mathlib.Algebra.BigOperators.Group.Finset.Piecewise
import Mathlib.Algebra.Order.BigOperators.Group.Finset
import Mathlib.Algebra.Order.Ring.Nat
import Mathlib.Data.Fintype.BigOperators

/-! Account ledgers: sums of balances under pointwise updates, the movement of an
amount between two accounts, and ledgers kept as a journal of postings. -/

namespace Agroasys.Foundation

open Finset Function

variable {Key Value Account : Type} [DecidableEq Key] [DecidableEq Account]

/-- Replacing one entry exchanges its contribution to a weighted sum. -/
theorem sum_update {keys : Finset Key} (weight : Value → Nat) (entries : Key → Value)
    (member : key ∈ keys) (value : Value) :
    ∑ other ∈ keys, weight (update entries key value other) + weight (entries key) =
      ∑ other ∈ keys, weight (entries other) + weight value := by
  have rewritten : ∀ other, weight (update entries key value other) =
      update (fun other => weight (entries other)) key (weight value) other := by
    intro other
    by_cases same : other = key
    · subst same; simp
    · simp [same]
  have split := sum_erase_add keys (fun other => weight (entries other)) member
  rw [sum_congr rfl (fun other _ => rewritten other), sum_update_of_mem member,
    sdiff_singleton_eq_erase]
  omega

/-- Entries outside the summed range do not count. -/
theorem sum_update_outside {keys : Finset Key} (weight : Value → Nat) (entries : Key → Value)
    (absent : key ∉ keys) (value : Value) :
    ∑ other ∈ keys, weight (update entries key value other) =
      ∑ other ∈ keys, weight (entries other) := by
  apply sum_congr rfl
  intro other member
  have different : other ≠ key := fun same => absent (same ▸ member)
  simp [different]

variable [Fintype Account]

/-- The sum of all balances. -/
def holdings (balances : Account → Nat) : Nat := ∑ account, balances account

theorem holdings_update (balances : Account → Nat) (account : Account) (amount : Nat) :
    holdings (update balances account amount) + balances account = holdings balances + amount :=
  sum_update id balances (mem_univ account) amount

omit [DecidableEq Account] in
theorem le_holdings (balances : Account → Nat) (account : Account) :
    balances account ≤ holdings balances :=
  single_le_sum (f := balances) (fun _ _ => Nat.zero_le _) (mem_univ account)

theorem holdings_single (account : Account) (amount : Nat) :
    holdings (update (fun _ => 0) account amount) = amount := by
  have issued := holdings_update (fun _ => 0) account amount
  simpa [holdings] using issued

theorem add_le_holdings (balances : Account → Nat) (different : first ≠ second) :
    balances first + balances second ≤ holdings balances := by
  have moved := holdings_update balances first 0
  have bound := le_holdings (update balances first 0) second
  rw [update_of_ne different.symm] at bound
  omega

/-- An amount leaves one account for another; a transfer to oneself changes
nothing. -/
structure Moved (before after : Account → Nat) (source target : Account) (amount : Nat) : Prop where
  covered : amount ≤ before source
  result : after = if source = target then before else
    update (update before source (before source - amount)) target (before target + amount)

section

variable {before after : Account → Nat}

omit [Fintype Account] in
theorem Moved.target_eq (moved : Moved before after source target amount)
    (different : source ≠ target) : after target = before target + amount := by
  simp [moved.result, different]

omit [Fintype Account] in
theorem Moved.source_le (moved : Moved before after source target amount) :
    before source ≤ after source + amount := by
  have covered := moved.covered
  by_cases same : source = target
  · simp [moved.result, same]
  · simp [moved.result, same]
    omega

omit [Fintype Account] in
/-- Only the source loses anything. -/
theorem Moved.le_of_ne (moved : Moved before after source target amount) (different : account ≠ source) :
    before account ≤ after account := by
  by_cases same : source = target
  · simp [moved.result, same]
  · by_cases received : account = target
    · subst received
      simp [moved.result, same]
    · simp [moved.result, same, received, different]

/-- Transfers create and destroy nothing. -/
theorem Moved.holdings_eq (moved : Moved before after source target amount) :
    holdings after = holdings before := by
  by_cases same : source = target
  · simp [moved.result, same]
  · have covered := moved.covered
    have credited := holdings_update (update before source (before source - amount)) target
      (before target + amount)
    have debited := holdings_update before source (before source - amount)
    have untouched : update before source (before source - amount) target = before target :=
      update_of_ne (Ne.symm same) _ _
    simp only [moved.result, same, ↓reduceIte]
    omega

end

section Journal

/-- One line of a journal. -/
inductive Posting (Account : Type) where
  | credit (account : Account) (amount : Nat)
  | debit (account : Account) (amount : Nat)

/-- The balances after a posting; none when it overdraws the account. -/
def Posting.post (balances : Account → Nat) : Posting Account → Option (Account → Nat)
  | credit account amount => some (update balances account (balances account + amount))
  | debit account amount =>
    if amount ≤ balances account then some (update balances account (balances account - amount))
    else none

def postAll (balances : Account → Nat) (journal : List (Posting Account)) : Option (Account → Nat) :=
  journal.foldlM Posting.post balances

def Posting.creditTo (account : Account) : Posting Account → Nat
  | credit other amount => if other = account then amount else 0
  | debit _ _ => 0

def Posting.debitTo (account : Account) : Posting Account → Nat
  | credit _ _ => 0
  | debit other amount => if other = account then amount else 0

variable {balances : Account → Nat}

omit [Fintype Account] in
theorem postAll_append (first : postAll balances earlier = some middle)
    (second : postAll middle later = some after) : postAll balances (earlier ++ later) = some after := by
  simp only [postAll] at first second ⊢
  simp [first, second]

omit [Fintype Account] in
theorem Posting.post_balance {posting : Posting Account}
    (posted : posting.post balances = some after) (account : Account) :
    balances account + posting.creditTo account = posting.debitTo account + after account := by
  cases posting with
  | credit other amount =>
    cases posted
    by_cases same : account = other
    · subst same
      simp [creditTo, debitTo]
    · simp [creditTo, debitTo, same, Ne.symm same]
  | debit other amount =>
    simp only [post] at posted
    split at posted
    · rename_i covered
      cases posted
      by_cases same : account = other
      · subst same
        simp only [creditTo, debitTo, ↓reduceIte, update_self]
        omega
      · simp [creditTo, debitTo, same, Ne.symm same]
    · cases posted

omit [Fintype Account] in
/-- What was credited to an account beyond its debits is what it holds. -/
theorem postAll_balance {journal : List (Posting Account)}
    (posted : postAll balances journal = some after) (account : Account) :
    balances account + (journal.map (Posting.creditTo account)).sum =
      (journal.map (Posting.debitTo account)).sum + after account := by
  induction journal generalizing balances with
  | nil =>
    cases posted
    rw [List.map_nil, List.map_nil, List.sum_nil, Nat.add_comm]
  | cons posting rest ih =>
    simp only [postAll, List.foldlM_cons, Option.bind_eq_bind, Option.bind_eq_some_iff] at posted
    obtain ⟨middle, first, remaining⟩ := posted
    have head := Posting.post_balance first account
    have tail := ih remaining
    simp only [List.map_cons, List.sum_cons]
    omega

end Journal

end Agroasys.Foundation
