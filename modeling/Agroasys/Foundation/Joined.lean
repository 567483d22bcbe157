import Mathlib.Data.List.Basic

namespace Agroasys.Foundation

variable {α : Type} {mark : α}

/-- What stands before the first mark, and what follows it. -/
theorem cut_first {first second rest rest' : List α} (plain : mark ∉ first) (plain' : mark ∉ second)
    (same : first ++ mark :: rest = second ++ mark :: rest') : first = second ∧ rest = rest' := by
  induction first generalizing second with
  | nil =>
    cases second with
    | nil => exact ⟨rfl, (List.cons.inj same).2⟩
    | cons value second =>
      have start : mark = value := (List.cons.inj same).1
      exact absurd (start ▸ List.mem_cons_self) plain'
  | cons value first ih =>
    cases second with
    | nil =>
      have start : value = mark := (List.cons.inj same).1
      exact absurd (start ▸ List.mem_cons_self) plain
    | cons other second =>
      obtain ⟨rfl, tails⟩ := List.cons.inj same
      obtain ⟨rfl, rests⟩ := ih (fun member => plain (List.mem_cons_of_mem _ member))
        (fun member => plain' (List.mem_cons_of_mem _ member)) tails
      exact ⟨rfl, rests⟩

theorem cut_last {first second rest rest' : List α} (plain : mark ∉ rest) (plain' : mark ∉ rest')
    (same : first ++ mark :: rest = second ++ mark :: rest') : first = second ∧ rest = rest' := by
  have reversed := congrArg List.reverse same
  simp only [List.reverse_append, List.reverse_cons, List.append_assoc, List.singleton_append] at reversed
  obtain ⟨rests, firsts⟩ := cut_first (by simpa using plain) (by simpa using plain') reversed
  exact ⟨List.reverse_injective firsts, List.reverse_injective rests⟩

/-- Parts without the mark are told from what they join to. -/
theorem intercalate_injective {parts others : List (List α)} (length : parts.length = others.length)
    (plain : ∀ part ∈ parts, mark ∉ part) (plain' : ∀ part ∈ others, mark ∉ part)
    (same : [mark].intercalate parts = [mark].intercalate others) : parts = others := by
  induction parts generalizing others with
  | nil => exact (List.length_eq_zero_iff.mp length.symm).symm
  | cons part parts ih =>
    cases others with
    | nil => cases length
    | cons other others =>
      have shorter : parts.length = others.length := Nat.succ.inj length
      cases parts with
      | nil =>
        have empty : others = [] := List.length_eq_zero_iff.mp shorter.symm
        subst empty
        simpa using same
      | cons next parts =>
        cases others with
        | nil => cases shorter
        | cons next' others =>
          rw [List.intercalate_cons_cons, List.intercalate_cons_cons, List.append_assoc, List.append_assoc,
            List.singleton_append, List.singleton_append] at same
          obtain ⟨rfl, rests⟩ := cut_first (plain _ List.mem_cons_self) (plain' _ List.mem_cons_self) same
          rw [ih shorter (fun part member => plain part (List.mem_cons_of_mem _ member))
            (fun part member => plain' part (List.mem_cons_of_mem _ member)) rests]

end Agroasys.Foundation
