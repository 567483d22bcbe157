import Mathlib.Data.List.Chain
import Mathlib.Data.List.Sort
import Mathlib.Logic.Relation

/-! Lists whose neighbours are in order, for an order that need not be transitive. -/

namespace Agroasys

section Chains

variable {r : α → α → Prop} {values part rest done : List α}

/-- Of any two elements of the list, one may come before the other. -/
def Comparable (r : α → α → Prop) (values : List α) : Prop :=
  ∀ value ∈ values, ∀ other ∈ values, r value other ∨ r other value

/-- A way within the list from one element to another. -/
def Reaches (r : α → α → Prop) (values : List α) : α → α → Prop :=
  Relation.ReflTransGen fun value other => value ∈ values ∧ other ∈ values ∧ r value other

theorem Comparable.subset (comparable : Comparable r values) (within : ∀ value ∈ part, value ∈ values) :
    Comparable r part :=
  fun value member other member' => comparable value (within value member) other (within other member')

section Insertion

variable [DecidableRel r]

/-- What comes after the first element keeps it first. -/
theorem chain_orderedInsert (chain : (first :: rest).IsChain r) (after : r first value)
    (comparable : ∀ other ∈ rest, r value other ∨ r other value) :
    (first :: rest.orderedInsert r value).IsChain r := by
  induction rest generalizing first with
  | nil => exact List.isChain_pair.mpr after
  | cons next rest ih =>
    rw [List.isChain_cons_cons] at chain
    rw [List.orderedInsert]
    split
    · rename_i before
      exact List.isChain_cons_cons.mpr ⟨after, List.isChain_cons_cons.mpr ⟨before, chain.2⟩⟩
    · rename_i behind
      have between : r next value := (comparable next List.mem_cons_self).resolve_left behind
      exact List.isChain_cons_cons.mpr
        ⟨chain.1, ih chain.2 between fun other member => comparable other (List.mem_cons_of_mem _ member)⟩

theorem orderedInsert_isChain (chain : rest.IsChain r)
    (comparable : ∀ other ∈ rest, r value other ∨ r other value) :
    (rest.orderedInsert r value).IsChain r := by
  cases rest with
  | nil => exact List.isChain_singleton value
  | cons first rest =>
    rw [List.orderedInsert]
    split
    · rename_i before
      exact List.isChain_cons_cons.mpr ⟨before, chain⟩
    · rename_i behind
      exact chain_orderedInsert chain ((comparable first List.mem_cons_self).resolve_left behind)
        fun other member => comparable other (List.mem_cons_of_mem _ member)

/-- Whatever the order is, its insertion sort puts neighbours in order. -/
theorem insertionSort_isChain (comparable : Comparable r values) : (values.insertionSort r).IsChain r := by
  induction values with
  | nil => exact List.isChain_nil
  | cons value rest ih =>
    refine orderedInsert_isChain (ih (comparable.subset fun _ => List.mem_cons_of_mem _)) ?_
    intro other member
    exact comparable value List.mem_cons_self other (List.mem_cons_of_mem _ ((List.mem_insertionSort r).mp member))

/-- An insertion sort leaves a list in order as it is. -/
theorem insertionSort_chain (chain : values.IsChain r) : values.insertionSort r = values := by
  induction values with
  | nil => rfl
  | cons value rest ih =>
    rw [List.insertionSort_cons, ih chain.tail]
    cases rest with
    | nil => rfl
    | cons next rest => exact if_pos (List.isChain_cons_cons.mp chain).1

end Insertion

theorem pairwise_of_chain (transitive : ∀ first ∈ values, ∀ second ∈ values, ∀ third ∈ values,
    r first second → r second third → r first third) (chain : values.IsChain r) : values.Pairwise r := by
  induction values with
  | nil => exact .nil
  | cons value rest ih =>
    have sorted := ih (fun first member second member' third member'' =>
      transitive first (List.mem_cons_of_mem _ member) second (List.mem_cons_of_mem _ member')
        third (List.mem_cons_of_mem _ member'')) chain.tail
    refine List.pairwise_cons.mpr ⟨?_, sorted⟩
    cases rest with
    | nil => exact fun _ member => nomatch member
    | cons next rest =>
      have before := (List.isChain_cons_cons.mp chain).1
      intro other member
      rcases List.mem_cons.mp member with rfl | later
      · exact before
      · exact transitive value List.mem_cons_self next (List.mem_cons_of_mem _ List.mem_cons_self) other
          (List.mem_cons_of_mem _ member) before ((List.pairwise_cons.mp sorted).1 other later)

/-- A step of a way that leaves a part of the list. -/
theorem Reaches.leaves (reaches : Reaches r values first last) (inside : first ∈ part) (outside : last ∉ part) :
    ∃ value ∈ part, ∃ next ∉ part, next ∈ values ∧ r value next := by
  induction reaches with
  | refl => exact absurd inside outside
  | @tail value last _ step ih =>
    by_cases member : value ∈ part
    · exact ⟨value, member, last, outside, step.2.1, step.2.2⟩
    · exact ih member

/-- What comes after some element of a list in order has a place behind its first one. -/
theorem exists_longer_chain (chain : (first :: done).IsChain r) (member : value ∈ first :: done)
    (after : r value next) (comparable : ∀ other ∈ first :: done, r next other ∨ r other next) :
    ∃ longer, (first :: longer).Perm (next :: first :: done) ∧ (first :: longer).IsChain r := by
  classical
  obtain ⟨before, behind, parts⟩ := List.append_of_mem member
  have placed : (before ++ value :: behind.orderedInsert r next).IsChain r := by
    rw [parts, List.isChain_split] at chain
    refine List.isChain_split.mpr ⟨chain.1, chain_orderedInsert chain.2 after ?_⟩
    intro other among
    exact comparable other (by rw [parts]; exact List.mem_append_right _ (List.mem_cons_of_mem _ among))
  have all : (before ++ value :: behind.orderedInsert r next).Perm (next :: first :: done) := by
    rw [parts]
    calc before ++ value :: behind.orderedInsert r next
      _ |>.Perm (before ++ value :: next :: behind) :=
        ((List.perm_orderedInsert r next behind).cons value).append_left before
      _ |>.Perm (before ++ next :: value :: behind) := (List.Perm.swap next value behind).append_left before
      _ |>.Perm (next :: (before ++ value :: behind)) := List.perm_middle
  cases before with
  | nil =>
    obtain ⟨rfl, rfl⟩ := List.cons.inj parts
    exact ⟨_, all, placed⟩
  | cons head before =>
    obtain ⟨rfl, rfl⟩ := List.cons.inj parts
    exact ⟨_, all, placed⟩

/-- From an element that reaches every other one, a list can be put in order. -/
theorem exists_chain_from (comparable : Comparable r values)
    (reaches : ∀ value ∈ values, Reaches r values first value)
    (chain : (first :: done).IsChain r) (all : (first :: done ++ rest).Perm values) :
    ∃ sorted, (first :: sorted).Perm values ∧ (first :: sorted).IsChain r := by
  classical
  induction count : rest.length generalizing done rest with
  | zero =>
    rw [List.length_eq_zero_iff.mp count, List.append_nil] at all
    exact ⟨done, all, chain⟩
  | succ remaining ih =>
    have step : ∃ value ∈ first :: done, ∃ next ∈ rest, r value next := by
      obtain ⟨next, member⟩ := List.exists_mem_of_length_pos (by omega : 0 < rest.length)
      have among : next ∈ values := all.subset (List.mem_append_right _ member)
      by_cases inside : next ∈ first :: done
      · exact ⟨next, inside, next, member, (comparable next among next among).elim (fun h => h) fun h => h⟩
      · obtain ⟨value, source, target, outside, within, before⟩ :=
          (reaches next among).leaves List.mem_cons_self inside
        exact ⟨value, source, target, (List.mem_append.mp (all.symm.subset within)).resolve_left outside, before⟩
    obtain ⟨value, source, next, member, before⟩ := step
    obtain ⟨longer, parts, longerChain⟩ := exists_longer_chain chain source before fun other among =>
      comparable next (all.subset (List.mem_append_right _ member)) other (all.subset (List.mem_append_left _ among))
    refine ih longerChain ?_ ((List.length_erase_of_mem member).trans (by omega))
    calc first :: longer ++ rest.erase next
      _ |>.Perm (next :: first :: done ++ rest.erase next) := parts.append_right _
      _ |>.Perm (first :: done ++ next :: rest.erase next) := List.perm_middle.symm
      _ |>.Perm (first :: done ++ rest) := (List.perm_cons_erase member).symm.append_left _
      _ |>.Perm values := all

open Classical in
/-- What an element reaches. -/
noncomputable def reachedAmong (r : α → α → Prop) (values : List α) (value : α) : List α :=
  values.filter fun other => Reaches r values value other

open Classical in
noncomputable def unreachedAmong (r : α → α → Prop) (values : List α) (value : α) : List α :=
  values.filter fun other => ¬ Reaches r values value other

theorem mem_reached : other ∈ reachedAmong r values value ↔ other ∈ values ∧ Reaches r values value other := by
  classical
  simp [reachedAmong]

theorem mem_unreached :
    other ∈ unreachedAmong r values value ↔ other ∈ values ∧ ¬ Reaches r values value other := by
  classical
  simp [unreachedAmong]

/-- What is reached is reached within what is. -/
theorem Reaches.within (reaches : Reaches r values value other) :
    Reaches r (reachedAmong r values value) value other := by
  induction reaches with
  | refl => exact .refl
  | tail first step ih =>
    exact ih.tail ⟨mem_reached.mpr ⟨step.1, first⟩, mem_reached.mpr ⟨step.2.1, first.tail step⟩, step.2.2⟩

/-- A list can be put in order with exactly what an element does not reach before it. -/
theorem exists_chain_at (comparable : Comparable r values) (member : value ∈ values) :
    ∃ before after, before.length = (unreachedAmong r values value).length ∧
      (before ++ value :: after).Perm values ∧ (before ++ value :: after).IsChain r := by
  classical
  have own : value ∈ reachedAmong r values value := mem_reached.mpr ⟨member, .refl⟩
  have parts : (value :: [] ++ (reachedAmong r values value).erase value).Perm (reachedAmong r values value) :=
    (List.perm_cons_erase own).symm
  obtain ⟨after, perm, chain⟩ := exists_chain_from
    (comparable.subset fun _ among => (mem_reached.mp among).1)
    (fun other among => (mem_reached.mp among).2.within) (List.isChain_singleton value) parts
  have first : ((unreachedAmong r values value).insertionSort r).IsChain r :=
    insertionSort_isChain (comparable.subset fun _ among => (mem_unreached.mp among).1)
  refine ⟨(unreachedAmong r values value).insertionSort r, after, List.length_insertionSort r _, ?_, ?_⟩
  · calc (unreachedAmong r values value).insertionSort r ++ value :: after
      _ |>.Perm (unreachedAmong r values value ++ reachedAmong r values value) := (List.perm_insertionSort r _).append perm
      _ |>.Perm (reachedAmong r values value ++ unreachedAmong r values value) := List.perm_append_comm
      _ |>.Perm values := by
        unfold reachedAmong unreachedAmong
        simpa using List.filter_append_perm (fun other => decide (Reaches r values value other)) values
  · refine List.isChain_append.mpr ⟨first, chain, ?_⟩
    intro last ending head starting
    obtain rfl : value = head := by simpa using starting
    have among := mem_unreached.mp ((List.mem_insertionSort r).mp (List.mem_of_getLast? ending))
    -- What is not reached cannot come after the element.
    refine (comparable last among.1 value member).resolve_right ?_
    intro forth
    exact among.2 (.single ⟨member, among.1, forth⟩)

/-- Two elements that reach one another can take each other's place in a list put in order. -/
theorem reached_alike {f : α → β} (comparable : Comparable r values)
    (alike : ∀ sorted : List α, sorted.Perm values → sorted.IsChain r → sorted.map f = image)
    (member : value ∈ values) (member' : other ∈ values) (forth : Reaches r values value other)
    (back : Reaches r values other value) : f value = f other := by
  have same : unreachedAmong r values value = unreachedAmong r values other := by
    classical
    apply List.filter_congr
    intro element _
    have both : Reaches r values value element ↔ Reaches r values other element := ⟨back.trans, forth.trans⟩
    simp only [both]
  obtain ⟨before, after, place, perm, chain⟩ := exists_chain_at comparable member
  obtain ⟨before', after', place', perm', chain'⟩ := exists_chain_at comparable member'
  have images : (before ++ value :: after).map f = (before' ++ other :: after').map f :=
    (alike _ perm chain).trans (alike _ perm' chain').symm
  rw [List.map_append, List.map_append] at images
  have lengths : (before.map f).length = (before'.map f).length := by
    rw [List.length_map, List.length_map, place, place', same]
  exact (List.cons.inj (List.append_inj images lengths).2).1

/-- Lists in order by pairs are alike if what may come both before and after is. -/
theorem pairwise_alike {f : α → β}
    (ties : ∀ value ∈ values, ∀ other ∈ values, r value other → r other value → f value = f other)
    (perm : values.Perm part) (sorted : values.Pairwise r) (sorted' : part.Pairwise r) :
    values.map f = part.map f := by
  induction values generalizing part with
  | nil => rw [List.nil_perm.mp perm]
  | cons value rest ih =>
    obtain ⟨before, behind, rfl⟩ := List.append_of_mem (perm.subset List.mem_cons_self)
    have remaining : rest.Perm (before ++ behind) := (perm.trans List.perm_middle).cons_inv
    have shorter : (before ++ behind).Sublist (before ++ value :: behind) :=
      (List.sublist_cons_self value behind).append_left before
    have tail := ih (fun one member other member' =>
        ties one (List.mem_cons_of_mem _ member) other (List.mem_cons_of_mem _ member'))
      remaining (List.pairwise_cons.mp sorted).2 (sorted'.sublist shorter)
    -- What the second list has before the value is tied with it.
    have tied : ∀ image ∈ before.map f, image = f value := by
      rw [List.forall_mem_map]
      intro other among
      have member : other ∈ rest := remaining.symm.subset (List.mem_append_left _ among)
      exact ties other (List.mem_cons_of_mem _ member) value List.mem_cons_self
        ((List.pairwise_append.mp sorted').2.2 other among value List.mem_cons_self)
        ((List.pairwise_cons.mp sorted).1 other member)
    rw [List.map_cons, tail, List.map_append, List.map_append, List.map_cons,
      List.eq_replicate_of_mem tied, ← List.cons_append, ← List.replicate_succ, List.replicate_succ',
      List.append_assoc, List.singleton_append]

end Chains

end Agroasys
