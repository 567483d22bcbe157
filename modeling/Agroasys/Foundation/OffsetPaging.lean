import Agroasys.Foundation.Paging
import Mathlib.Data.List.Sort

/-! Reading a table page by page by limit and offset, where each query has its own order of the rows
that share a key. -/

namespace Agroasys.Foundation

variable {Row Key : Type} [LinearOrder Key]

/-- A backend that answers each query with a page of its rows, in some order by their keys. -/
structure Backend (key : Row → Key) (rows : List Row) where
  order : Nat → Nat → List Row
  complete : ∀ limit offset, (order limit offset).Perm rows
  sorted : ∀ limit offset, (order limit offset).Pairwise fun row later => key row ≤ key later

/-- Every row is visited, and none twice. -/
def VisitsOnce (rows visited : List Row) : Prop :=
  (∀ row ∈ rows, row ∈ visited) ∧ visited.Nodup

def sortedKeys (key : Row → Key) (rows : List Row) : List Key :=
  (rows.map key).insertionSort (· ≤ ·)

/-- No key is on both sides of the end of a full page. -/
def Separated (key : Row → Key) (batch : Nat) (rows : List Row) : Prop :=
  ∀ count, batch ∣ count → 0 < count → count < rows.length →
    (sortedKeys key rows)[count - 1]? ≠ (sortedKeys key rows)[count]?

instance (key : Row → Key) (batch : Nat) (rows : List Row) : Decidable (Separated key batch rows) :=
  decidable_of_iff (∀ count < rows.length, batch ∣ count → 0 < count →
      (sortedKeys key rows)[count - 1]? ≠ (sortedKeys key rows)[count]?)
    ⟨fun all count full positive within => all count within full positive,
      fun separated count within full positive => separated count full positive within⟩

variable {key : Row → Key} {rows : List Row}

namespace Backend

def page (backend : Backend key rows) (limit offset : Nat) : List Row :=
  Foundation.page limit offset (backend.order limit offset)

/-- The rows on the pages of a traversal, from an offset on; no query asks for more than a batch, nor
for more than is left up to the cap. -/
def visitedFrom (backend : Backend key rows) (batch cap : Nat) : Nat → Nat → List Row
  | 0, _ => []
  | fuel + 1, offset =>
    let page := backend.page (min batch (cap - offset)) offset
    page ++ backend.visitedFrom batch cap fuel (offset + page.length)

/-- The rows on the pages of a traversal. -/
def visited (backend : Backend key rows) (batch cap : Nat) : List Row :=
  backend.visitedFrom batch cap cap 0

variable {backend : Backend key rows}

theorem keys (backend : Backend key rows) (limit offset : Nat) :
    (backend.order limit offset).map key = sortedKeys key rows := by
  have ordered : ((backend.order limit offset).map key).Pairwise (· ≤ ·) :=
    List.pairwise_map.mpr (backend.sorted limit offset)
  refine List.Perm.eq_of_pairwise' ordered (List.pairwise_insertionSort _ _) ?_
  exact ((backend.complete limit offset).map key).trans (List.perm_insertionSort _ _).symm

theorem page_end (past : rows.length ≤ offset) : backend.page limit offset = [] := by
  rw [page, Foundation.page, List.drop_eq_nil_of_le, List.take_nil]
  rw [(backend.complete limit offset).length_eq]
  exact past

theorem visited_empty (empty : ∀ limit, backend.page limit offset = []) :
    backend.visitedFrom batch cap fuel offset = [] := by
  induction fuel with
  | zero => rfl
  | succ fuel ih =>
    rw [visitedFrom, empty, List.nil_append]
    exact ih

theorem visited_idle (idle : cap ≤ offset) : backend.visitedFrom batch cap fuel offset = [] := by
  induction fuel with
  | zero => rfl
  | succ fuel ih =>
    have none : backend.page (min batch (cap - offset)) offset = [] := by
      rw [Nat.sub_eq_zero_of_le idle, Nat.min_zero, page, Foundation.page, List.take_zero]
    rw [visitedFrom, none, List.nil_append]
    exact ih

theorem visited_short (short : (backend.page limit offset).length < limit) :
    backend.visitedFrom batch cap fuel (offset + (backend.page limit offset).length) = [] := by
  apply visited_empty
  intro other
  apply page_end
  rw [← (backend.complete limit offset).length_eq]
  exact page_short short

theorem page_length : (backend.page limit offset).length = min limit (rows.length - offset) := by
  rw [page, Foundation.page, List.length_take, List.length_drop, (backend.complete limit offset).length_eq]

end Backend

section Boundaries

variable {ordered other : List Row}

/-- Before a place where the key changes are the rows with the smaller keys. -/
theorem filter_before (sorted : ordered.Pairwise fun row later => key row ≤ key later) (positive : 0 < count)
    (before : (ordered.map key)[count - 1]? = some last) (after : (ordered.map key)[count]? = some first)
    (apart : last < first) : ordered.filter (fun row => key row ≤ last) = ordered.take count := by
  rw [List.getElem?_map, Option.map_eq_some_iff] at before after
  obtain ⟨row, here, lastKey⟩ := before
  obtain ⟨next, there, firstKey⟩ := after
  obtain ⟨within, rfl⟩ := List.getElem?_eq_some_iff.mp here
  obtain ⟨within', rfl⟩ := List.getElem?_eq_some_iff.mp there
  have increasing := List.pairwise_iff_getElem.mp sorted
  have front : ∀ row ∈ ordered.take count, decide (key row ≤ last) = true := by
    intro row member
    obtain ⟨place, inside, rfl⟩ := List.mem_take_iff_getElem.mp member
    apply decide_eq_true
    rw [← lastKey]
    rcases Nat.lt_or_eq_of_le (show place ≤ count - 1 by omega) with earlier | same
    · exact increasing place (count - 1) (by omega) within earlier
    · subst same
      exact le_rfl
  have back : ∀ row ∈ ordered.drop count, ¬ decide (key row ≤ last) = true := by
    intro row member
    obtain ⟨place, inside, rfl⟩ := List.mem_drop_iff_getElem.mp member
    rw [decide_eq_true_eq, not_le]
    refine lt_of_lt_of_le apart ?_
    rw [← firstKey]
    rcases Nat.eq_zero_or_pos place with same | later
    · subst same
      exact le_rfl
    · exact increasing count (count + place) within' (by omega) (by omega)
  have parts := List.filter_append (p := fun row => decide (key row ≤ last)) (ordered.take count) (ordered.drop count)
  rw [List.take_append_drop, List.filter_eq_self.mpr front, List.filter_eq_nil_iff.mpr back, List.append_nil] at parts
  exact parts

/-- Where the key changes, every order has the same rows before and behind. -/
theorem take_perm (separated : Separated key batch rows) (first second : Backend key rows)
    (full : batch ∣ count ∨ rows.length ≤ count)
    (limit offset limit' offset' : Nat) :
    ((first.order limit offset).take count).Perm ((second.order limit' offset').take count) := by
  have same := (first.complete limit offset).trans (second.complete limit' offset').symm
  rcases Nat.eq_zero_or_pos count with rfl | positive
  · rw [List.take_zero, List.take_zero]
  rcases Nat.lt_or_ge count rows.length with within | past
  · have full := full.resolve_right (by omega)
    have length : (sortedKeys key rows).length = rows.length := by
      rw [sortedKeys, List.length_insertionSort, List.length_map]
    have ordered : (sortedKeys key rows).Pairwise (· ≤ ·) := List.pairwise_insertionSort _ _
    have split : ∃ last next, (sortedKeys key rows)[count - 1]? = some last ∧ (sortedKeys key rows)[count]? = some next ∧
        last < next := by
      have before := List.getElem?_eq_getElem (show count - 1 < (sortedKeys key rows).length by omega)
      have after := List.getElem?_eq_getElem (show count < (sortedKeys key rows).length by omega)
      refine ⟨_, _, before, after, lt_of_le_of_ne ?_ ?_⟩
      · exact List.pairwise_iff_getElem.mp ordered (count - 1) count (by omega) (by omega) (by omega)
      · intro tie
        apply separated count full positive within
        rw [before, after, tie]
    obtain ⟨last, next, before, after, less⟩ := split
    rw [← filter_before (first.sorted limit offset) positive (first.keys limit offset ▸ before)
      (first.keys limit offset ▸ after) less,
      ← filter_before (second.sorted limit' offset') positive (second.keys limit' offset' ▸ before)
      (second.keys limit' offset' ▸ after) less]
    exact same.filter _
  · rw [List.take_of_length_le, List.take_of_length_le]
    · exact same
    · rw [(second.complete limit' offset').length_eq]
      exact past
    · rw [(first.complete limit offset).length_eq]
      exact past

end Boundaries

section Traversals

/-- Without a key on both sides of a page's end a traversal goes through the table. -/
theorem visited_perm (separated : Separated key batch rows) (positive : 1 ≤ batch) (unlimited : rows.length ≤ cap)
    (backend : Backend key rows) : (backend.visited batch cap).Perm rows := by
  have visits : ∀ fuel offset, rows.length - offset ≤ fuel → batch ∣ offset ∨ rows.length ≤ offset →
      ((backend.order 0 0).take offset ++ backend.visitedFrom batch cap fuel offset).Perm rows := by
    intro fuel
    induction fuel with
    | zero =>
      intro offset enough _
      rw [Backend.visitedFrom, List.append_nil, List.take_of_length_le]
      · exact backend.complete 0 0
      · rw [(backend.complete 0 0).length_eq]
        omega
    | succ fuel ih =>
      intro offset enough full
      by_cases past : rows.length ≤ offset
      · rw [Backend.visited_empty fun limit => Backend.page_end past, List.append_nil, List.take_of_length_le]
        · exact backend.complete 0 0
        · rw [(backend.complete 0 0).length_eq]
          exact past
      rw [Backend.visitedFrom]
      generalize asked : min batch (cap - offset) = limit
      have length : (backend.page limit offset).length = min limit (rows.length - offset) := Backend.page_length
      have next : batch ∣ offset + (backend.page limit offset).length ∨
          rows.length ≤ offset + (backend.page limit offset).length := by
        rcases Nat.lt_or_ge (rows.length - offset) batch with last | whole
        · right
          omega
        · left
          have exact' : (backend.page limit offset).length = batch := by omega
          rw [exact']
          exact Nat.dvd_add (full.resolve_right past) (Nat.dvd_refl batch)
      have parts : ((backend.order 0 0).take (offset + (backend.page limit offset).length)).Perm
          ((backend.order 0 0).take offset ++ backend.page limit offset) := by
        refine (take_perm separated backend backend next 0 0 limit offset).trans ?_
        rw [show (backend.page limit offset).length = (page limit offset (backend.order limit offset)).length from rfl, take_page]
        exact (take_perm separated backend backend full limit offset 0 0).append_right _
      rw [← List.append_assoc]
      refine (parts.symm.append_right _).trans (ih _ ?_ next)
      omega
  have all := visits cap 0 (by omega) (.inl (Nat.dvd_zero batch))
  rw [List.take_zero, List.nil_append] at all
  exact all

/-- A backend that answers from one order up to a place, and from another one from there on. -/
def changing (place : Nat) (first second : List Row) (complete : first.Perm rows) (complete' : second.Perm rows)
    (sorted : first.Pairwise fun row later => key row ≤ key later)
    (sorted' : second.Pairwise fun row later => key row ≤ key later) : Backend key rows where
  order _ offset := if offset < place then first else second
  complete _ offset := by
    split
    · exact complete
    · exact complete'
  sorted _ offset := by
    split
    · exact sorted
    · exact sorted'

/-- A traversal comes to the place with the rows of the first order, and goes on with the second. -/
theorem changing_visited (backend : Backend key rows) (positive : 1 ≤ batch) (unlimited : rows.length ≤ cap) (full : batch ∣ place)
    (within : place < rows.length) (before : ∀ limit offset, offset < place → backend.order limit offset = first)
    (after : ∀ limit, (backend.order limit place).drop place = row :: rest) :
    ∃ more, backend.visited batch cap = first.take place ++ row :: more := by
  have visits : ∀ fuel offset, rows.length - offset ≤ fuel → batch ∣ offset → offset ≤ place →
      ∃ more, backend.visitedFrom batch cap fuel offset = (first.drop offset).take (place - offset) ++ row :: more := by
    intro fuel
    induction fuel with
    | zero => omega
    | succ fuel ih =>
      intro offset enough begun ahead
      rw [Backend.visitedFrom]
      rcases Nat.lt_or_eq_of_le ahead with earlier | rfl
      · obtain ⟨turns, rfl⟩ := begun
        obtain ⟨pages, rfl⟩ := full
        have room : batch * turns + batch ≤ batch * pages := by
          rw [← Nat.mul_succ]
          exact Nat.mul_le_mul_left batch (Nat.lt_of_mul_lt_mul_left earlier)
        have asked : min batch (cap - batch * turns) = batch := by omega
        have length : (backend.page batch (batch * turns)).length = batch := by
          rw [Backend.page_length]
          omega
        rw [asked, length]
        obtain ⟨more, goes⟩ := ih (batch * turns + batch) (by omega) ⟨turns + 1, (Nat.mul_succ ..).symm⟩ room
        refine ⟨more, ?_⟩
        rw [goes, ← List.append_assoc, Backend.page, page, before _ _ earlier]
        have parts := List.take_add (l := first.drop (batch * turns)) (i := batch) (j := batch * pages - (batch * turns + batch))
        rw [List.drop_drop] at parts
        rw [← parts]
        congr 2
        omega
      · have asked : 0 < min batch (cap - offset) := by omega
        obtain ⟨limit, asked⟩ := Nat.exists_eq_add_of_lt asked
        rw [Backend.page, page, after, asked, Nat.zero_add, List.take_succ_cons, Nat.sub_self, List.take_zero]
        exact ⟨_, rfl⟩
  obtain ⟨more, goes⟩ := visits cap 0 (by omega) (Nat.dvd_zero batch) (Nat.zero_le place)
  exact ⟨more, goes⟩

theorem exists_sorted (key : Row → Key) (rows : List Row) :
    ∃ ordered : List Row, ordered.Perm rows ∧ ordered.Pairwise fun row later => key row ≤ key later := by
  have total : Std.Total fun row later : Row => key row ≤ key later := ⟨fun row later => le_total (key row) (key later)⟩
  have transitive : IsTrans Row fun row later => key row ≤ key later := ⟨fun _ _ _ first second => le_trans first second⟩
  exact ⟨rows.insertionSort fun row later => key row ≤ key later, List.perm_insertionSort _ _,
    List.pairwise_insertionSort (fun row later => key row ≤ key later) rows⟩

/-- Two neighbours of one key stand in either order. -/
theorem swap_sorted (sorted : (front ++ row :: next :: rest).Pairwise fun row later => key row ≤ key later)
    (tie : key row = key next) : (front ++ next :: row :: rest).Pairwise fun row later => key row ≤ key later := by
  obtain ⟨before, behind, across⟩ := List.pairwise_append.mp sorted
  obtain ⟨first, behind⟩ := List.pairwise_cons.mp behind
  obtain ⟨second, behind⟩ := List.pairwise_cons.mp behind
  refine List.pairwise_append.mpr ⟨before, List.pairwise_cons.mpr ⟨?_, List.pairwise_cons.mpr ⟨?_, behind⟩⟩, ?_⟩
  · intro other member
    rcases List.mem_cons.mp member with rfl | later
    · exact le_of_eq tie.symm
    · exact second other later
  · exact fun other member => first other (List.mem_cons_of_mem _ member)
  · intro other member later among
    apply across other member
    simp only [List.mem_cons] at among ⊢
    tauto

/-- Every backend is traversed without a loss or a repetition just where no key is on both sides of a page's end. -/
theorem visitsOnce_iff (distinct : rows.Nodup) (positive : 1 ≤ batch) (unlimited : rows.length ≤ cap) :
    (∀ backend : Backend key rows, VisitsOnce rows (backend.visited batch cap)) ↔ Separated key batch rows := by
  constructor
  · intro visits place full start within tie
    obtain ⟨ordered, complete, sorted⟩ := exists_sorted key rows
    have keys : ordered.map key = sortedKeys key rows :=
      (changing 0 ordered ordered complete complete sorted sorted).keys 0 0
    have length := complete.length_eq
    have parts : ∃ front row next rest, ordered = front ++ row :: next :: rest ∧ place = front.length + 1 ∧
        key row = key next := by
      refine ⟨ordered.take (place - 1), ordered[place - 1], ordered[place], ordered.drop (place + 1), ?_, ?_, ?_⟩
      · have last := List.drop_eq_getElem_cons (show place < ordered.length by omega)
        have both := List.drop_eq_getElem_cons (show place - 1 < ordered.length by omega)
        rw [Nat.sub_add_cancel start] at both
        rw [← last, ← both, List.take_append_drop]
      · rw [List.length_take]
        omega
      · rw [← keys, List.getElem?_map, List.getElem?_map, List.getElem?_eq_getElem (by omega),
          List.getElem?_eq_getElem (by omega), Option.map_some, Option.map_some, Option.some.injEq] at tie
        exact tie
    obtain ⟨front, row, next, rest, rfl, rfl, same⟩ := parts
    have swapped : (front ++ next :: row :: rest).Perm rows :=
      ((List.Perm.swap row next rest).append_left front).trans complete
    let backend := changing (front.length + 1) _ _ complete swapped sorted (swap_sorted sorted same)
    have later : ∀ limit, (backend.order limit (front.length + 1)).drop (front.length + 1) = row :: rest := by
      intro limit
      change (if front.length + 1 < front.length + 1 then _ else _ : List Row).drop _ = _
      rw [if_neg (Nat.lt_irrefl _), List.drop_append, List.drop_of_length_le (Nat.le_succ _), List.nil_append,
        Nat.add_sub_cancel_left]
      rfl
    obtain ⟨more, goes⟩ := changing_visited backend positive unlimited full within (fun _ offset earlier => if_pos earlier) later
    have repeated := (visits backend).2
    rw [goes, List.nodup_append] at repeated
    refine repeated.2.2 row ?_ row List.mem_cons_self rfl
    rw [List.take_append, List.take_of_length_le (Nat.le_succ _), Nat.add_sub_cancel_left]
    exact List.mem_append_right _ List.mem_cons_self
  · intro separated backend
    have all := visited_perm separated positive unlimited backend
    exact ⟨fun row member => all.mem_iff.mpr member, all.nodup_iff.mpr distinct⟩

end Traversals

end Agroasys.Foundation
