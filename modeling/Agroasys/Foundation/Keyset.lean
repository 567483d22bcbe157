import Mathlib.Data.Finset.Card
import Mathlib.Data.List.Sort
import Mathlib.Order.Basic

/-! Listings that are read page by page while their table changes: a page goes on behind the
last row of the page before. -/

namespace Agroasys.Foundation

variable {Row Table Cursor Key : Type}

/-- The pages of a listing, one of each table in turn, up to the page that has no next one. -/
inductive Traversal (page : Option Cursor → Table → Option (List Row × Option Cursor)) :
    Option Cursor → List Table → List Row → Prop
  | last (served : page cursor table = some (items, none)) : Traversal page cursor [table] items
  | more (served : page cursor table = some (items, some next)) (rest : Traversal page (some next) tables later) :
      Traversal page cursor (table :: tables) (items ++ later)

/-- A page of some rows, and the row that the next page goes on behind. -/
def keysetPage (limit : Nat) (rows : List Row) : List Row × Option Row :=
  (rows.take limit, if rows.length ≤ limit then none else rows[limit - 1]?)

variable [LinearOrder Key]

/-- A page shows the rows wanted of the table behind a boundary, the greatest keys first. -/
structure Keyset (page : Option Cursor → Table → Option (List Row × Option Cursor)) (cursorOf : Row → Cursor)
    (key : Row → Key) (wanted : Table → List Row) (known : Row → Prop) (limit : Nat) (table : Table) : Prop where
  recognised : ∀ row ∈ wanted table, known row
  serves : ∀ boundary : Option Row, (∀ row ∈ boundary, known row) → ∃ rows : List Row,
    rows.Pairwise (fun row later => key later < key row) ∧
    (∀ row, row ∈ rows ↔ row ∈ wanted table ∧ ∀ other ∈ boundary, key row < key other) ∧
    page (boundary.map cursorOf) table = some ((keysetPage limit rows).1, (keysetPage limit rows).2.map cursorOf)

variable {page : Option Cursor → Table → Option (List Row × Option Cursor)} {cursorOf : Row → Cursor} {key : Row → Key}
  {wanted : Table → List Row} {known : Row → Prop} {limit : Nat}

/-- A page without a next one shows all rows; else the rest is behind its boundary, which is the
last row it shows. -/
theorem keysetPage_cases (positive : 1 ≤ limit) (rows : List Row) :
    keysetPage limit rows = (rows, none) ∨
      ∃ shown boundary rest, rows = shown ++ boundary :: rest ∧
        keysetPage limit rows = (shown ++ [boundary], some boundary) := by
  obtain ⟨before, rfl⟩ := Nat.exists_eq_add_of_le' positive
  unfold keysetPage
  rw [Nat.add_sub_cancel]
  by_cases short : rows.length ≤ before + 1
  · left
    rw [if_pos short, List.take_of_length_le short]
  · right
    have within : before < rows.length := by omega
    refine ⟨rows.take before, rows[before], rows.drop (before + 1), ?_, ?_⟩
    · rw [List.getElem_cons_drop, List.take_append_drop]
    · rw [if_neg short, ← List.take_append_getElem within, List.getElem?_eq_getElem within]

/-- Rows of different keys, sorted by a comparison that goes by their keys. -/
theorem insertionSort_descending {before : Row → Row → Bool} {rows : List Row} (distinct : (rows.map key).Nodup)
    (compares : ∀ row ∈ rows, ∀ later ∈ rows, before row later = true ↔ key later ≤ key row) :
    (rows.insertionSort fun row later => before row later = true).Pairwise fun row later => key later < key row := by
  have same := List.map_insertionSort (r := fun row later => before row later = true) (s := fun row later => key later ≤ key row)
    id rows compares
  have total : Std.Total fun row later : Row => key later ≤ key row := ⟨fun row later => le_total (key later) (key row)⟩
  have transitive : IsTrans Row fun row later => key later ≤ key row := ⟨fun _ _ _ first second => le_trans second first⟩
  rw [List.map_id, List.map_id] at same
  rw [same]
  have ordered := List.pairwise_insertionSort (fun row later => key later ≤ key row) rows
  have different : (rows.insertionSort fun row later => key later ≤ key row).Pairwise fun row later => key row ≠ key later := by
    rw [← List.pairwise_map (f := key) (R := (· ≠ ·)), ← List.nodup_iff_pairwise_ne]
    exact ((List.perm_insertionSort _ rows).map key).nodup_iff.mpr distinct
  exact (ordered.and different).imp fun both => lt_of_le_of_ne both.1 (Ne.symm both.2)

theorem keysetPage_map {Item : Type} (shape : Row → Item) (limit : Nat) (rows : List Row) :
    keysetPage limit (rows.map shape) = ((keysetPage limit rows).1.map shape, (keysetPage limit rows).2.map shape) := by
  unfold keysetPage
  rw [List.map_take, List.length_map, List.getElem?_map]
  split
  · rfl
  · rfl

/-- A listing that shows its rows in another shape. -/
theorem Keyset.map {Item Table' : Type} {table' : Table'}
    {page' : Option Cursor → Table' → Option (List Item × Option Cursor)}
    {cursorOf' : Item → Cursor} {key' : Item → Key} {wanted' : Table' → List Item}
    (keyset : Keyset page cursorOf key wanted known limit table) (shape : Row → Item)
    (shaped : wanted' table' = (wanted table).map shape)
    (same : ∀ row, known row → key' (shape row) = key row ∧ cursorOf' (shape row) = cursorOf row)
    (paged : ∀ cursor, page' cursor table' = (page cursor table).map fun shown => (shown.1.map shape, shown.2)) :
    Keyset page' cursorOf' key' wanted' (fun item => ∃ row, known row ∧ key row = key' item ∧ cursorOf row = cursorOf' item)
      limit table' := by
  constructor
  · intro item member
    rw [shaped] at member
    obtain ⟨row, among, rfl⟩ := List.mem_map.mp member
    have legit := keyset.recognised row among
    exact ⟨row, legit, (same row legit).1.symm, (same row legit).2.symm⟩
  · intro boundary legit
    have source : ∃ origin : Option Row, (∀ row ∈ origin, known row) ∧ origin.map cursorOf = boundary.map cursorOf' ∧
        ∀ place : Key, (∀ row ∈ origin, place < key row) ↔ ∀ item ∈ boundary, place < key' item := by
      cases boundary with
      | none =>
        refine ⟨none, fun _ none => (nomatch none), rfl, fun _ => ?_⟩
        constructor
        · exact fun _ _ none => nomatch none
        · exact fun _ _ none => nomatch none
      | some item =>
        obtain ⟨row, legit, sameKey, sameCursor⟩ := legit item rfl
        refine ⟨some row, by rintro _ ⟨⟩; exact legit, congrArg some sameCursor, ?_⟩
        intro place
        simp only [Option.mem_def, Option.some.injEq, forall_eq', sameKey]
    obtain ⟨origin, legit', sameCursor, sameEdge⟩ := source
    obtain ⟨rows, descending, members, served⟩ := keyset.serves origin legit'
    have among : ∀ row ∈ rows, known row := fun row member => keyset.recognised row ((members row).mp member).1
    refine ⟨rows.map shape, ?_, ?_, ?_⟩
    · rw [List.pairwise_map]
      refine descending.imp_of_mem ?_
      intro row later member member' less
      rw [(same row (among row member)).1, (same later (among later member')).1]
      exact less
    · intro item
      constructor
      · intro member
        obtain ⟨row, inside, rfl⟩ := List.mem_map.mp member
        obtain ⟨source, behind⟩ := (members row).mp inside
        refine ⟨shaped ▸ List.mem_map_of_mem source, (sameEdge _).mp ?_⟩
        rw [(same row (among row inside)).1]
        exact behind
      · rintro ⟨source, behind⟩
        rw [shaped] at source
        obtain ⟨row, inside, rfl⟩ := List.mem_map.mp source
        rw [(same row (keyset.recognised row inside)).1] at behind
        exact List.mem_map_of_mem ((members row).mpr ⟨inside, (sameEdge _).mpr behind⟩)
    · rw [paged, ← sameCursor, served, keysetPage_map, Option.map_some, Option.map_map]
      refine congrArg (fun next => some (_, next)) (Option.map_congr ?_)
      intro row last
      have member : row ∈ rows := by
        unfold keysetPage at last
        dsimp only at last
        split at last
        · cases last
        · exact List.mem_of_getElem? last
      exact (same row (among row member)).2.symm

/-- What a traversal shows from a boundary on. -/
structure Shown (key : Row → Key) (wanted : Table → List Row) (boundary : Option Row) (tables : List Table)
    (visited : List Row) : Prop where
  descending : visited.Pairwise fun row later => key later < key row
  behind : ∀ row ∈ visited, (∃ table ∈ tables, row ∈ wanted table) ∧ ∀ other ∈ boundary, key row < key other
  complete : ∀ place : Key, (∀ other ∈ boundary, place < key other) →
    (∀ table ∈ tables, ∃ row ∈ wanted table, key row = place) → ∃ row ∈ visited, key row = place

theorem Traversal.shown (positive : 1 ≤ limit) (traversal : Traversal page cursor tables visited)
    (keysets : ∀ table ∈ tables, Keyset page cursorOf key wanted known limit table) (boundary : Option Row)
    (same : cursor = boundary.map cursorOf) (legit : ∀ row ∈ boundary, known row) :
    Shown key wanted boundary tables visited := by
  induction traversal generalizing boundary with
  | @last cursor table items served =>
    have keyset := keysets table List.mem_cons_self
    obtain ⟨rows, descending, members, paged⟩ := keyset.serves boundary legit
    rw [same, paged] at served
    have all : items = rows := by
      rcases keysetPage_cases positive rows with whole | ⟨shown, other, rest, _, part⟩
      · rw [whole] at served
        cases served
        rfl
      · rw [part] at served
        cases served
    subst all
    refine ⟨descending, ?_, ?_⟩
    · intro row member
      obtain ⟨among, behind⟩ := (members row).mp member
      exact ⟨⟨table, List.mem_cons_self, among⟩, behind⟩
    · intro place behind present
      obtain ⟨row, among, rfl⟩ := present table List.mem_cons_self
      exact ⟨row, (members row).mpr ⟨among, behind⟩, rfl⟩
  | @more cursor table items next tables later served _ ih =>
    have keyset := keysets table List.mem_cons_self
    obtain ⟨rows, descending, members, paged⟩ := keyset.serves boundary legit
    rw [same, paged] at served
    rcases keysetPage_cases positive rows with whole | ⟨shown, other, rest, parts, part⟩
    · rw [whole] at served
      cases served
    · rw [part] at served
      simp only [Option.map_some, Option.some.injEq, Prod.mk.injEq] at served
      obtain ⟨rfl, rfl⟩ := served
      have among : ∀ row ∈ shown ++ [other], row ∈ rows := by
        intro row member
        rw [parts, ← List.singleton_append, ← List.append_assoc]
        exact List.mem_append_left _ member
      have found : other ∈ wanted table ∧ ∀ row ∈ boundary, key other < key row :=
        (members other).mp (among other (List.mem_append_right _ (List.mem_singleton_self other)))
      rw [parts, List.pairwise_append, List.pairwise_cons] at descending
      obtain ⟨ordered, ⟨beyond, _⟩, across⟩ := descending
      have later := ih (fun table member => keysets table (List.mem_cons_of_mem _ member)) (some other) rfl (by
        rintro row ⟨⟩
        exact keyset.recognised other found.1)
      have before : ∀ row ∈ shown ++ [other], key other ≤ key row := by
        intro row member
        rcases List.mem_append.mp member with first | last
        · exact le_of_lt (across row first other List.mem_cons_self)
        · rw [List.mem_singleton.mp last]
      refine ⟨?_, ?_, ?_⟩
      · rw [List.pairwise_append, List.pairwise_append]
        refine ⟨⟨ordered, List.pairwise_singleton .., ?_⟩, later.descending, ?_⟩
        · intro row first last member
          rw [List.mem_singleton.mp member]
          exact across row first other List.mem_cons_self
        · intro row first last member
          exact lt_of_lt_of_le ((later.behind last member).2 other rfl) (before row first)
      · intro row member
        rcases List.mem_append.mp member with first | last
        · obtain ⟨among, behind⟩ := (members row).mp (among row first)
          exact ⟨⟨table, List.mem_cons_self, among⟩, behind⟩
        · obtain ⟨⟨source, member, among⟩, behind⟩ := later.behind row last
          refine ⟨⟨source, List.mem_cons_of_mem _ member, among⟩, ?_⟩
          intro edge inside
          exact lt_trans (behind other rfl) (found.2 edge inside)
      · intro place behind present
        by_cases ahead : place < key other
        · obtain ⟨row, member, same⟩ := later.complete place (by rintro row ⟨⟩; exact ahead)
            (fun table member => present table (List.mem_cons_of_mem _ member))
          exact ⟨row, List.mem_append_right _ member, same⟩
        · obtain ⟨row, wanted, rfl⟩ := present table List.mem_cons_self
          have member := (members row).mpr ⟨wanted, behind⟩
          rw [parts] at member
          rcases List.mem_append.mp member with first | last
          · exact ⟨row, List.mem_append_left _ (List.mem_append_left _ first), rfl⟩
          · rcases List.mem_cons.mp last with rfl | after
            · exact ⟨row, List.mem_append_left _ (List.mem_append_right _ (List.mem_singleton_self row)), rfl⟩
            · exact absurd (beyond row after) ahead

/-- Where the rows of all tables have finitely many keys, a traversal comes to its end. -/
theorem traversal_ends (positive : 1 ≤ limit) (tables : Nat → Table)
    (keysets : ∀ number, Keyset page cursorOf key wanted known limit (tables number)) (places : Finset Key)
    (among : ∀ number, ∀ row ∈ wanted (tables number), key row ∈ places) (boundary : Option Row)
    (legit : ∀ row ∈ boundary, known row) (start : Nat) :
    ∃ count visited, Traversal page (boundary.map cursorOf) ((List.range' start (count + 1)).map tables) visited := by
  generalize measured : (places.filter fun place => ∀ other ∈ boundary, place < key other).card = left
  induction left using Nat.strong_induction_on generalizing boundary start with
  | _ left ih =>
    obtain ⟨rows, descending, members, paged⟩ := (keysets start).serves boundary legit
    rcases keysetPage_cases positive rows with whole | ⟨shown, other, rest, parts, part⟩
    · rw [whole] at paged
      exact ⟨0, rows, .last paged⟩
    · rw [part] at paged
      have found : other ∈ wanted (tables start) ∧ ∀ row ∈ boundary, key other < key row := by
        apply (members other).mp
        rw [parts]
        exact List.mem_append_right _ List.mem_cons_self
      have fewer : (places.filter fun place => ∀ row ∈ some other, place < key row).card < left := by
        rw [← measured]
        apply Finset.card_lt_card
        rw [Finset.ssubset_iff_of_subset]
        · refine ⟨key other, Finset.mem_filter.mpr ⟨among start other found.1, found.2⟩, ?_⟩
          intro member
          exact lt_irrefl _ ((Finset.mem_filter.mp member).2 other rfl)
        · intro place member
          obtain ⟨inside, less⟩ := Finset.mem_filter.mp member
          refine Finset.mem_filter.mpr ⟨inside, ?_⟩
          intro row edge
          exact lt_trans (less other rfl) (found.2 row edge)
      obtain ⟨count, visited, rest⟩ := ih _ fewer (some other) (by
        rintro row ⟨⟩
        exact (keysets start).recognised other found.1) (start + 1) rfl
      exact ⟨count + 1, _, .more paged rest⟩

end Agroasys.Foundation
