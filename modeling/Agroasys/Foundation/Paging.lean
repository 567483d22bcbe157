import Mathlib.Data.List.Infix

namespace Agroasys.Foundation

variable {α : Type} {source longer : List α} {done weaker : α → Prop} {limit offset count : Nat}

/-- What a query with `limit` and `offset` returns. -/
def page (limit offset : Nat) (source : List α) : List α :=
  (source.drop offset).take limit

theorem page_mem (member : item ∈ page limit offset source) : item ∈ source :=
  List.mem_of_mem_drop (List.mem_of_mem_take member)

theorem page_end (within : offset ≤ source.length) :
    offset + (page limit offset source).length ≤ source.length := by
  have short : (page limit offset source).length ≤ (source.drop offset).length := List.length_take_le' _ _
  rw [List.length_drop] at short
  omega

/-- A page that is not full is the last one. -/
theorem page_short (short : (page limit offset source).length < limit) :
    source.length ≤ offset + (page limit offset source).length := by
  rw [page, List.length_take, List.length_drop] at *
  omega

theorem take_page : source.take (offset + (page limit offset source).length) =
    source.take offset ++ page limit offset source := by
  rw [List.take_add, page, List.length_take, List.take_eq_take_min (l := source.drop offset) (i := limit)]

/-- The first `count` items are done. -/
def Covered (done : α → Prop) (source : List α) (count : Nat) : Prop :=
  count ≤ source.length ∧ ∀ item ∈ source.take count, done item

theorem covered_none : Covered done source 0 :=
  ⟨Nat.zero_le _, by simp⟩

theorem Covered.mono (covered : Covered done source count) (kept : ∀ item, done item → weaker item) :
    Covered weaker source count :=
  ⟨covered.1, fun item member => kept item (covered.2 item member)⟩

theorem Covered.grow (covered : Covered done source count) (grown : source <+: longer) :
    Covered done longer count := by
  obtain ⟨more, rfl⟩ := grown
  refine ⟨?_, ?_⟩
  · rw [List.length_append]
    exact Nat.le_add_right_of_le covered.1
  · rw [List.take_append_of_le_length covered.1]
    exact covered.2

/-- A page that is done takes the count to its end. -/
theorem Covered.page (covered : Covered done source offset)
    (fetched : ∀ item ∈ page limit offset source, done item) :
    Covered done source (offset + (page limit offset source).length) := by
  refine ⟨page_end covered.1, ?_⟩
  intro item member
  rw [take_page] at member
  rcases List.mem_append.mp member with before | inside
  · exact covered.2 item before
  · exact fetched item inside

/-- A count that has reached the end covers everything. -/
theorem Covered.all (covered : Covered done source count) (reached : longer <+: source)
    (ended : longer.length ≤ count) : ∀ item ∈ longer, done item := by
  obtain ⟨more, rfl⟩ := reached
  intro item member
  apply covered.2
  rw [List.take_append, List.take_of_length_le ended]
  exact List.mem_append_left _ member

end Agroasys.Foundation
