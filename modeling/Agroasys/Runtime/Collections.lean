import Mathlib.Data.List.Nodup

/-! JavaScript's `Map`: entries in the order of their insertion, one for each key. -/

namespace Agroasys.Runtime

structure InsertionMap (Key Value : Type) where
  entries : List (Key × Value)
  distinct : (entries.map Prod.fst).Nodup

namespace InsertionMap

variable {Key Value : Type}

def empty : InsertionMap Key Value := ⟨[], List.nodup_nil⟩

/-- The entries that pass a test. -/
def filter (keep : Key × Value → Bool) (map : InsertionMap Key Value) : InsertionMap Key Value :=
  ⟨map.entries.filter keep, map.distinct.sublist (List.filter_sublist.map _)⟩

/-- All entries but the first ones. -/
def drop (count : Nat) (map : InsertionMap Key Value) : InsertionMap Key Value :=
  ⟨map.entries.drop count, map.distinct.sublist ((List.drop_sublist count _).map _)⟩

theorem filter_entries (keep : Key × Value → Bool) (map : InsertionMap Key Value) :
    (map.filter keep).entries = map.entries.filter keep := rfl

theorem drop_entries (count : Nat) (map : InsertionMap Key Value) :
    (map.drop count).entries = map.entries.drop count := rfl

variable [DecidableEq Key]

def get (key : Key) (map : InsertionMap Key Value) : Option Value :=
  (map.entries.find? (·.1 = key)).map Prod.snd

/-- The entries with a new value at a key that is there. -/
def replace (key : Key) (value : Value) (entries : List (Key × Value)) : List (Key × Value) :=
  entries.map fun entry => if entry.1 = key then (key, value) else entry

private theorem replace_keys (key : Key) (value : Value) (entries : List (Key × Value)) :
    (replace key value entries).map Prod.fst = entries.map Prod.fst := by
  induction entries with
  | nil => rfl
  | cons entry rest ih =>
    simp only [replace, List.map_cons] at ih ⊢
    rw [ih]
    by_cases same : entry.1 = key
    · rw [if_pos same, same]
    · rw [if_neg same]

/-- `map.set(key, value)`: a key that is there keeps its place. -/
def set (key : Key) (value : Value) (map : InsertionMap Key Value) : InsertionMap Key Value :=
  if present : key ∈ map.entries.map Prod.fst then
    ⟨replace key value map.entries, by rw [replace_keys]; exact map.distinct⟩
  else
    ⟨map.entries ++ [(key, value)], by
      rw [List.map_append]
      exact map.distinct.append (List.nodup_singleton _) (by simpa using present)⟩

theorem set_entries {map : InsertionMap Key Value} (absent : key ∉ map.entries.map Prod.fst) :
    (map.set key value).entries = map.entries ++ [(key, value)] := by
  unfold set
  rw [dif_neg absent]

end InsertionMap

end Agroasys.Runtime
