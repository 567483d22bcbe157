import Mathlib.Logic.Function.Basic

/-! Tables read and written through what a batch holds of them: a read takes what is held
or loads it, and the end of a batch writes everything held back. -/

namespace Agroasys.Foundation

open Function

structure WriteBack (Key Value : Type) where
  store : Key → Option Value
  held : Key → Option Value

namespace WriteBack

variable {Key Value : Type}

def empty : WriteBack Key Value := ⟨fun _ => none, fun _ => none⟩

/-- What a read finds. -/
def get (table : WriteBack Key Value) (key : Key) : Option Value :=
  (table.held key).or (table.store key)

def flush (table : WriteBack Key Value) : WriteBack Key Value := ⟨table.get, fun _ => none⟩

@[simp] theorem get_flush (table : WriteBack Key Value) : table.flush.get = table.get := by
  funext key
  simp [flush, get]

@[simp] theorem get_empty : (empty : WriteBack Key Value).get = fun _ => none := rfl

variable [DecidableEq Key]

def set (table : WriteBack Key Value) (key : Key) (value : Value) : WriteBack Key Value :=
  { table with held := update table.held key (some value) }

/-- A read holds on to what it loads. -/
def load (table : WriteBack Key Value) (key : Key) : Option Value × WriteBack Key Value :=
  match table.held key with
  | some value => (some value, table)
  | none =>
    match table.store key with
    | some value => (some value, table.set key value)
    | none => (none, table)

@[simp] theorem get_set (table : WriteBack Key Value) (key : Key) (value : Value) :
    (table.set key value).get = update table.get key (some value) := by
  funext other
  by_cases same : other = key
  · subst same
    simp [get, set]
  · simp [get, set, same]

@[simp] theorem load_fst (table : WriteBack Key Value) (key : Key) : (table.load key).1 = table.get key := by
  unfold load get
  cases held : table.held key with
  | some value => rfl
  | none => cases table.store key <;> simp

/-- Loading changes no later read. -/
@[simp] theorem get_load (table : WriteBack Key Value) (key : Key) : (table.load key).2.get = table.get := by
  unfold load
  cases held : table.held key with
  | some value => rfl
  | none =>
    cases stored : table.store key with
    | none => rfl
    | some value =>
      have found : table.get key = some value := by simp [get, held, stored]
      simp [← found]

/-- Every item of a model has an entry under its key that shows it. -/
def Tracks {Index Item : Type} (key : Index → Key) (shown : Index → Item → Value → Prop)
    (model : Index → Option Item) (entries : Key → Option Value) : Prop :=
  ∀ index item, model index = some item → ∃ value, entries (key index) = some value ∧ shown index item value

section Tracks

variable {Index Item : Type} [DecidableEq Index] {key : Index → Key} {index : Index} {item : Item}
  {shown : Index → Item → Value → Prop} {model : Index → Option Item} {entries : Key → Option Value}

theorem Tracks.set (tracks : Tracks key shown model entries) (distinct : Injective key)
    (shows : shown index item value) :
    Tracks key shown (update model index (some item)) (update entries (key index) (some value)) := by
  intro other found present
  by_cases same : other = index
  · subst same
    rw [update_self] at present ⊢
    exact ⟨value, rfl, Option.some.inj present ▸ shows⟩
  · rw [update_of_ne same] at present
    rw [update_of_ne (distinct.ne same)]
    exact tracks other found present

omit [DecidableEq Key] in
/-- An entry may stay as it is while it still shows the item. -/
theorem Tracks.keep (tracks : Tracks key shown model entries) (found : entries (key index) = some value)
    (shows : shown index item value) : Tracks key shown (update model index (some item)) entries := by
  intro other present known
  by_cases same : other = index
  · subst same
    rw [update_self] at known
    exact ⟨value, found, Option.some.inj known ▸ shows⟩
  · rw [update_of_ne same] at known
    exact tracks other present known

omit [DecidableEq Key] [DecidableEq Index] in
theorem Tracks.mono {weaker : Index → Item → Value → Prop} (tracks : Tracks key shown model entries)
    (weakens : ∀ index item value, model index = some item → shown index item value → weaker index item value) :
    Tracks key weaker model entries := by
  intro index item present
  obtain ⟨value, found, shows⟩ := tracks index item present
  exact ⟨value, found, weakens index item value present shows⟩

end Tracks

end WriteBack

/-- A table that a batch only adds rows to. -/
structure Journal (Row : Type) where
  stored : List Row
  pending : List Row

namespace Journal

variable {Row : Type}

def empty : Journal Row := ⟨[], []⟩

/-- Every row, oldest first. -/
def rows (journal : Journal Row) : List Row := journal.stored ++ journal.pending

def push (journal : Journal Row) (row : Row) : Journal Row :=
  { journal with pending := journal.pending ++ [row] }

def flush (journal : Journal Row) : Journal Row := ⟨journal.rows, []⟩

@[simp] theorem rows_empty : (empty : Journal Row).rows = [] := rfl

@[simp] theorem rows_push (journal : Journal Row) (row : Row) :
    (journal.push row).rows = journal.rows ++ [row] := by
  simp [push, rows]

@[simp] theorem rows_flush (journal : Journal Row) : journal.flush.rows = journal.rows := by
  simp [flush, rows]

end Journal

end Agroasys.Foundation
