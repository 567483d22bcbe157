import Mathlib

namespace Agroasys.Runtime

instance codeUnit_neZero : NeZero 0x10000 := ⟨by decide⟩

abbrev CodeUnit := Fin 0x10000
abbrev JsString := List CodeUnit

def unit (char : Char) : CodeUnit := Fin.ofNat 0x10000 char.toNat

/-- The code units of a text: two for a character beyond the basic plane. -/
def utf16 (text : String) : JsString :=
  text.toList.flatMap fun char =>
    if char.toNat < 0x10000 then [unit char]
    else [Fin.ofNat 0x10000 (0xD800 + (char.toNat - 0x10000) / 0x400),
      Fin.ofNat 0x10000 (0xDC00 + (char.toNat - 0x10000) % 0x400)]

section Digits

instance digit_neZero : NeZero 10 := ⟨by decide⟩

abbrev Digit := Fin 10

def digitUnit (digit : Digit) : CodeUnit := ⟨48 + digit.val, by omega⟩

def unitDigit (unit : CodeUnit) : Option Digit :=
  if digit : 48 ≤ unit.val ∧ unit.val ≤ 57 then some ⟨unit.val - 48, by omega⟩ else none

@[simp] theorem unitDigit_digitUnit (digit : Digit) : unitDigit (digitUnit digit) = some digit := by
  have bound := digit.isLt
  unfold unitDigit digitUnit
  rw [dif_pos (by dsimp only; omega)]
  congr 1
  ext
  dsimp only
  omega

/-- The digits of a number, at most as many as the fuel. -/
def natDigitsFrom : Nat → Nat → List Digit
  | 0, _ => []
  | fuel + 1, number =>
    if number < 10 then [Fin.ofNat 10 number] else natDigitsFrom fuel (number / 10) ++ [Fin.ofNat 10 number]

def natDigits (number : Nat) : List Digit := natDigitsFrom (number + 1) number

def natValue (digits : List Digit) : Nat := digits.foldl (fun value digit => value * 10 + digit.val) 0

private theorem natValue_append (digits : List Digit) (digit : Digit) :
    natValue (digits ++ [digit]) = natValue digits * 10 + digit.val := by
  simp [natValue]

private theorem natDigitsFrom_value (enough : number < fuel) : natValue (natDigitsFrom fuel number) = number := by
  induction fuel generalizing number with
  | zero => exact absurd enough (Nat.not_lt_zero _)
  | succ fuel ih =>
    unfold natDigitsFrom
    split
    · rename_i small
      simp [natValue, Nat.mod_eq_of_lt small]
    · rw [natValue_append, ih (by omega), Fin.val_ofNat]
      omega

theorem natDigits_value (number : Nat) : natValue (natDigits number) = number :=
  natDigitsFrom_value (Nat.lt_succ_self number)

theorem natDigits_filled (number : Nat) : natDigits number ≠ [] := by
  unfold natDigits natDigitsFrom
  split <;> simp

/-- The text of a number. -/
def natText (number : Nat) : JsString := (natDigits number).map digitUnit

end Digits

section Order

/-- The index that a key is, if it is one: it must be written as the number is. -/
def arrayIndex (key : JsString) : Option Nat :=
  match key.mapM unitDigit with
  | some digits =>
    let number := natValue digits
    if natText number = key ∧ number < 2 ^ 32 - 1 then some number else none
  | none => none

private theorem arrayIndex_text (index : arrayIndex key = some number) : natText number = key := by
  unfold arrayIndex at index
  split at index
  · rw [Option.ite_none_right_eq_some] at index
    obtain ⟨written, same⟩ := index
    cases same
    exact written.1
  · cases index

theorem arrayIndex_unique (index : arrayIndex key = some number) (index' : arrayIndex other = some number) :
    key = other :=
  (arrayIndex_text index).symm.trans (arrayIndex_text index')

variable {α β : Type}

abbrev Members (α : Type) := List (JsString × α)

def isIndex (member : JsString × α) : Bool := (arrayIndex member.1).isSome

def indexOf (member : JsString × α) : Nat := (arrayIndex member.1).getD 0

/-- The order in which an object lists its properties: indices by their number, and then the
others as they were created. -/
def ownOrder (members : Members α) : Members α :=
  (members.filter isIndex).insertionSort (fun first second => indexOf first ≤ indexOf second) ++
    members.filter fun member => !isIndex member

/-- The properties by their keys, as `sort` orders strings. -/
def sortMembers (members : Members α) : Members α :=
  members.insertionSort fun first second => first.1 ≤ second.1

def mapMembers (f : α → β) (members : Members α) : Members β := members.map fun member => (member.1, f member.2)

theorem ownOrder_perm (members : Members α) : (ownOrder members).Perm members :=
  ((List.perm_insertionSort _ _).append_right _).trans (List.filter_append_perm isIndex members)

theorem ownOrder_map (f : α → β) (members : Members α) :
    ownOrder (mapMembers f members) = mapMembers f (ownOrder members) := by
  unfold ownOrder mapMembers
  rw [List.map_append, List.map_insertionSort _ (fun first second => indexOf first ≤ indexOf second), List.filter_map,
    List.filter_map]
  · rfl
  · exact fun _ _ _ _ => Iff.rfl

theorem sortMembers_perm (members : Members α) : (sortMembers members).Perm members :=
  List.perm_insertionSort _ _

theorem sortMembers_map (f : α → β) (members : Members α) :
    sortMembers (mapMembers f members) = mapMembers f (sortMembers members) := by
  unfold sortMembers mapMembers
  rw [List.map_insertionSort _ (fun first second => first.1 ≤ second.1)]
  exact fun _ _ _ _ => Iff.rfl

def Distinct (members : Members α) : Prop := (members.map Prod.fst).Nodup

theorem Distinct.perm {members other : Members α} (distinct : Distinct members) (same : other.Perm members) :
    Distinct other :=
  (same.map Prod.fst).nodup_iff.mpr distinct

theorem Distinct.eq_of_key {members : Members α} (distinct : Distinct members) (first : member ∈ members)
    (second : other ∈ members) (same : member.1 = other.1) : member = other :=
  List.inj_on_of_nodup_map distinct first second same

theorem Distinct.new {before after : Members α} (distinct : Distinct (before ++ member :: after)) :
    ∀ other ∈ before, other.1 ≠ member.1 := by
  intro other among
  unfold Distinct at distinct
  rw [List.map_append, List.nodup_append] at distinct
  exact distinct.2.2 _ (List.mem_map_of_mem among) _ List.mem_cons_self

theorem sortMembers_sorted (members : Members α) :
    (sortMembers members).Pairwise fun first second => first.1 ≤ second.1 := by
  have total : Std.Total fun first second : JsString × α => first.1 ≤ second.1 :=
    ⟨fun first second => le_total first.1 second.1⟩
  have trans : IsTrans (JsString × α) fun first second => first.1 ≤ second.1 :=
    ⟨fun _ _ _ first second => le_trans first second⟩
  exact List.pairwise_insertionSort _ _

/-- Sorted members with one key each are in strict order. -/
theorem sortMembers_strict {members : Members α} (distinct : Distinct members) :
    (sortMembers members).Pairwise fun first second => first.1 < second.1 := by
  have apart : (sortMembers members).Pairwise fun first second => first.1 ≠ second.1 :=
    List.pairwise_map.mp (distinct.perm (sortMembers_perm members))
  exact (sortMembers_sorted members).imp₂ (fun _ _ least different => lt_of_le_of_ne least different) apart

/-- Sorting forgets the order that members with one key each come in. -/
theorem sortMembers_eq {members other : Members α} (distinct : Distinct members) (same : other.Perm members) :
    sortMembers other = sortMembers members := by
  have perm := (sortMembers_perm other).trans (same.trans (sortMembers_perm members).symm)
  apply perm.eq_of_pairwise _ (sortMembers_sorted other) (sortMembers_sorted members)
  intro first second among _ least most
  have member := same.mem_iff.mp ((sortMembers_perm other).mem_iff.mp among)
  have member' : second ∈ members := (sortMembers_perm members).mem_iff.mp ‹_›
  exact distinct.eq_of_key member member' (le_antisymm least most)

end Order

end Agroasys.Runtime
