import Mathlib

namespace Agroasys.Runtime

/-- `String.prototype.toLowerCase`, on ASCII text. -/
def toLowerCase (text : String) : String :=
  String.ofList (text.toList.map Char.toLower)

private theorem lowered_once (char : Char) : char.toLower.toLower = char.toLower := by
  have small : ¬ (char.toLower.val ≥ 'A'.val ∧ char.toLower.val ≤ 'Z'.val) := by
    unfold Char.toLower
    split
    · rename_i upper
      simp only [ge_iff_le, UInt32.le_iff_toNat_le, UInt32.toNat_add] at upper ⊢
      have first : ('A'.val).toNat = 65 := rfl
      have last : ('Z'.val).toNat = 90 := rfl
      have offset : ('a'.val - 'A'.val).toNat = 32 := rfl
      omega
    · assumption
  rw [Char.toLower, dif_neg small]

theorem toLowerCase_idempotent (text : String) : toLowerCase (toLowerCase text) = toLowerCase text := by
  have composed : Char.toLower ∘ Char.toLower = Char.toLower := funext lowered_once
  simp [toLowerCase, composed]

/-- Only letters have a case. -/
theorem toLower_mark (mark : char'.isAlpha = false) (char : Char) : char.toLower = char' ↔ char = char' := by
  constructor
  · intro same
    have alpha : char.isAlpha = false := by
      rw [← Char.isAlpha_toLower_eq_isAlpha, same]
      exact mark
    have upper : ¬ char.isUpper = true := by
      intro upper
      rw [Char.isAlpha, upper] at alpha
      cases alpha
    rwa [Char.toLower_eq_of_not_isUpper upper] at same
  · rintro rfl
    apply Char.toLower_eq_of_not_isUpper
    intro upper
    rw [Char.isAlpha, upper] at mark
    cases mark

/-- White space and line terminators. -/
def isSpace (char : Char) : Bool :=
  [0x9, 0xA, 0xB, 0xC, 0xD, 0x20, 0xA0, 0x1680, 0x2028, 0x2029, 0x202F, 0x205F, 0x3000, 0xFEFF].contains char.toNat ||
    (0x2000 ≤ char.toNat && char.toNat ≤ 0x200A)

/-- `String.prototype.trim`. -/
def trim (text : String) : String :=
  String.ofList ((text.toList.dropWhile isSpace).reverse.dropWhile isSpace).reverse

theorem dropWhile_fixed {keep : α → Bool} {values : List α} (first : ∀ value ∈ values.head?, keep value = false) :
    values.dropWhile keep = values := by
  cases values with
  | nil => rfl
  | cons value rest => exact List.dropWhile_cons_of_neg (by simp [first value rfl])

theorem dropWhile_head (keep : α → Bool) (values : List α) :
    ∀ value ∈ (values.dropWhile keep).head?, keep value = false := by
  intro value member
  have found := List.head?_dropWhile_not keep values
  rw [Option.mem_def.mp member] at found
  exact found

/-- A text that neither starts nor ends with a space is what it is. -/
theorem trim_fixed {text : String} (first : ∀ char ∈ text.toList.head?, isSpace char = false)
    (last : ∀ char ∈ text.toList.getLast?, isSpace char = false) : trim text = text := by
  unfold trim
  rw [dropWhile_fixed first, dropWhile_fixed (by rwa [List.head?_reverse]), List.reverse_reverse, String.ofList_toList]

theorem trim_idempotent (text : String) : trim (trim text) = trim text := by
  apply trim_fixed
  · intro char member
    unfold trim at member
    rw [String.toList_ofList] at member
    have part : ((text.toList.dropWhile isSpace).reverse.dropWhile isSpace).reverse <+:
        text.toList.dropWhile isSpace := by
      rw [← List.reverse_suffix, List.reverse_reverse]
      exact List.dropWhile_suffix _
    obtain ⟨rest, same⟩ := part
    apply dropWhile_head isSpace text.toList
    rw [← same, List.head?_append]
    exact Option.mem_def.mpr (by rw [Option.mem_def.mp member]; rfl)
  · intro char member
    unfold trim at member
    rw [String.toList_ofList, List.getLast?_reverse] at member
    exact dropWhile_head isSpace _ char member

/-- The text after a prefix it must start with. -/
def afterPrefix (start text : String) : Option String :=
  if start.toList.isPrefixOf text.toList then some (String.ofList (text.toList.drop start.length)) else none

/-- The value of a hexadecimal digit, in either case. -/
def hexValue (char : Char) : Option Nat :=
  if char.isDigit then some (char.toNat - '0'.toNat)
  else if 'a' ≤ char && char ≤ 'f' then some (char.toNat - 'a'.toNat + 10)
  else if 'A' ≤ char && char ≤ 'F' then some (char.toNat - 'A'.toNat + 10)
  else none

end Agroasys.Runtime
