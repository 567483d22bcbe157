import Agroasys.Foundation.Joined
import Agroasys.Runtime.Integers
import Mathlib.Data.List.DropRight

namespace Agroasys.Runtime

open Function Agroasys.Foundation

section Digits

theorem toString_digits (number : Nat) : ∀ char ∈ (toString number).toList, char.isDigit = true :=
  fun _ member => Nat.isDigit_of_mem_toDigits (b := 10) (by decide) (by decide) (n := number) (by simpa using member)

theorem toString_injective : Injective (toString : Nat → String) := by
  intro first second same
  have digits : Nat.toDigits 10 first = Nat.toDigits 10 second := by
    rw [← Nat.toList_repr, ← Nat.toList_repr]
    exact congrArg String.toList same
  rw [← Nat.ofDigitChars_ten_toDigits (n := first), digits, Nat.ofDigitChars_ten_toDigits]

/-- Digits without the zeros at their end. -/
def unpadded (digits : List Char) : List Char :=
  digits.rdropWhile (· = '0')

private theorem unpadded_append (digits : List Char) :
    unpadded digits ++ List.replicate (digits.length - (unpadded digits).length) '0' = digits := by
  have split : unpadded digits ++ digits.rtakeWhile (· = '0') = digits := List.rdropWhile_append_rtakeWhile
  have lengths := congrArg List.length split
  rw [List.length_append] at lengths
  have zeros : digits.rtakeWhile (· = '0') = List.replicate (digits.length - (unpadded digits).length) '0' := by
    refine List.eq_replicate_iff.mpr ⟨by omega, fun char member => ?_⟩
    simpa using List.mem_rtakeWhile_imp member
  rw [← zeros, split]

/-- The zeros are told from the length. -/
theorem unpadded_injective (same : unpadded digits = unpadded others) (length : digits.length = others.length) :
    digits = others := by
  rw [← unpadded_append digits, ← unpadded_append others, length, same]

/-- A point before the digits after the first. -/
def pointed : List Char → List Char
  | [] => []
  | digits => '.' :: digits

private theorem pointed_injective : Injective pointed := by
  intro digits others same
  cases digits <;> cases others <;> cases same <;> rfl

/-- One digit before the point, and an exponent. -/
def scientific : List Char → List Char
  | [] => []
  | first :: rest => first :: pointed (unpadded rest) ++ 'e' :: '+' :: (toString rest.length).toList

theorem mem_unpadded (member : char ∈ unpadded digits) : char ∈ digits :=
  (List.rdropWhile_prefix ..).subset member

theorem mem_pointed (member : char ∈ pointed digits) : char = '.' ∨ char ∈ digits := by
  cases digits with
  | nil => cases member
  | cons => exact List.mem_cons.mp member

private theorem scientific_injective (digital : ∀ char ∈ digits, char.isDigit = true)
    (digital' : ∀ char ∈ others, char.isDigit = true) (same : scientific digits = scientific others) :
    digits = others := by
  have mantissa {first : Char} {rest : List Char} (digital : ∀ char ∈ first :: rest, char.isDigit = true) :
      'e' ∉ first :: pointed (unpadded rest) := by
    intro member
    rcases List.mem_cons.mp member with rfl | member
    · exact absurd (digital 'e' List.mem_cons_self) (by decide)
    · rcases mem_pointed member with point | member
      · exact absurd point (by decide)
      · exact absurd (digital 'e' (List.mem_cons_of_mem _ (mem_unpadded member))) (by decide)
  cases digits with
  | nil =>
    cases others with
    | nil => rfl
    | cons => cases same
  | cons first rest =>
    cases others with
    | nil => cases same
    | cons first' rest' =>
      obtain ⟨heads, exponents⟩ := cut_first (mantissa digital) (mantissa digital') same
      obtain ⟨rfl, points⟩ := List.cons.inj heads
      have lengths := toString_injective (String.toList_inj.mp (List.cons.inj exponents).2)
      rw [unpadded_injective (pointed_injective points) lengths]

end Digits

section Doubles

/-- `Number::toString` of an integral double. -/
def writeDouble (value : Nat) : String :=
  if value < 10 ^ 21 then toString (shortestFrom 20 value)
  else String.ofList (scientific (toString (shortestFrom value.log2 value)).toList)

/-- The shortest digits of a double denote it. -/
theorem roundToDouble_shortestFrom (double : roundToDouble value = value) (zeros : Nat) :
    roundToDouble (shortestFrom zeros value) = value := by
  induction zeros with
  | zero => exact double
  | succ zeros ih =>
    rw [shortestFrom]
    split
    · assumption
    · exact ih

private theorem scientific_exponent (written : digits ≠ []) : 'e' ∈ scientific digits := by
  cases digits with
  | nil => exact absurd rfl written
  | cons => exact List.mem_append_right _ List.mem_cons_self

theorem toString_ne_nil (number : Nat) : (toString number).toList ≠ [] := by
  intro empty
  exact Nat.toDigits_ne_nil ((Nat.toList_repr ..).symm.trans empty)

theorem writeDouble_injective (double : roundToDouble value = value) (double' : roundToDouble other = other)
    (same : writeDouble value = writeDouble other) : value = other := by
  have plain (number : Nat) : 'e' ∉ (toString number).toList := mark_toString (by decide) number
  have denoted {zeros zeros' : Nat} (same : shortestFrom zeros value = shortestFrom zeros' other) : value = other := by
    rw [← roundToDouble_shortestFrom double zeros, same, roundToDouble_shortestFrom double']
  unfold writeDouble at same
  split at same <;> split at same
  · exact denoted (toString_injective same)
  · have marked := scientific_exponent (toString_ne_nil (shortestFrom other.log2 other))
    rw [← String.toList_ofList (l := scientific _), ← same] at marked
    exact absurd marked (plain _)
  · have marked := scientific_exponent (toString_ne_nil (shortestFrom value.log2 value))
    rw [← String.toList_ofList (l := scientific _), same] at marked
    exact absurd marked (plain _)
  · have lists := congrArg String.toList same
    rw [String.toList_ofList, String.toList_ofList] at lists
    have digits := scientific_injective (toString_digits _) (toString_digits _) lists
    exact denoted (toString_injective (String.toList_inj.mp digits))

/-- A double is written with digits, a point, and the sign of its exponent. -/
theorem mem_writeDouble (member : char ∈ (writeDouble value).toList) :
    char.isDigit = true ∨ char = '.' ∨ char = 'e' ∨ char = '+' := by
  unfold writeDouble at member
  split at member
  · exact .inl (toString_digits _ char member)
  · rw [String.toList_ofList] at member
    have digits := toString_digits (shortestFrom value.log2 value)
    generalize (toString (shortestFrom value.log2 value)).toList = text at member digits
    cases text with
    | nil => cases member
    | cons first rest =>
      rcases List.mem_append.mp member with mantissa | exponent
      · rcases List.mem_cons.mp mantissa with rfl | mantissa
        · exact .inl (digits _ List.mem_cons_self)
        · rcases mem_pointed mantissa with point | digit
          · exact .inr (.inl point)
          · exact .inl (digits char (List.mem_cons_of_mem _ (mem_unpadded digit)))
      · rcases List.mem_cons.mp exponent with mark | exponent
        · exact .inr (.inr (.inl mark))
        · rcases List.mem_cons.mp exponent with sign | digit
          · exact .inr (.inr (.inr sign))
          · exact .inl (toString_digits _ char digit)

end Doubles

end Agroasys.Runtime
