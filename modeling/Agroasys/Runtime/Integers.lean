import Agroasys.Runtime.Text

namespace Agroasys.Runtime

/-- The nearest double of a natural number, ties to even. -/
def roundToDouble (number : Nat) : Nat :=
  if number < 2 ^ 53 then number
  else
    let step := 2 ^ (number.log2 - 52)
    let steps := number / step
    let rest := number % step
    if 2 * rest < step ∨ 2 * rest = step ∧ steps % 2 = 0 then steps * step else (steps + 1) * step

/-- The double nearest to an integer. -/
def nearestDouble (value : Int) : Int :=
  value.sign * roundToDouble value.natAbs

/-- The nearest number with zeros for its last digits. -/
def roundedTo (zeros number : Nat) : Nat :=
  (number + 10 ^ zeros / 2) / 10 ^ zeros * 10 ^ zeros

/-- The fewest digits that still denote the double, zeros after them. -/
def shortestFrom : Nat → Nat → Nat
  | 0, number => number
  | zeros + 1, number =>
    if roundToDouble (roundedTo (zeros + 1) number) = number then roundedTo (zeros + 1) number
    else shortestFrom zeros number

/-- `Number::toString` of an integral double below `10 ^ 21`. -/
def writeNumber (value : Int) : String :=
  if value < 0 then "-" ++ toString (shortestFrom 20 value.natAbs) else toString (shortestFrom 20 value.natAbs)

section Marks

variable {mark : Char}

/-- What is no digit is in no number. -/
theorem mark_toString (none : mark.isDigit = false) (number : Nat) : mark ∉ (toString number).toList := by
  intro member
  have digit : mark.isDigit = true :=
    Nat.isDigit_of_mem_toDigits (b := 10) (by decide) (by decide) (n := number) (by simpa using member)
  rw [none] at digit
  cases digit

theorem mark_toString_int (none : mark.isDigit = false) (minus : mark ≠ '-') (value : Int) :
    mark ∉ (toString value).toList := by
  cases value with
  | ofNat number => exact mark_toString none number
  | negSucc number =>
    change mark ∉ ("-" ++ toString (number + 1)).toList
    rw [String.toList_append, List.mem_append, not_or]
    exact ⟨List.not_mem_cons_of_ne_of_not_mem minus List.not_mem_nil, mark_toString none _⟩

end Marks

theorem roundToDouble_exact (small : number < 2 ^ 53) : roundToDouble number = number :=
  if_pos small

/-- What is no safe integer is rounded to one that is not. -/
theorem le_roundToDouble (large : 2 ^ 53 ≤ number) : 2 ^ 53 ≤ roundToDouble number := by
  have nonzero : number ≠ 0 := by
    rintro rfl
    exact absurd large (by decide)
  have exponent : 53 ≤ number.log2 := (Nat.le_log2 nonzero).mpr large
  have power : 2 ^ number.log2 ≤ number := (Nat.le_log2 nonzero).mp (Nat.le_refl _)
  have split : 2 ^ number.log2 = 2 ^ 52 * 2 ^ (number.log2 - 52) := by
    rw [← Nat.pow_add]
    congr 1
    omega
  have step : 2 ^ 1 ≤ 2 ^ (number.log2 - 52) := Nat.pow_le_pow_right (by decide) (by omega)
  have steps : 2 ^ 52 ≤ number / 2 ^ (number.log2 - 52) :=
    (Nat.le_div_iff_mul_le (by omega)).mpr (by rw [← split]; exact power)
  have least : 2 ^ 53 ≤ number / 2 ^ (number.log2 - 52) * 2 ^ (number.log2 - 52) :=
    Nat.mul_le_mul steps step
  rw [roundToDouble, if_neg (Nat.not_lt.mpr large)]
  dsimp only
  split
  · exact least
  · exact Nat.le_trans least (Nat.mul_le_mul_right _ (Nat.le_succ _))

theorem roundToDouble_small (small : roundToDouble number < 2 ^ 53) : roundToDouble number = number := by
  apply roundToDouble_exact
  by_contra large
  exact Nat.not_lt.mpr (le_roundToDouble (Nat.not_lt.mp large)) small

theorem shortestFrom_exact (zeros : Nat) (small : number < 2 ^ 53) : shortestFrom zeros number = number := by
  induction zeros with
  | zero => rfl
  | succ zeros ih =>
    rw [shortestFrom]
    split
    · rename_i same
      exact (roundToDouble_small (same.trans_lt small)).symm.trans same
    · exact ih

/-- A safe natural number is written with all its digits. -/
theorem writeNumber_safe {number : Nat} (small : number < 2 ^ 53) : writeNumber number = toString number := by
  rw [writeNumber, if_neg (Int.not_lt.mpr (Int.natCast_nonneg number)), Int.natAbs_natCast, shortestFrom_exact 20 small]

end Agroasys.Runtime
