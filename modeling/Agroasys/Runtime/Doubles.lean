import Agroasys.Runtime.Integers

/-! Numbers that need not be integers: bounds, sums, and what a BIGINT column takes of them. -/

namespace Agroasys.Runtime

inductive Double where
  | nan
  | infinity (negative : Bool)
  | finite (value : ℚ)
  deriving DecidableEq

section Rounding

variable {exact : ℚ}

/-- The nearest integer, ties to even. -/
def roundEven (exact : ℚ) : ℤ :=
  let below := ⌊exact⌋
  if exact - below < 1 / 2 ∨ exact - below = 1 / 2 ∧ below % 2 = 0 then below else below + 1

/-- The double nearest to a number that is one at least, if it is not too large to be near any. -/
def nearestAbove (exact : ℚ) : ℚ :=
  let scale : ℚ := 2 ^ 52 / 2 ^ ⌊exact⌋.toNat.log2
  roundEven (exact * scale) / scale

private theorem roundEven_le {bound : ℤ} (le : exact ≤ bound) : roundEven exact ≤ bound := by
  have floor : ⌊exact⌋ ≤ bound := Int.cast_le.mp ((Int.floor_le exact).trans le)
  unfold roundEven
  dsimp only
  split
  · exact floor
  · rename_i high
    refine lt_of_le_of_ne floor ?_
    intro same
    refine high (.inl ?_)
    rw [same]
    linarith only [le]

/-- Rounding does not go beyond a safe integer. -/
theorem nearestAbove_le {bound : Nat} (le : exact ≤ bound) (safe : bound < 2 ^ 53) :
    nearestAbove exact ≤ bound := by
  have floor : ⌊exact⌋.toNat ≤ bound := by
    rw [Int.toNat_le]
    exact_mod_cast (Int.floor_le exact).trans le
  have exponent : ⌊exact⌋.toNat.log2 ≤ 52 := by
    by_cases zero : ⌊exact⌋.toNat = 0
    · simp [zero]
    · exact Nat.lt_succ_iff.mp ((Nat.log2_lt zero).mpr (floor.trans_lt safe))
  -- Up to there doubles are multiples of a part of one.
  have scale : (2 ^ 52 / 2 ^ ⌊exact⌋.toNat.log2 : ℚ) = ((2 ^ (52 - ⌊exact⌋.toNat.log2) : ℕ) : ℚ) := by
    rw [Nat.cast_pow, Nat.cast_ofNat, pow_sub₀ 2 two_ne_zero exponent, div_eq_mul_inv]
  unfold nearestAbove
  dsimp only
  rw [scale, div_le_iff₀ (by positivity)]
  have multiple : roundEven (exact * ((2 ^ (52 - ⌊exact⌋.toNat.log2) : ℕ) : ℚ)) ≤
      ((bound * 2 ^ (52 - ⌊exact⌋.toNat.log2) : ℕ) : ℤ) := by
    apply roundEven_le
    rw [Int.cast_natCast, Nat.cast_mul]
    exact mul_le_mul_of_nonneg_right le (Nat.cast_nonneg _)
  exact_mod_cast multiple

end Rounding

namespace Double

/-- `a < b`, of numbers that are none of them NaN. -/
def below : Double → Double → Bool
  | .infinity true, .infinity true => false
  | .infinity true, _ => true
  | _, .infinity true => false
  | .infinity false, _ => false
  | _, .infinity false => true
  | .finite value, .finite other => value < other
  | _, _ => false

/-- `Math.min(a, b)`. -/
def minimum : Double → Double → Double
  | .nan, _ | _, .nan => .nan
  | value, other => if other.below value then other else value

/-- `Math.max(a, b)`. -/
def maximum : Double → Double → Double
  | .nan, _ | _, .nan => .nan
  | value, other => if value.below other then other else value

/-- `a + b` of sums that are one at least. -/
def add : Double → Double → Double
  | .nan, _ | _, .nan => .nan
  | .infinity negative, .infinity other => if negative = other then .infinity negative else .nan
  | .infinity negative, _ | _, .infinity negative => .infinity negative
  | .finite value, .finite other => .finite (nearestAbove (value + other))

/-- What a BIGINT column holds when a number is sent to it as text. -/
def bigint : Double → Except String Int
  | .finite value =>
    if value.den = 1 ∧ value.num.natAbs < 10 ^ 21 then
      let written := value.num.sign * shortestFrom 20 value.num.natAbs
      if -2 ^ 63 ≤ written ∧ written < 2 ^ 63 then .ok written else .error "value is out of range for type bigint"
    else .error "invalid input syntax for type bigint"
  | _ => .error "invalid input syntax for type bigint"

section Bounds

/-- A number between one and a cap, or none. -/
def Bounded (cap : ℚ) (ttl : Double) : Prop :=
  ttl = .nan ∨ ∃ value, ttl = .finite value ∧ 1 ≤ value ∧ value ≤ cap

theorem bounded_maximum {cap : ℚ} (positive : 1 ≤ cap) (number : Double) :
    Bounded cap (maximum (.finite 1) (minimum number (.finite cap))) := by
  cases number with
  | nan => exact .inl rfl
  | infinity negative =>
    right
    cases negative with
    | true => exact ⟨1, rfl, le_refl 1, positive⟩
    | false =>
      by_cases one : 1 < cap
      · exact ⟨cap, by simp [maximum, minimum, below, one], positive, le_refl cap⟩
      · exact ⟨1, by simp [maximum, minimum, below, one], le_refl 1, positive⟩
  | finite value =>
    right
    refine ⟨max 1 (min value cap), ?_, le_max_left _ _, max_le positive (min_le_right _ _)⟩
    by_cases less : cap < value
    · by_cases one : 1 < cap
      · simp [maximum, minimum, below, less, one, min_eq_right less.le, max_eq_right one.le]
      · simp [maximum, minimum, below, less, one, min_eq_right less.le, max_eq_left (not_lt.mp one)]
    · by_cases one : 1 < value
      · simp [maximum, minimum, below, less, one, min_eq_left (not_lt.mp less), max_eq_right one.le]
      · simp [maximum, minimum, below, less, one, min_eq_left (not_lt.mp less), max_eq_left (not_lt.mp one)]

private theorem bigint_finite {value : ℚ} {bound : Nat} (le : value ≤ bound) (safe : bound < 2 ^ 53)
    (written : bigint (.finite value) = .ok expiresAt) : expiresAt ≤ bound := by
  rw [bigint] at written
  by_cases whole : value.den = 1 ∧ value.num.natAbs < 10 ^ 21
  · rw [if_pos whole] at written
    dsimp only at written
    by_cases held : -2 ^ 63 ≤ value.num.sign * (shortestFrom 20 value.num.natAbs : Int) ∧
        value.num.sign * (shortestFrom 20 value.num.natAbs : Int) < 2 ^ 63
    · rw [if_pos held, Except.ok.injEq] at written
      rw [← written]
      rcases lt_or_ge 0 value.num with positive | negative
      · have same : (value.num : ℚ) = value := Rat.coe_int_num_of_den_eq_one whole.1
        have below : value.num ≤ bound := by
          rw [← same] at le
          exact_mod_cast le
        rw [shortestFrom_exact 20 (by omega), Int.sign_eq_one_of_pos positive]
        omega
      · have sign : value.num.sign ≤ 0 := Int.sign_nonpos_iff.mpr negative
        have product := Int.mul_nonpos_of_nonpos_of_nonneg sign
          (Int.natCast_nonneg (shortestFrom 20 value.num.natAbs))
        omega
    · rw [if_neg held] at written
      cases written
  · rw [if_neg whole] at written
    cases written

/-- A column holds a safe sum as it is. -/
theorem bigint_le {second bound : Nat} (bounded : Bounded cap ttl) (within : second + cap ≤ bound)
    (safe : bound < 2 ^ 53) (written : bigint (add (.finite second) ttl) = .ok expiresAt) : expiresAt ≤ bound := by
  rcases bounded with rfl | ⟨value, rfl, positive, capped⟩
  · cases written
  · have rounded : nearestAbove (second + value) ≤ bound :=
      nearestAbove_le ((add_le_add_right capped _).trans within) safe
    exact bigint_finite rounded safe written

end Bounds

end Double

end Agroasys.Runtime
