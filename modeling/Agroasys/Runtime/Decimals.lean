import Agroasys.Runtime.Properties
import Agroasys.Runtime.Text

/-! JavaScript's numbers as texts: what `Number::toString` writes, and what a JSON number reads as.
A finite number is the shortest decimal that denotes it, which is what it is written as. -/

namespace Agroasys.Runtime

/-- `0.d₁d₂…dₖ · 10ⁿ`, without zeros at either end of the digits. -/
structure Decimal where
  digits : List Digit
  point : Int
  filled : digits ≠ []
  first : ∀ digit ∈ digits.head?, digit ≠ 0
  last : ∀ digit ∈ digits.getLast?, digit ≠ 0
  deriving DecidableEq

inductive JsNumber where
  | nan
  | infinity (negative : Bool)
  | zero (negative : Bool)
  | finite (negative : Bool) (magnitude : Decimal)
  deriving DecidableEq

namespace JsNumber

def isFinite : JsNumber → Bool
  | .zero _ | .finite _ _ => true
  | _ => false

end JsNumber

section Write

/-- The digits before the point, those after it, and the exponent that is written. -/
structure Layout where
  whole : List Digit
  fraction : List Digit
  exponent : Int

/-- The notation of a number: plain from `1e-6` up to `1e21`, and with an exponent beyond. -/
def Decimal.layout (decimal : Decimal) : Layout :=
  let k := decimal.digits.length
  let n := decimal.point
  if k ≤ n ∧ n ≤ 21 then ⟨decimal.digits ++ List.replicate (n.toNat - k) 0, [], 0⟩
  else if 0 < n ∧ n ≤ 21 then ⟨decimal.digits.take n.toNat, decimal.digits.drop n.toNat, 0⟩
  else if -6 < n ∧ n ≤ 0 then ⟨[0], List.replicate (-n).toNat 0 ++ decimal.digits, 0⟩
  else ⟨decimal.digits.take 1, decimal.digits.drop 1, n - 1⟩

def writeExponent (exponent : Int) : JsString :=
  if exponent = 0 then []
  else unit 'e' :: (if exponent < 0 then unit '-' else unit '+') :: natText exponent.natAbs

def Layout.write (layout : Layout) : JsString :=
  layout.whole.map digitUnit ++
    ((if layout.fraction = [] then [] else unit '.' :: layout.fraction.map digitUnit) ++ writeExponent layout.exponent)

/-- `Number::toString` of a number that is finite. -/
def writeFinite (negative : Bool) (decimal : Decimal) : JsString :=
  (if negative then [unit '-'] else []) ++ decimal.layout.write

end Write

section Read

def spanDigits : JsString → List Digit × JsString
  | [] => ([], [])
  | unit :: rest =>
    match unitDigit unit with
    | some digit => (digit :: (spanDigits rest).1, (spanDigits rest).2)
    | none => ([], unit :: rest)

/-- The digits without the zeros at both ends. -/
def significant (digits : List Digit) : List Digit :=
  ((digits.dropWhile (· = 0)).reverse.dropWhile (· = 0)).reverse

theorem significant_first (digits : List Digit) : ∀ digit ∈ (significant digits).head?, digit ≠ 0 := by
  intro digit member
  have part : significant digits <+: digits.dropWhile (· = 0) := by
    unfold significant
    rw [← List.reverse_suffix, List.reverse_reverse]
    exact List.dropWhile_suffix _
  obtain ⟨rest, same⟩ := part
  apply of_decide_eq_false
  apply dropWhile_head (fun digit : Digit => decide (digit = 0)) digits
  rw [← same, List.head?_append]
  exact Option.mem_def.mpr (by rw [Option.mem_def.mp member]; rfl)

theorem significant_last (digits : List Digit) : ∀ digit ∈ (significant digits).getLast?, digit ≠ 0 := by
  intro digit member
  unfold significant at member
  rw [List.getLast?_reverse] at member
  exact of_decide_eq_false (dropWhile_head _ _ digit member)

/-- The number that `0.d₁d₂… · 10ⁿ` is. -/
def normalise (negative : Bool) (digits : List Digit) (point : Int) : JsNumber :=
  if filled : significant digits = [] then .zero negative
  else .finite negative ⟨significant digits, point - (digits.takeWhile (· = 0)).length, filled, significant_first digits,
    significant_last digits⟩

def readFraction : JsString → Option (List Digit × JsString)
  | [] => some ([], [])
  | mark :: rest =>
    if mark = unit '.' then
      if (spanDigits rest).1 = [] then none else some (spanDigits rest)
    else some ([], mark :: rest)

/-- A sign, or none. -/
def readSign : JsString → Bool × JsString
  | [] => (false, [])
  | mark :: rest => if mark = unit '-' then (true, rest) else if mark = unit '+' then (false, rest) else (false, mark :: rest)

def readExponent : JsString → Option (Int × JsString)
  | [] => some (0, [])
  | mark :: rest =>
    if mark = unit 'e' ∨ mark = unit 'E' then
      let (negative, rest) := readSign rest
      let (digits, rest) := spanDigits rest
      if digits = [] then none else some (if negative then -(natValue digits : Int) else natValue digits, rest)
    else some (0, mark :: rest)

def readMinus : JsString → Bool × JsString
  | [] => (false, [])
  | mark :: rest => if mark = unit '-' then (true, rest) else (false, mark :: rest)

/-- A JSON number, and what follows it. The nearest double has the same shortest decimal as
every number that is written. -/
def readNumber (text : JsString) : Option (JsNumber × JsString) := do
  let (negative, unsigned) := readMinus text
  let (whole, tail) := spanDigits unsigned
  if whole = [] ∨ (whole.head? = some 0 ∧ whole.length ≠ 1) then none
  else do
    let (fraction, tail) ← readFraction tail
    let (exponent, rest) ← readExponent tail
    some (normalise negative (whole ++ fraction) (whole.length + exponent), rest)

end Read

section RoundTrip

/-- A text does not go on with a number. -/
def Stops (rest : JsString) : Prop :=
  ∀ next ∈ rest.head?, unitDigit next = none ∧ next ≠ unit '.' ∧ next ≠ unit 'e' ∧ next ≠ unit 'E'

theorem spanDigits_map (digits : List Digit) {rest : JsString} (stops : ∀ next ∈ rest.head?, unitDigit next = none) :
    spanDigits (digits.map digitUnit ++ rest) = (digits, rest) := by
  induction digits with
  | nil =>
    cases rest with
    | nil => rfl
    | cons next rest => simp [spanDigits, stops next rfl]
  | cons digit digits ih => simp [spanDigits, ih]

private theorem readExponent_write (exponent : Int) {rest : JsString} (stops : Stops rest) :
    readExponent (writeExponent exponent ++ rest) = some (exponent, rest) := by
  unfold writeExponent
  split
  · rename_i zero
    subst zero
    cases rest with
    | nil => rfl
    | cons next rest =>
      obtain ⟨_, _, lower, upper⟩ := stops next rfl
      simp [readExponent, lower, upper]
  · rename_i different
    have digits := spanDigits_map (natDigits exponent.natAbs) fun next member => (stops next member).1
    have filled := natDigits_filled exponent.natAbs
    have value := natDigits_value exponent.natAbs
    unfold natText
    by_cases negative : exponent < 0
    · simp only [if_pos negative, List.cons_append, readExponent, readSign, true_or, if_true]
      rw [digits]
      simp only [if_neg filled, value]
      congr 2
      omega
    · have plus : unit '+' ≠ unit '-' := by decide
      simp only [if_neg negative, List.cons_append, readExponent, readSign, true_or, if_true, if_neg plus]
      rw [digits]
      simp only [if_neg filled, value, Bool.false_eq_true, if_false]
      congr 2
      omega

/-- No digit and no point stands before what follows the fraction. -/
theorem writeExponent_head (exponent : Int) {rest : JsString} (stops : Stops rest) :
    ∀ next ∈ (writeExponent exponent ++ rest).head?, unitDigit next = none ∧ next ≠ unit '.' := by
  unfold writeExponent
  split
  · exact fun next member => ⟨(stops next member).1, (stops next member).2.1⟩
  · intro next member
    cases member
    exact ⟨by decide, by decide⟩

private theorem readFraction_write (fraction : List Digit) (exponent : Int) {rest : JsString} (stops : Stops rest) :
    readFraction ((if fraction = [] then [] else unit '.' :: fraction.map digitUnit) ++
      (writeExponent exponent ++ rest)) = some (fraction, writeExponent exponent ++ rest) := by
  have head := writeExponent_head exponent stops
  by_cases empty : fraction = []
  · rw [if_pos empty, List.nil_append, empty]
    cases tail : writeExponent exponent ++ rest with
    | nil => rfl
    | cons next tail =>
      rw [tail] at head
      rw [readFraction, if_neg (head next rfl).2]
  · have digits := spanDigits_map fraction fun next member => (head next member).1
    rw [if_neg empty, List.cons_append, readFraction, if_pos rfl, digits, if_neg empty]

/-- The digits before the point are a number that starts with no zero but zero itself. -/
def Layout.Valid (layout : Layout) : Prop :=
  layout.whole ≠ [] ∧ ¬ (layout.whole.head? = some 0 ∧ layout.whole.length ≠ 1)

theorem readNumber_write (negative : Bool) {layout : Layout} (valid : layout.Valid) {rest : JsString}
    (stops : Stops rest) : readNumber ((if negative then [unit '-'] else []) ++ (layout.write ++ rest)) =
      some (normalise negative (layout.whole ++ layout.fraction) (layout.whole.length + layout.exponent), rest) := by
  obtain ⟨whole, fraction, exponent⟩ := layout
  obtain ⟨filled, plain⟩ := valid
  dsimp only at filled plain
  have tail : ∀ next ∈ ((if fraction = [] then [] else unit '.' :: fraction.map digitUnit) ++
      (writeExponent exponent ++ rest)).head?, unitDigit next = none := by
    split
    · exact fun next member => (writeExponent_head exponent stops next member).1
    · intro next member
      cases member
      decide
  have digits := spanDigits_map whole tail
  have invalid : ¬ (whole = [] ∨ (whole.head? = some 0 ∧ whole.length ≠ 1)) := not_or.mpr ⟨filled, plain⟩
  have signed : readMinus ((if negative then [unit '-'] else []) ++ (Layout.write ⟨whole, fraction, exponent⟩ ++ rest)) =
      (negative, Layout.write ⟨whole, fraction, exponent⟩ ++ rest) := by
    cases negative with
    | true => simp [readMinus]
    | false =>
      obtain ⟨digit, more, same⟩ := List.exists_cons_of_ne_nil filled
      have different : digitUnit digit ≠ unit '-' := by
        intro equal
        have value := congrArg Fin.val equal
        have minus : (unit '-').val = 45 := rfl
        rw [minus] at value
        unfold digitUnit at value
        dsimp only at value
        omega
      simp [readMinus, Layout.write, same, different]
  unfold readNumber
  simp only [signed]
  rw [Layout.write, List.append_assoc, List.append_assoc, digits]
  simp only [if_neg invalid, readFraction_write fraction exponent stops, readExponent_write exponent stops,
    Option.bind_eq_bind, Option.bind_some]

theorem takeWhile_fixed {keep : α → Bool} {values : List α} (first : ∀ value ∈ values.head?, keep value = false) :
    values.takeWhile keep = [] := by
  cases values with
  | nil => rfl
  | cons value rest => exact List.takeWhile_cons_of_neg (by simp [first value rfl])

/-- Zeros at both ends do not count. -/
theorem normalise_padded (negative : Bool) (decimal : Decimal) (leading trailing : Nat) :
    normalise negative (List.replicate leading 0 ++ (decimal.digits ++ List.replicate trailing 0))
      (leading + decimal.point) = .finite negative decimal := by
  have zeros : ∀ count, ∀ digit ∈ List.replicate count (0 : Digit), decide (digit = 0) = true := by
    intro count digit member
    rw [List.eq_of_mem_replicate member]
    rfl
  have head : ∀ digit ∈ (decimal.digits ++ List.replicate trailing 0).head?, decide (digit = 0) = false := by
    intro digit member
    rw [List.head?_append_of_ne_nil _ decimal.filled] at member
    exact decide_eq_false (decimal.first digit member)
  have last : ∀ digit ∈ decimal.digits.reverse.head?, decide (digit = 0) = false := by
    intro digit member
    rw [List.head?_reverse] at member
    exact decide_eq_false (decimal.last digit member)
  have kept : significant (List.replicate leading 0 ++ (decimal.digits ++ List.replicate trailing 0)) = decimal.digits := by
    unfold significant
    rw [List.dropWhile_append_of_pos (zeros leading), dropWhile_fixed head, List.reverse_append, List.reverse_replicate,
      List.dropWhile_append_of_pos (zeros trailing), dropWhile_fixed last, List.reverse_reverse]
  have counted : (List.replicate leading 0 ++ (decimal.digits ++ List.replicate trailing 0)).takeWhile
      (fun digit : Digit => decide (digit = 0)) = List.replicate leading 0 := by
    rw [List.takeWhile_append_of_pos (zeros leading), takeWhile_fixed head, List.append_nil]
  obtain ⟨digits, point, filled, first, final⟩ := decimal
  unfold normalise
  simp only [kept, counted, List.length_replicate]
  rw [dif_neg filled]
  congr 2
  omega

theorem layout_valid (decimal : Decimal) : decimal.layout.Valid := by
  have count : 0 < decimal.digits.length := List.length_pos_iff.mpr decimal.filled
  have nonzero : decimal.digits.head? ≠ some 0 := fun zero => decimal.first 0 zero rfl
  obtain ⟨digit, rest, same⟩ := List.exists_cons_of_ne_nil decimal.filled
  unfold Decimal.layout Layout.Valid
  dsimp only
  split
  · refine ⟨by simp [decimal.filled], ?_⟩
    rw [List.head?_append_of_ne_nil _ decimal.filled]
    exact fun zero => nonzero zero.1
  · split
    · rename_i bounds
      obtain ⟨before, more⟩ : ∃ before, decimal.point.toNat = before + 1 := ⟨decimal.point.toNat - 1, by omega⟩
      rw [more, same]
      rw [same] at nonzero
      exact ⟨by simp, fun zero => nonzero zero.1⟩
    · split
      · exact ⟨by simp, by simp⟩
      · rw [same]
        rw [same] at nonzero
        exact ⟨by simp, fun zero => nonzero zero.1⟩

/-- The layout of a decimal denotes it. -/
theorem normalise_layout (negative : Bool) (decimal : Decimal) :
    normalise negative (decimal.layout.whole ++ decimal.layout.fraction)
      (decimal.layout.whole.length + decimal.layout.exponent) = .finite negative decimal := by
  have count : 0 < decimal.digits.length := List.length_pos_iff.mpr decimal.filled
  have plain := normalise_padded negative decimal 0 0
  rw [List.replicate_zero, List.append_nil, List.nil_append] at plain
  unfold Decimal.layout
  dsimp only
  split
  · rename_i bounds
    have padded := normalise_padded negative decimal 0 (decimal.point.toNat - decimal.digits.length)
    rw [List.replicate_zero, List.nil_append] at padded
    rw [← padded, List.append_nil, List.length_append, List.length_replicate]
    dsimp only
    congr 1
    omega
  · split
    · rename_i large bounds
      rw [← plain, List.take_append_drop, List.length_take]
      dsimp only
      congr 1
      omega
    · split
      · rename_i bounds
        have padded := normalise_padded negative decimal ((-decimal.point).toNat + 1) 0
        rw [List.replicate_zero, List.append_nil, List.replicate_succ, List.cons_append] at padded
        rw [← padded, List.singleton_append, List.length_singleton]
        dsimp only
        congr 1
        omega
      · rw [← plain, List.take_append_drop, List.length_take]
        dsimp only
        congr 1
        omega

/-- A number that is written reads as itself. -/
theorem readNumber_finite (negative : Bool) (decimal : Decimal) {rest : JsString} (stops : Stops rest) :
    readNumber (writeFinite negative decimal ++ rest) = some (.finite negative decimal, rest) := by
  unfold writeFinite
  rw [List.append_assoc, readNumber_write negative (layout_valid decimal) stops, normalise_layout]

theorem readNumber_zero {rest : JsString} (stops : Stops rest) :
    readNumber (utf16 "0" ++ rest) = some (.zero false, rest) := by
  have valid : Layout.Valid ⟨[0], [], 0⟩ := ⟨by decide, by decide⟩
  exact readNumber_write false valid stops

end RoundTrip

end Agroasys.Runtime
