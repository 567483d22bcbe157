import Agroasys.Runtime.Number

namespace Agroasys.Runtime

section Calendar

/-- `DayFromYear`: the first day of a year, counted from the first of 1970. -/
def dayFromYear (year : Int) : Int :=
  365 * (year - 1970) + (year - 1969) / 4 - (year - 1901) / 100 + (year - 1601) / 400

def isLeapYear (year : Int) : Bool :=
  year % 4 = 0 && (year % 100 ≠ 0 || year % 400 = 0)

def daysInYear (leap : Bool) : Nat := if leap then 366 else 365

theorem dayFromYear_next (year : Int) : dayFromYear (year + 1) = dayFromYear year + daysInYear (isLeapYear year) := by
  unfold dayFromYear daysInYear isLeapYear
  by_cases fourth : year % 4 = 0
  · by_cases century : year % 100 = 0
    · by_cases leap : year % 400 = 0
      · simp [fourth, century, leap]
        omega
      · simp [fourth, century, leap]
        omega
    · simp [fourth, century]
      omega
  · simp [fourth]
    omega

theorem dayFromYear_mono {year later : Int} (ordered : year ≤ later) : dayFromYear year ≤ dayFromYear later := by
  unfold dayFromYear
  omega

/-- `YearFromTime`, of a day: a guess by the mean year, which is one off at most. -/
def yearOfDay (day : Int) : Int :=
  let near := 1970 + day * 400 / 146097
  if day < dayFromYear near then near - 1 else if dayFromYear (near + 1) ≤ day then near + 1 else near

theorem yearOfDay_bounds (day : Int) : dayFromYear (yearOfDay day) ≤ day ∧ day < dayFromYear (yearOfDay day + 1) := by
  unfold yearOfDay
  dsimp only
  split
  · rename_i early
    refine ⟨?_, by rw [Int.sub_add_cancel]; exact early⟩
    unfold dayFromYear
    omega
  · rename_i early
    split
    · rename_i late
      refine ⟨late, ?_⟩
      unfold dayFromYear
      omega
    · rename_i late
      exact ⟨Int.not_lt.mp early, Int.not_le.mp late⟩

/-- The days of a year before its month, the months from 0 to 12. -/
def daysBefore (leap : Bool) (month : Nat) : Nat :=
  [0, 31, 59, 90, 120, 151, 181, 212, 243, 273, 304, 334].getD month 365 + if leap && 2 ≤ month then 1 else 0

/-- `MonthFromTime`, of a day of the year. -/
def monthOf (leap : Bool) (day : Nat) : Nat :=
  Nat.findGreatest (fun month => daysBefore leap month ≤ day) 11

theorem monthOf_le (leap : Bool) (day : Nat) : monthOf leap day ≤ 11 :=
  Nat.findGreatest_le 11

theorem daysBefore_monthOf (leap : Bool) (day : Nat) : daysBefore leap (monthOf leap day) ≤ day := by
  have first : daysBefore leap 0 ≤ day := by simp [daysBefore]
  exact Nat.findGreatest_spec (P := fun month => daysBefore leap month ≤ day) (Nat.zero_le 11) first

private theorem lt_daysBefore (within : day < daysInYear leap) : day < daysBefore leap (monthOf leap day + 1) := by
  by_cases last : monthOf leap day = 11
  · rw [last]
    cases leap <;> exact within
  · have room : monthOf leap day + 1 ≤ 11 := by
      have bound := monthOf_le leap day
      omega
    have beyond := Nat.findGreatest_is_greatest (P := fun month => daysBefore leap month ≤ day) (n := 11)
      (Nat.lt_succ_self _) room
    exact Nat.not_le.mp beyond

theorem daysBefore_mono (leap : Bool) {month later : Nat} (ordered : month ≤ later) (bound : later ≤ 12) :
    daysBefore leap month ≤ daysBefore leap later := by
  interval_cases later <;> interval_cases month <;> cases leap <;> decide

theorem month_length (leap : Bool) (bound : month < 12) : daysBefore leap (month + 1) ≤ daysBefore leap month + 31 := by
  interval_cases month <;> cases leap <;> decide

end Calendar

/-- A date and a time of day, the month and the day counted from 1. -/
structure DateTime where
  year : Int
  month : Nat
  day : Nat
  hour : Nat
  minute : Nat
  second : Nat
  millisecond : Nat
  deriving DecidableEq, Repr

namespace DateTime

/-- The days up to the date. -/
def date (moment : DateTime) : Int :=
  dayFromYear moment.year + daysBefore (isLeapYear moment.year) (moment.month - 1) + moment.day - 1

/-- The milliseconds since midnight. -/
def clock (moment : DateTime) : Nat :=
  moment.hour * 3600000 + moment.minute * 60000 + moment.second * 1000 + moment.millisecond

/-- `MakeDate`: the milliseconds up to a moment in UTC. -/
def time (moment : DateTime) : Int := moment.date * 86400000 + moment.clock

/-- A date that the calendar has, and a time of day. -/
structure Valid (moment : DateTime) : Prop where
  january : 1 ≤ moment.month
  december : moment.month ≤ 12
  first : 1 ≤ moment.day
  last : daysBefore (isLeapYear moment.year) (moment.month - 1) + moment.day ≤
    daysBefore (isLeapYear moment.year) moment.month
  hour : moment.hour < 24
  minute : moment.minute < 60
  second : moment.second < 60
  millisecond : moment.millisecond < 1000

def ofTime (time : Int) : DateTime :=
  let day := time / 86400000
  let clock := (time % 86400000).toNat
  let year := yearOfDay day
  let within := (day - dayFromYear year).toNat
  let month := monthOf (isLeapYear year) within
  ⟨year, month + 1, within - daysBefore (isLeapYear year) month + 1, clock / 3600000, clock / 60000 % 60,
    clock / 1000 % 60, clock % 1000⟩

theorem ofTime_valid (time : Int) : (ofTime time).Valid := by
  have bounds := yearOfDay_bounds (time / 86400000)
  rw [dayFromYear_next] at bounds
  have within : (time / 86400000 - dayFromYear (yearOfDay (time / 86400000))).toNat <
      daysInYear (isLeapYear (yearOfDay (time / 86400000))) := by omega
  have before := lt_daysBefore within
  have after := daysBefore_monthOf (isLeapYear (yearOfDay (time / 86400000)))
    (time / 86400000 - dayFromYear (yearOfDay (time / 86400000))).toNat
  have month := monthOf_le (isLeapYear (yearOfDay (time / 86400000)))
    (time / 86400000 - dayFromYear (yearOfDay (time / 86400000))).toNat
  constructor <;> dsimp only [ofTime] <;> try omega
  rw [Nat.add_sub_cancel]
  omega

theorem time_ofTime (time : Int) : (ofTime time).time = time := by
  have bounds := yearOfDay_bounds (time / 86400000)
  have after := daysBefore_monthOf (isLeapYear (yearOfDay (time / 86400000)))
    (time / 86400000 - dayFromYear (yearOfDay (time / 86400000))).toNat
  have date : (ofTime time).date = time / 86400000 := by
    dsimp only [DateTime.date, ofTime]
    rw [Nat.add_sub_cancel]
    omega
  have clock : ((ofTime time).clock : Int) = time % 86400000 := by
    dsimp only [DateTime.clock, ofTime]
    omega
  unfold DateTime.time
  rw [date, clock]
  omega

end DateTime

section Order

namespace DateTime

/-- One moment is before another by the first field in which they differ. -/
def Before (moment other : DateTime) : Prop :=
  moment.year < other.year ∨ moment.year = other.year ∧ (moment.month < other.month ∨ moment.month = other.month ∧
    (moment.day < other.day ∨ moment.day = other.day ∧ (moment.hour < other.hour ∨ moment.hour = other.hour ∧
      (moment.minute < other.minute ∨ moment.minute = other.minute ∧ (moment.second < other.second ∨
        moment.second = other.second ∧ moment.millisecond < other.millisecond)))))

theorem before_trichotomy (moment other : DateTime) : moment.Before other ∨ moment = other ∨ other.Before moment := by
  obtain ⟨year, month, day, hour, minute, second, millisecond⟩ := moment
  obtain ⟨year', month', day', hour', minute', second', millisecond'⟩ := other
  simp only [Before, DateTime.mk.injEq]
  omega

variable {moment other : DateTime}

private theorem clock_lt (valid : moment.Valid) : moment.clock < 86400000 := by
  obtain ⟨_, _, _, _, hour, minute, second, millisecond⟩ := valid
  unfold clock
  omega

private theorem date_bounds (valid : moment.Valid) : dayFromYear moment.year ≤ moment.date ∧
    moment.date < dayFromYear (moment.year + 1) := by
  obtain ⟨january, december, first, last, _, _, _, _⟩ := valid
  have year := daysBefore_mono (isLeapYear moment.year) december (Nat.le_refl 12)
  have whole : daysBefore (isLeapYear moment.year) 12 = daysInYear (isLeapYear moment.year) := by
    cases isLeapYear moment.year <;> rfl
  rw [dayFromYear_next]
  unfold date
  omega

private theorem Before.date_le (before : moment.Before other) (valid : moment.Valid) (valid' : other.Valid) :
    moment.date < other.date ∨ moment.date = other.date ∧ moment.clock < other.clock := by
  rcases before with earlier | ⟨sameYear, earlier | ⟨sameMonth, earlier | ⟨sameDay, earlier⟩⟩⟩
  · have next : dayFromYear (moment.year + 1) ≤ dayFromYear other.year := dayFromYear_mono (by omega)
    exact .inl (Int.lt_of_lt_of_le (date_bounds valid).2 (Int.le_trans next (date_bounds valid').1))
  · have december := valid'.december
    have months : daysBefore (isLeapYear moment.year) moment.month ≤ daysBefore (isLeapYear moment.year) (other.month - 1) :=
      daysBefore_mono _ (by omega) (by omega)
    have last := valid.last
    have first := valid'.first
    left
    unfold date
    rw [← sameYear]
    omega
  · left
    unfold date
    rw [← sameYear, ← sameMonth]
    omega
  · have minute := valid.minute
    have minute' := valid'.minute
    have second := valid.second
    have second' := valid'.second
    have millisecond := valid.millisecond
    have millisecond' := valid'.millisecond
    right
    unfold date clock
    rw [← sameYear, ← sameMonth, ← sameDay]
    refine ⟨rfl, ?_⟩
    omega

private theorem Before.time_lt (before : moment.Before other) (valid : moment.Valid) (valid' : other.Valid) :
    moment.time < other.time := by
  have clock := clock_lt valid
  unfold time
  rcases before.date_le valid valid' with earlier | ⟨same, earlier⟩
  · omega
  · omega

/-- The fields of instants are ordered as the instants are. -/
theorem ofTime_before (first second : Int) : (ofTime first).Before (ofTime second) ↔ first < second := by
  constructor
  · intro before
    have ordered := before.time_lt (ofTime_valid first) (ofTime_valid second)
    rwa [time_ofTime, time_ofTime] at ordered
  · intro ordered
    rcases before_trichotomy (ofTime first) (ofTime second) with before | same | after
    · exact before
    · have times := congrArg time same
      rw [time_ofTime, time_ofTime] at times
      omega
    · have reversed := after.time_lt (ofTime_valid second) (ofTime_valid first)
      rw [time_ofTime, time_ofTime] at reversed
      omega

end DateTime

end Order

section Text

/-- A number in a fixed count of decimal digits. -/
def padded : Nat → Nat → List Char
  | 0, _ => []
  | width + 1, number => padded width (number / 10) ++ [Nat.digitChar (number % 10)]

def yearText (year : Int) : List Char :=
  if 0 ≤ year ∧ year ≤ 9999 then padded 4 year.toNat
  else (if year < 0 then '-' else '+') :: padded 6 year.natAbs

/-- The text of a date and of a time in UTC. -/
def DateTime.isoText (moment : DateTime) : List Char :=
  yearText moment.year ++ '-' :: (padded 2 moment.month ++ '-' :: (padded 2 moment.day ++ 'T' ::
    (padded 2 moment.hour ++ ':' :: (padded 2 moment.minute ++ ':' :: (padded 2 moment.second ++ '.' ::
      (padded 3 moment.millisecond ++ ['Z']))))))

/-- `new Date(time).toISOString()`, of an instant that a date can be. -/
def toISOString (time : Int) : String :=
  String.ofList (DateTime.ofTime time).isoText

theorem padded_length (width number : Nat) : (padded width number).length = width := by
  induction width generalizing number with
  | zero => rfl
  | succ width ih => simp [padded, ih]

theorem padded_digits (width number : Nat) : ∀ char ∈ padded width number, char.isDigit = true := by
  induction width generalizing number with
  | zero => simp [padded]
  | succ width ih =>
    intro char member
    rcases List.mem_append.mp member with before | last
    · exact ih _ char before
    · rw [List.mem_singleton.mp last]
      have small : number % 10 < 10 := Nat.mod_lt _ (by decide)
      interval_cases number % 10 <;> rfl

/-- The value of decimal digits. -/
def decimalValue (digits : List Char) : Nat :=
  digits.foldl (fun value digit => value * 10 + (digit.toNat - 48)) 0

theorem decimalValue_padded (within : number < 10 ^ width) : decimalValue (padded width number) = number := by
  induction width generalizing number with
  | zero =>
    have zero : number = 0 := by simpa using within
    exact zero.symm
  | succ width ih =>
    have digit : (Nat.digitChar (number % 10)).toNat - 48 = number % 10 := by
      have small : number % 10 < 10 := Nat.mod_lt _ (by decide)
      interval_cases number % 10 <;> rfl
    have rest : decimalValue (padded width (number / 10)) = number / 10 :=
      ih (Nat.div_lt_of_lt_mul (by rwa [Nat.pow_succ, Nat.mul_comm] at within))
    rw [padded, decimalValue, List.foldl_append]
    change decimalValue (padded width (number / 10)) * 10 + ((Nat.digitChar (number % 10)).toNat - 48) = number
    rw [rest, digit]
    omega

/-- Texts with starts of one length are ordered by these first. -/
theorem append_lt {first second : List Char} (same : first.length = second.length) (rest rest' : List Char) :
    first ++ rest < second ++ rest' ↔ first < second ∨ first = second ∧ rest < rest' := by
  induction first generalizing second with
  | nil =>
    have empty : second = [] := List.length_eq_zero_iff.mp same.symm
    subst empty
    simp
  | cons char first ih =>
    cases second with
    | nil => cases same
    | cons char' second =>
      have shorter : first.length = second.length := Nat.succ.inj same
      simp only [List.cons_append, List.cons_lt_cons_iff, ih shorter, List.cons.injEq]
      constructor
      · rintro (less | ⟨rfl, less | ⟨rfl, less⟩⟩)
        · exact .inl (.inl less)
        · exact .inl (.inr ⟨rfl, less⟩)
        · exact .inr ⟨⟨rfl, rfl⟩, less⟩
      · rintro ((less | ⟨rfl, less⟩) | ⟨⟨rfl, rfl⟩, less⟩)
        · exact .inl less
        · exact .inr ⟨rfl, .inl less⟩
        · exact .inr ⟨rfl, .inr ⟨rfl, less⟩⟩

theorem padded_inj (within : number < 10 ^ width) (within' : other < 10 ^ width) :
    padded width number = padded width other ↔ number = other := by
  constructor
  · intro same
    rw [← decimalValue_padded within, same, decimalValue_padded within']
  · rintro rfl
    rfl

private theorem digitChar_lt (digit other : Fin 10) :
    Nat.digitChar digit.val < Nat.digitChar other.val ↔ digit.val < other.val := by
  revert digit other
  decide

private theorem padded_lt (within : number < 10 ^ width) (within' : other < 10 ^ width) :
    padded width number < padded width other ↔ number < other := by
  induction width generalizing number other with
  | zero =>
    have zero : number = 0 := by simpa using within
    have zero' : other = 0 := by simpa using within'
    simp [zero, zero', padded]
  | succ width ih =>
    have start : number / 10 < 10 ^ width := Nat.div_lt_of_lt_mul (by rwa [Nat.pow_succ, Nat.mul_comm] at within)
    have start' : other / 10 < 10 ^ width := Nat.div_lt_of_lt_mul (by rwa [Nat.pow_succ, Nat.mul_comm] at within')
    have digit := digitChar_lt ⟨number % 10, Nat.mod_lt _ (by decide)⟩ ⟨other % 10, Nat.mod_lt _ (by decide)⟩
    unfold padded
    rw [append_lt (by rw [padded_length, padded_length]), ih start start', padded_inj start start',
      List.cons_lt_cons_iff]
    simp only [digit, List.not_lt_nil, and_false, or_false]
    omega

private theorem mark_lt (mark : Char) (rest rest' : List Char) : mark :: rest < mark :: rest' ↔ rest < rest' := by
  rw [List.cons_lt_cons_iff]
  simp

private theorem field_lt (within : number < 10 ^ width) (within' : other < 10 ^ width) (rest rest' : List Char) :
    padded width number ++ rest < padded width other ++ rest' ↔ number < other ∨ number = other ∧ rest < rest' := by
  rw [append_lt (by rw [padded_length, padded_length]), padded_lt within within', padded_inj within within']

/-- The year has four digits. -/
def FourDigit (time : Int) : Prop :=
  0 ≤ (DateTime.ofTime time).year ∧ (DateTime.ofTime time).year ≤ 9999

instance : DecidablePred FourDigit := fun time =>
  inferInstanceAs (Decidable (0 ≤ (DateTime.ofTime time).year ∧ (DateTime.ofTime time).year ≤ 9999))

theorem DateTime.Valid.fields {moment : DateTime} (valid : moment.Valid) : moment.month < 10 ^ 2 ∧
    moment.day < 10 ^ 2 ∧ moment.hour < 10 ^ 2 ∧ moment.minute < 10 ^ 2 ∧ moment.second < 10 ^ 2 ∧
    moment.millisecond < 10 ^ 3 := by
  obtain ⟨january, december, first, last, hour, minute, second, millisecond⟩ := valid
  have month : daysBefore (isLeapYear moment.year) (moment.month - 1 + 1) ≤
      daysBefore (isLeapYear moment.year) (moment.month - 1) + 31 := month_length _ (by omega)
  rw [Nat.sub_add_cancel january] at month
  omega

theorem yearText_four (four : FourDigit time) :
    yearText (DateTime.ofTime time).year = padded 4 (DateTime.ofTime time).year.toNat :=
  if_pos four

/-- The years of four digits, from the start of year 0 to the end of 9999. -/
theorem fourDigit_iff (time : Int) : FourDigit time ↔ -62167219200000 ≤ time ∧ time ≤ 253402300799999 := by
  obtain ⟨start, finish⟩ := yearOfDay_bounds (time / 86400000)
  change 0 ≤ yearOfDay (time / 86400000) ∧ yearOfDay (time / 86400000) ≤ 9999 ↔ _
  generalize yearOfDay (time / 86400000) = year at *
  have zero : dayFromYear 0 = -719528 := by decide
  have last : dayFromYear 10000 = 2932897 := by decide
  constructor
  · rintro ⟨low, high⟩
    have first := dayFromYear_mono low
    have second : dayFromYear (year + 1) ≤ dayFromYear 10000 := dayFromYear_mono (by omega)
    omega
  · rintro ⟨low, high⟩
    constructor
    · by_contra negative
      have before : dayFromYear (year + 1) ≤ dayFromYear 0 := dayFromYear_mono (by omega)
      omega
    · by_contra beyond
      have after : dayFromYear 10000 ≤ dayFromYear year := dayFromYear_mono (by omega)
      omega

theorem FourDigit.range (four : FourDigit time) : -maxDate ≤ time ∧ time ≤ maxDate := by
  have bounds := (fourDigit_iff time).mp four
  unfold maxDate
  omega

/-- Texts with years of four digits are ordered as their instants are. -/
theorem toISOString_lt (four : FourDigit time) (four' : FourDigit later) :
    toISOString time < toISOString later ↔ time < later := by
  rw [← DateTime.ofTime_before, String.lt_iff_toList_lt, toISOString, toISOString, String.toList_ofList,
    String.toList_ofList]
  obtain ⟨month, day, hour, minute, second, millisecond⟩ := (DateTime.ofTime_valid time).fields
  obtain ⟨month', day', hour', minute', second', millisecond'⟩ := (DateTime.ofTime_valid later).fields
  have year : (DateTime.ofTime time).year.toNat < 10 ^ 4 := by
    have bound := four.2
    omega
  have year' : (DateTime.ofTime later).year.toNat < 10 ^ 4 := by
    have bound := four'.2
    omega
  rw [DateTime.isoText, DateTime.isoText, yearText_four four, yearText_four four', field_lt year year', mark_lt,
    field_lt month month', mark_lt, field_lt day day', mark_lt, field_lt hour hour', mark_lt, field_lt minute minute',
    mark_lt, field_lt second second', mark_lt, field_lt millisecond millisecond']
  have start := four.1
  have start' := four'.1
  unfold DateTime.Before
  simp only [List.lt_irrefl, and_false, or_false]
  omega

end Text

section Reading

/-- A number of a fixed count of digits, and what follows it. -/
def takeNumber (width : Nat) (text : List Char) : Option (Nat × List Char) :=
  if (text.take width).length = width ∧ (text.take width).all Char.isDigit then
    some (decimalValue (text.take width), text.drop width)
  else none

def takeMark (mark : Char) : List Char → Option (List Char)
  | char :: rest => if char = mark then some rest else none
  | [] => none

/-- A year of four digits, or a signed one of six that is no negative zero. -/
def takeYear : List Char → Option (Int × List Char)
  | '+' :: rest => (takeNumber 6 rest).map fun read => (read.1, read.2)
  | '-' :: rest => ((takeNumber 6 rest).filter fun read => read.1 ≠ 0).map fun read => (-read.1, read.2)
  | text => (takeNumber 4 text).map fun read => (read.1, read.2)

/-- A part of a text that may be left out, after its mark. -/
def takeOptional (mark : Char) (width absent : Nat) (text : List Char) : Option (Nat × List Char) :=
  match takeMark mark text with
  | some rest => takeNumber width rest
  | none => some (absent, text)

/-- A time zone in minutes: none is written, or `Z`, or an offset. -/
def readZone : List Char → Option (Option Int)
  | [] => some none
  | ['Z'] => some (some 0)
  | sign :: rest => do
    let (hours, rest) ← takeNumber 2 rest
    let rest ← takeMark ':' rest
    let (minutes, rest) ← takeNumber 2 rest
    let offset : Int := 60 * hours + minutes
    if rest = [] ∧ hours < 24 ∧ minutes < 60 ∧ (sign = '+' ∨ sign = '-') then
      return some (if sign = '+' then offset else -offset)
    else none

/-- A text of ECMAScript's date-time format, as it is written. `dated` is one without a time. -/
structure IsoReading where
  moment : DateTime
  zone : Option Int
  dated : Bool
  deriving DecidableEq

/-- The fields are those of a date of the calendar and of a time of day; a day may end at 24:00. -/
def DateTime.Legal (moment : DateTime) : Prop :=
  (1 ≤ moment.month ∧ moment.month ≤ 12 ∧ 1 ≤ moment.day ∧
      daysBefore (isLeapYear moment.year) (moment.month - 1) + moment.day ≤
        daysBefore (isLeapYear moment.year) moment.month) ∧
    moment.minute < 60 ∧ moment.second < 60 ∧
    (moment.hour < 24 ∨ moment.hour = 24 ∧ moment.minute = 0 ∧ moment.second = 0 ∧ moment.millisecond = 0)

instance (moment : DateTime) : Decidable moment.Legal :=
  inferInstanceAs (Decidable ((_ ∧ _ ∧ _ ∧ _) ∧ _ ∧ _ ∧ (_ ∨ _ ∧ _ ∧ _ ∧ _)))

/-- What follows the date of a text: nothing, or a time of day and its zone. -/
def readClock (year : Int) (month day : Nat) (text : List Char) : Option IsoReading :=
  match takeMark 'T' text with
  | none => if text = [] then some ⟨⟨year, month, day, 0, 0, 0, 0⟩, none, true⟩ else none
  | some rest => do
    let (hour, rest) ← takeNumber 2 rest
    let rest ← takeMark ':' rest
    let (minute, rest) ← takeNumber 2 rest
    let (second, rest) ← takeOptional ':' 2 0 rest
    let (millisecond, rest) ← takeOptional '.' 3 0 rest
    let zone ← readZone rest
    some ⟨⟨year, month, day, hour, minute, second, millisecond⟩, zone, false⟩

def readIso (text : String) : Option IsoReading := do
  let (year, rest) ← takeYear text.toList
  let (month, rest) ← takeOptional '-' 2 1 rest
  let (day, rest) ← takeOptional '-' 2 1 rest
  (readClock year month day rest).filter fun reading => reading.moment.Legal

/-- What a process knows of time: the instant of a local wall clock, and what the engine makes of
texts of other formats. -/
structure DateEngine where
  utc : Int → Int
  legacy : String → Option Int

/-- The instant that a reading denotes: without a zone a date is in UTC and a time is local. -/
def IsoReading.time (engine : DateEngine) (reading : IsoReading) : Int :=
  match reading.zone with
  | some minutes => reading.moment.time - minutes * 60000
  | none => if reading.dated then reading.moment.time else engine.utc reading.moment.time

/-- `Date.parse`. -/
def dateParse (engine : DateEngine) (text : String) : Option Int :=
  match readIso text with
  | some reading => dateTime (some (reading.time engine))
  | none => engine.legacy text

theorem takeNumber_padded (within : number < 10 ^ width) (rest : List Char) :
    takeNumber width (padded width number ++ rest) = some (number, rest) := by
  have start : (padded width number ++ rest).take width = padded width number :=
    List.take_left' (padded_length width number)
  have tail : (padded width number ++ rest).drop width = rest := List.drop_left' (padded_length width number)
  rw [takeNumber, start, tail, if_pos ⟨padded_length width number, List.all_eq_true.mpr (padded_digits width number)⟩,
    decimalValue_padded within]

theorem takeMark_cons (mark : Char) (rest : List Char) : takeMark mark (mark :: rest) = some rest :=
  if_pos rfl

private theorem takeOptional_padded (within : number < 10 ^ width) (mark : Char) (absent : Nat) (rest : List Char) :
    takeOptional mark width absent (mark :: (padded width number ++ rest)) = some (number, rest) := by
  rw [takeOptional, takeMark_cons]
  exact takeNumber_padded within rest

private theorem takeYear_text (bound : year.natAbs < 10 ^ 6) (rest : List Char) :
    takeYear (yearText year ++ rest) = some (year, rest) := by
  unfold yearText
  split
  · rename_i four
    have small : year.toNat < 10 ^ 4 := by omega
    have plain : takeYear (padded 4 year.toNat ++ rest) =
        (takeNumber 4 (padded 4 year.toNat ++ rest)).map fun read => ((read.1 : Int), read.2) := by
      have digits := padded_digits 4 year.toNat
      have length := padded_length 4 year.toNat
      cases start : padded 4 year.toNat with
      | nil => rw [start] at length; cases length
      | cons char others =>
        have digit := digits char (by rw [start]; exact List.mem_cons_self)
        rw [List.cons_append]
        unfold takeYear
        split
        · rename_i same
          cases same
          exact absurd digit (by decide)
        · rename_i same
          cases same
          exact absurd digit (by decide)
        · rfl
    rw [plain, takeNumber_padded small, Option.map_some]
    simp only [Option.some.injEq, Prod.mk.injEq, and_true]
    omega
  · rename_i far
    by_cases negative : year < 0
    · rw [if_pos negative, List.cons_append, takeYear, takeNumber_padded bound]
      have filled : year.natAbs ≠ 0 := by omega
      simp only [Option.filter_some, filled, ne_eq, not_false_eq_true, decide_true, if_true, Option.map_some,
        Option.some.injEq, Prod.mk.injEq, and_true]
      omega
    · rw [if_neg negative, List.cons_append, takeYear, takeNumber_padded bound]
      simp only [Option.map_some, Option.some.injEq, Prod.mk.injEq, and_true]
      omega

private theorem DateTime.Valid.legal {moment : DateTime} (valid : moment.Valid) : moment.Legal :=
  ⟨⟨valid.january, valid.december, valid.first, valid.last⟩, valid.minute, valid.second, .inl valid.hour⟩

theorem year_bound (range : -maxDate ≤ time ∧ time ≤ maxDate) : (DateTime.ofTime time).year.natAbs < 10 ^ 6 := by
  have bounds := yearOfDay_bounds (time / 86400000)
  unfold maxDate at range
  change (yearOfDay (time / 86400000)).natAbs < 10 ^ 6
  unfold dayFromYear at bounds
  omega

/-- The text of an instant reads as the instant. -/
theorem readIso_toISOString (range : -maxDate ≤ time ∧ time ≤ maxDate) :
    readIso (toISOString time) = some ⟨DateTime.ofTime time, some 0, false⟩ := by
  have valid := DateTime.ofTime_valid time
  obtain ⟨month, day, hour, minute, second, millisecond⟩ := valid.fields
  rw [readIso, toISOString, String.toList_ofList, DateTime.isoText, takeYear_text (year_bound range)]
  simp only [Option.bind_eq_bind, Option.bind_some, takeOptional_padded month, takeOptional_padded day, takeMark_cons,
    readClock, takeNumber_padded hour, takeNumber_padded minute, takeOptional_padded second,
    takeOptional_padded millisecond, readZone]
  exact (Option.filter_some ..).trans (if_pos (decide_eq_true valid.legal))

theorem dateParse_toISOString (engine : DateEngine) (range : -maxDate ≤ time ∧ time ≤ maxDate) :
    dateParse engine (toISOString time) = some time := by
  rw [dateParse, readIso_toISOString range]
  dsimp only [IsoReading.time]
  rw [DateTime.time_ofTime, Int.zero_mul, Int.sub_zero, dateTime, Option.filter_some, if_pos (decide_eq_true range)]

end Reading

end Agroasys.Runtime
