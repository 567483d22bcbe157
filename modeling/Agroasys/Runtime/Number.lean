import Agroasys.Runtime.Text

/-! The parts of JavaScript's numbers and dates that the services use. `none` is NaN. -/

namespace Agroasys.Runtime

/-- The number a nonempty list of digits writes in a base. -/
def readDigits (base : Nat) (digits : List Nat) : Option Int :=
  if digits = [] then none else some (digits.foldl (fun value digit => value * base + digit) 0 : Nat)

/-- The longest start of a text made of digits of a base. -/
def leadingDigits (base : Nat) : List Char → List Nat
  | [] => []
  | char :: rest =>
    match hexValue char with
    | some digit => if digit < base then digit :: leadingDigits base rest else []
    | none => []

def readMagnitude (text : List Char) : Option Int :=
  match text with
  | '0' :: 'x' :: rest | '0' :: 'X' :: rest => readDigits 16 (leadingDigits 16 rest)
  | text => readDigits 10 (leadingDigits 10 text)

/-- `parseInt` without a radix, before rounding to a double. -/
def parseInt (text : String) : Option Int :=
  match text.toList.dropWhile isSpace with
  | '-' :: rest => (readMagnitude rest).map (-·)
  | '+' :: rest => readMagnitude rest
  | rest => readMagnitude rest

/-- `Number.parseInt(text, 10)`, before rounding to a double. -/
def parseDecimal (text : String) : Option Int :=
  match text.toList.dropWhile isSpace with
  | '-' :: rest => (readDigits 10 (leadingDigits 10 rest)).map (-·)
  | '+' :: rest => readDigits 10 (leadingDigits 10 rest)
  | rest => readDigits 10 (leadingDigits 10 rest)

def maxDate : Int := 8640000000000000

/-- `new Date(value).getTime()`. Up to the largest date integers are exact doubles. -/
def dateTime (value : Option Int) : Option Int :=
  value.filter fun time => -maxDate ≤ time ∧ time ≤ maxDate

/-- `Buffer.from(text, 'hex')`: pairs of digits up to the first that is none. -/
def decodeHex : List Char → List Nat
  | high :: low :: rest =>
    match hexValue high, hexValue low with
    | some high, some low => (16 * high + low) :: decodeHex rest
    | _, _ => []
  | _ => []

end Agroasys.Runtime
