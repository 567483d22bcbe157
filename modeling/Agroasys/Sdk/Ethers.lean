import Agroasys.Escrow.Trades
import Agroasys.Runtime.Text

namespace Agroasys.Sdk

open Agroasys.Runtime Agroasys.Escrow

/-- A number: an integer, NaN, or another (a fraction or an infinity). -/
inductive JsNumber where
  | integer (value : Int)
  | nan
  | other
  deriving DecidableEq

/-- `Number.MAX_SAFE_INTEGER`. -/
def maxSafeInteger : Int := 2 ^ 53 - 1

/-- `getBigInt` of a number. -/
def getBigInt : JsNumber → Option Int
  | .integer value => if -maxSafeInteger ≤ value ∧ value ≤ maxSafeInteger then some value else none
  | .nan | .other => none

/-- A `uint256` of the coder. -/
def uint256 (value : Int) : Option Word :=
  if 0 ≤ value ∧ value < 2 ^ 256 then some (BitVec.ofInt 256 value) else none

/-- The number that hexadecimal digits write. -/
def hexNumber (digits : List Char) : Option Nat :=
  digits.foldlM (fun number digit => (hexValue digit).map (16 * number + ·)) 0

/-- The digits of `/^0x[a-fA-F0-9]{64}$/`, the prefix in either case for `wide`. -/
def hexWord (wide : Bool) (text : List Char) : Option (List Char) :=
  match text with
  | '0' :: mark :: digits =>
    if (mark = 'x' ∨ wide ∧ mark = 'X') ∧ digits.length = 64 ∧ digits.all (fun digit => (hexValue digit).isSome) then
      some digits
    else none
  | _ => none

/-- A `bytes32` of the coder. -/
def bytes32 (text : String) : Option Bytes32 :=
  (hexWord true text.toList).bind fun digits => (hexNumber digits).map (BitVec.ofNat 256)

/-- Forty hexadecimal digits. -/
def isAddressDigits (digits : List Char) : Bool :=
  digits.length = 40 && digits.all fun digit => (hexValue digit).isSome

/-- The digits of `/^0x[0-9a-fA-F]{40}$/`, the prefix in either case for `wide`. -/
def prefixedDigits (wide : Bool) (text : List Char) : Option (List Char) :=
  match text with
  | '0' :: mark :: digits => if (mark = 'x' ∨ wide ∧ mark = 'X') ∧ isAddressDigits digits then some digits else none
  | _ => none

/-- The digits of `/^(0x)?[0-9a-fA-F]{40}$/`. -/
def addressDigits (text : List Char) : Option (List Char) :=
  (prefixedDigits false text).or (if isAddressDigits text then some text else none)

def Address.ofNumber (number : Nat) : Address :=
  ⟨BitVec.ofNat 160 number⟩

/-- What ethers takes from elsewhere: the casing that keccak gives to forty digits, the
address in an ICAP text, and the names of ENS. -/
structure Ethers where
  checksum : List Char → List Char
  icap : String → Option Address
  resolveName : String → Option Address

namespace Ethers

variable (ethers : Ethers)

/-- Letters of both cases are taken for a checksum. -/
def misspelled (digits : List Char) : Bool :=
  digits.any Char.isUpper && digits.any Char.isLower && ethers.checksum digits ≠ digits

def getAddress (text : String) : Option Address :=
  match addressDigits text.toList with
  | some digits => if ethers.misspelled digits then none else (hexNumber digits).map Address.ofNumber
  | none => ethers.icap text

def isAddress (text : String) : Bool :=
  (ethers.getAddress text).isSome

/-- `resolveAddress`, by which a contract call reads its addresses: a name that resolves
to the zero address counts as unconfigured. -/
def resolveAddress (text : String) : Option Address :=
  match prefixedDigits true text.toList with
  | some _ => ethers.getAddress text
  | none => (ethers.resolveName text).filter (· ≠ .zero)

/-- No name of ENS is spelled like an address. -/
def Unspelled : Prop :=
  ∀ text, prefixedDigits true text.toList = none → ethers.isAddress text → ethers.resolveName text = none

end Ethers

/-- `ethers.ZeroAddress`. -/
def zeroAddress : String :=
  "0x0000000000000000000000000000000000000000"

end Agroasys.Sdk
