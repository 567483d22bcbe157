import Agroasys.Runtime.Text

/-! The values of `JSON.parse`, and the tests that services make of an unknown value. A
member that is absent reads as `undefined`, here `none`. -/

namespace Agroasys.Runtime

/-- A number is the text that `String` makes of it. -/
inductive Json where
  | null
  | boolean (value : Bool)
  | number (text : String)
  | string (value : String)
  | array (items : List Json)
  | object (members : List (String × Json))

namespace Json

/-- `value.name`, the last of the members with one name. -/
def member (name : String) : Json → Option Json
  | .object members => (members.reverse.find? (·.1 = name)).map Prod.snd
  | _ => none

/-- `value && typeof value === 'object'`. -/
def isObject : Option Json → Bool
  | some (.array _) | some (.object _) => true
  | _ => false

/-- `Array.isArray(value) ? value : []`. -/
def itemsOf : Option Json → List Json
  | some (.array items) => items
  | _ => []

/-- `typeof value === 'string' ? value.trim() : ''`. -/
def trimmed : Option Json → String
  | some (.string value) => trim value
  | _ => ""

theorem trimmed_once (value : Option Json) : trim (trimmed value) = trimmed value := by
  unfold trimmed
  split
  · exact trim_idempotent _
  · rfl

/-- `value === undefined || value === null`. -/
def isAbsent : Option Json → Bool
  | none | some .null => true
  | _ => false

end Json

/-- `length` of a string: its UTF-16 code units. -/
def utf16Length (text : String) : Nat :=
  (text.toList.map fun char => if char.toNat < 0x10000 then 1 else 2).sum

theorem utf16Length_le (text : String) : utf16Length text ≤ 2 * text.toList.length := by
  unfold utf16Length
  induction text.toList with
  | nil => exact Nat.zero_le _
  | cons char rest ih =>
    rw [List.map_cons, List.sum_cons, List.length_cons]
    split <;> omega

end Agroasys.Runtime
