/-
# JSON values

What Python's `json` module reads. It has numbers that JSON has not, and an object is a mapping.
-/

import Mathlib.Data.Rat.Defs

namespace ImageStream

/-- What `json.loads` reads. An object has each of its keys once. -/
inductive JsonValue
  | null
  | bool (value : Bool)
  | int (value : ℤ)
  | float (value : ℚ)
  | nan
  | infinity (negative : Bool)
  | str (value : String)
  | arr (items : List JsonValue)
  | obj (fields : List (String × JsonValue))

abbrev JsonFields : Type := List (String × JsonValue)

/-- `dict.get`. -/
def JsonFields.get? (fields : JsonFields) (name : String) : Option JsonValue :=
  (fields.find? fun field => field.1 = name).map Prod.snd

/-- `dict.__setitem__`. -/
def JsonFields.set (fields : JsonFields) (name : String) (value : JsonValue) : JsonFields :=
  if fields.any (fun field => field.1 = name) then
    fields.map fun field => if field.1 = name then (name, value) else field
  else
    fields ++ [(name, value)]

/-- `fields.get(name)`, where a missing field reads as `None`. -/
def JsonFields.field (fields : JsonFields) (name : String) : JsonValue :=
  (fields.get? name).getD .null

namespace JsonValue

def truthy : JsonValue → Bool
  | .null => false
  | .bool value => value
  | .int value => value ≠ 0
  | .float value => value ≠ 0
  | .nan => true
  | .infinity _ => true
  | .str value => value ≠ ""
  | .arr items => !items.isEmpty
  | .obj fields => !fields.isEmpty

def text? : JsonValue → Option String
  | str value => some value
  | _ => none

/-- The integer of a value for which `isinstance(value, int)` holds. -/
def int? : JsonValue → Option ℤ
  | int value => some value
  | bool value => some (if value then 1 else 0)
  | _ => none

/-- Whether a value is `None`. -/
def isNull : JsonValue → Bool
  | null => true
  | _ => false

def list? : JsonValue → Option (List JsonValue)
  | arr items => some items
  | _ => none

theorem text?_eq_some_iff {value : JsonValue} {s : String} :
    value.text? = some s ↔ value = .str s := by
  cases value <;> simp [text?]

theorem list?_eq_some_iff {value : JsonValue} {items : List JsonValue} :
    value.list? = some items ↔ value = .arr items := by
  cases value <;> simp [list?]

end JsonValue

end ImageStream
