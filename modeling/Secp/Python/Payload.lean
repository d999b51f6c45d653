import Secp.Python.Json

/-!
# Reading untyped payloads

Subscripts, `get`, loops and `int` on values that came out of `json.loads`, each with the built-in
exception it raises on a value of another type.
-/

namespace Secp.Python

/-- What reading a payload raises. -/
inductive PayloadError where
  | attributeError
  | keyError (key : Str)
  | typeError
  | valueError
  deriving DecidableEq

namespace Json

/-- `payload[key]`. -/
def getItem (payload : Json) (key : Str) : Except PayloadError Json :=
  match payload with
  | .obj fields =>
      match Dict.get? fields key with
      | some value => .ok value
      | none => .error (.keyError key)
  | _ => .error .typeError

/-- `payload.get(key, default)`. -/
def getOr (payload : Json) (key : Str) (default : Json) : Except PayloadError Json :=
  match payload with
  | .obj fields => .ok ((Dict.get? fields key).getD default)
  | _ => .error .attributeError

/-- `value or fallback`. -/
def orElse (value fallback : Json) : Json := if value.truthy then value else fallback

/-- What `for item in value` visits. -/
def elements : Json → Except PayloadError (List Json)
  | .arr items => .ok items
  | .obj fields => .ok (fields.map fun field => .str field.1)
  | .str s => .ok (s.map fun c => .str [c])
  | _ => .error .typeError

/-- What `value.items()` visits. -/
def pairs : Json → Except PayloadError (List (Str × Json))
  | .obj fields => .ok fields
  | _ => .error .attributeError

/-- `value == n`. -/
def eqInt (n : Int) : Json → Bool
  | .int m => n = m
  | .bool b => n = if b then 1 else 0
  | _ => false

/-- `int(value)`. -/
def toInt [Unicode] (value : Json) : Except PayloadError Int :=
  match value, value.toInt? with
  | _, some n => .ok n
  | .str _, none => .error .valueError
  | _, none => .error .typeError

/-- `isinstance(value, dict)`. -/
def isObject : Json → Bool
  | .obj _ => true
  | _ => false

/-- A key of a dictionary: lists and objects are not hashable. -/
def hashable : Json → Bool
  | .arr _ => false
  | .obj _ => false
  | _ => true

theorem getItem_eq_ok_iff {payload value : Json} {key : Str} :
    payload.getItem key = .ok value ↔ payload.get? key = some value := by
  cases payload with
  | obj fields =>
      rw [getItem, get?_obj]
      cases Dict.get? fields key <;> simp
  | _ => simp [getItem, get?]

end Json

end Secp.Python
