import Secp.Python.Collections

/-!
# JSON values

The values `json.loads` produces and `json.dumps` accepts, floating point apart, with the two
printers the repository uses. Both sort keys and omit spaces; they differ in whether characters
outside ASCII are escaped. `Json.text` is `str(value)`, the printer behind f-strings and `str()`
coercions of untyped payload fields.
-/

namespace Secp.Python

inductive Json where
  | null
  | bool (b : Bool)
  | int (n : Int)
  | str (s : Str)
  | arr (items : List Json)
  | obj (fields : List (Str × Json))
  deriving Repr

namespace Json

/-! ## Equality -/

mutual

/-- Structural equality, as a decision. -/
def eqb : Json → Json → Bool
  | .null, .null => true
  | .bool a, .bool b => a == b
  | .int a, .int b => a == b
  | .str a, .str b => a == b
  | .arr a, .arr b => eqbItems a b
  | .obj a, .obj b => eqbFields a b
  | _, _ => false

def eqbItems : List Json → List Json → Bool
  | [], [] => true
  | a :: as, b :: bs => eqb a b && eqbItems as bs
  | _, _ => false

def eqbFields : List (Str × Json) → List (Str × Json) → Bool
  | [], [] => true
  | (k, a) :: as, (j, b) :: bs => k == j && eqb a b && eqbFields as bs
  | _, _ => false

end

mutual

theorem eqb_iff : ∀ a b : Json, eqb a b = true ↔ a = b
  | .null, b => by cases b <;> simp [eqb]
  | .bool _, b => by cases b <;> simp [eqb]
  | .int _, b => by cases b <;> simp [eqb]
  | .str _, b => by cases b <;> simp [eqb]
  | .arr items, b => by cases b <;> simp [eqb, eqbItems_iff items]
  | .obj fields, b => by cases b <;> simp [eqb, eqbFields_iff fields]

theorem eqbItems_iff : ∀ as bs : List Json, eqbItems as bs = true ↔ as = bs
  | [], bs => by cases bs <;> simp [eqbItems]
  | a :: as, bs => by
      cases bs with
      | nil => simp [eqbItems]
      | cons b bs => simp [eqbItems, eqb_iff a b, eqbItems_iff as bs]

theorem eqbFields_iff : ∀ as bs : List (Str × Json), eqbFields as bs = true ↔ as = bs
  | [], bs => by cases bs <;> simp [eqbFields]
  | (k, a) :: as, bs => by
      cases bs with
      | nil => simp [eqbFields]
      | cons b bs =>
          obtain ⟨j, b⟩ := b
          simp [eqbFields, eqb_iff a b, eqbFields_iff as bs]

end

instance : DecidableEq Json := fun a b => decidable_of_iff (eqb a b = true) (eqb_iff a b)

/-! ## Access -/

/-- `payload[key]`, `none` where the key is missing or the value is not an object. -/
def get? : Json → Str → Option Json
  | .obj fields, key => Dict.get? fields key
  | _, _ => none

/-- `payload.get(key)`. -/
def field (payload : Json) (key : Str) : Json := (payload.get? key).getD .null

/-- What a loop over `value or ()` visits, of a value that is a list or falsy. -/
def items : Json → List Json
  | .arr items => items
  | _ => []

/-- `value == 1`, which a true boolean satisfies as well. -/
def isOne : Json → Bool
  | .int n => n == 1
  | .bool b => b
  | _ => false

/-- `bool(value)`. -/
def truthy : Json → Bool
  | .null => false
  | .bool b => b
  | .int n => n != 0
  | .str s => !s.isEmpty
  | .arr items => !items.isEmpty
  | .obj fields => !fields.isEmpty

mutual

/-- Every text in a value, keys apart. -/
def strings : Json → List Str
  | .str s => [s]
  | .arr items => stringsItems items
  | .obj fields => stringsFields fields
  | _ => []

def stringsItems : List Json → List Str
  | [] => []
  | item :: rest => strings item ++ stringsItems rest

def stringsFields : List (Str × Json) → List Str
  | [] => []
  | (_, value) :: rest => strings value ++ stringsFields rest

end

mutual

/-- Every key of every object in a value. -/
def keys : Json → List Str
  | .arr items => keysItems items
  | .obj fields => keysFields fields
  | _ => []

def keysItems : List Json → List Str
  | [] => []
  | item :: rest => keys item ++ keysItems rest

def keysFields : List (Str × Json) → List Str
  | [] => []
  | (key, value) :: rest => key :: (keys value ++ keysFields rest)

end

theorem stringsFields_append (a b : List (Str × Json)) :
    stringsFields (a ++ b) = stringsFields a ++ stringsFields b := by
  induction a with
  | nil => rfl
  | cons field rest ih =>
      obtain ⟨key, value⟩ := field
      rw [List.cons_append, stringsFields, stringsFields, ih, List.append_assoc]

/-! ## Printing -/

/-- One character of a JSON string. -/
def escapeChar (ensureAscii : Bool) (c : Char) : Str :=
  if c = '"' then Python.str "\\\""
  else if c = '\\' then Python.str "\\\\"
  else if c = '\n' then Python.str "\\n"
  else if c = '\r' then Python.str "\\r"
  else if c = '\t' then Python.str "\\t"
  else if c.toNat = 12 then Python.str "\\f"
  else if c.toNat = 8 then Python.str "\\b"
  else if c.toNat < 32 then Python.str "\\u" ++ hexPad 4 c.toNat
  else if !ensureAscii || c.toNat < 127 then [c]
  else if c.toNat < 0x10000 then Python.str "\\u" ++ hexPad 4 c.toNat
  else
    let n := c.toNat - 0x10000
    Python.str "\\u" ++ hexPad 4 (0xD800 + n / 1024) ++
      Python.str "\\u" ++ hexPad 4 (0xDC00 + n % 1024)

def quoted (ensureAscii : Bool) (s : Str) : Str :=
  ['"'] ++ s.flatMap (escapeChar ensureAscii) ++ ['"']

mutual

/-- `json.dumps(value, sort_keys=True, separators=(",", ":"), ensure_ascii=ensureAscii)`. -/
def dumps (ensureAscii : Bool) : Json → Str
  | .null => ['n', 'u', 'l', 'l']
  | .bool true => ['t', 'r', 'u', 'e']
  | .bool false => ['f', 'a', 'l', 's', 'e']
  | .int n => intStr n
  | .str s => quoted ensureAscii s
  | .arr items => ['['] ++ join [','] (dumpsItems ensureAscii items) ++ [']']
  | .obj fields =>
      let pairs := sortedBy Prod.fst (dumpsFields ensureAscii fields)
      ['{'] ++ join [','] (pairs.map fun pair => quoted ensureAscii pair.1 ++ [':'] ++ pair.2) ++
        ['}']

def dumpsItems (ensureAscii : Bool) : List Json → List Str
  | [] => []
  | item :: rest => dumps ensureAscii item :: dumpsItems ensureAscii rest

def dumpsFields (ensureAscii : Bool) : List (Str × Json) → List (Str × Str)
  | [] => []
  | (key, value) :: rest => (key, dumps ensureAscii value) :: dumpsFields ensureAscii rest

end

section
variable [Unicode]

mutual

/-- `repr(value)`. -/
def reprText : Json → Str
  | .null => ['N', 'o', 'n', 'e']
  | .bool true => ['T', 'r', 'u', 'e']
  | .bool false => ['F', 'a', 'l', 's', 'e']
  | .int n => intStr n
  | .str s => strRepr s
  | .arr items => ['['] ++ join [',', ' '] (reprItems items) ++ [']']
  | .obj fields => ['{'] ++ join [',', ' '] (reprFields fields) ++ ['}']

def reprItems : List Json → List Str
  | [] => []
  | item :: rest => reprText item :: reprItems rest

def reprFields : List (Str × Json) → List Str
  | [] => []
  | (key, value) :: rest => (strRepr key ++ [':', ' '] ++ reprText value) :: reprFields rest

end

/-- `str(value)`. -/
def text : Json → Str
  | .str s => s
  | value => reprText value

/-- `int(value)`; `none` where the interpreter raises `TypeError` or `ValueError`. -/
def toInt? : Json → Option Int
  | .int n => some n
  | .bool b => some (if b then 1 else 0)
  | .str s => intOf s
  | _ => none

end

@[simp] theorem get?_obj (fields : List (Str × Json)) (key : Str) :
    (Json.obj fields).get? key = Dict.get? fields key := rfl

end Json

end Secp.Python
