import Pagewright.Fault
import Pagewright.Table

/-!
Values of decoded documents: what JSON, YAML and TOML files hold and what settings of document nodes
are made of. Objects keep the order of their keys. Whole numbers and fractions are different values.
-/

namespace Pagewright

/-- A decoded document value. -/
inductive Value where
  | null
  | bool (b : Bool)
  | int (n : Int)
  | float (x : Float)
  | str (s : String)
  | list (items : List Value)
  | object (fields : List (String × Value))

instance : Inhabited Value := ⟨.null⟩

namespace Value

/-- The name of a value's kind in messages. -/
def kindName : Value → String
  | .null => "NoneType"
  | .bool _ => "bool"
  | .int _ => "int"
  | .float _ => "float"
  | .str _ => "str"
  | .list _ => "list"
  | .object _ => "dict"

/-- Whether a value counts as present: null, false, zero and empty values do not. -/
def isTruthy : Value → Bool
  | .null => false
  | .bool b => b
  | .int n => n != 0
  | .float x => !(x == 0.0)
  | .str s => !s.isEmpty
  | .list items => !items.isEmpty
  | .object fields => !fields.isEmpty

/-- A value, or another one in place of an absent one. -/
def orElse (v other : Value) : Value := if v.isTruthy then v else other

def isNull : Value → Bool
  | .null => true
  | _ => false

def isObject : Value → Bool
  | .object _ => true
  | _ => false

def isList : Value → Bool
  | .list _ => true
  | _ => false

/-- The text of a text value. -/
def str? : Value → Option String
  | .str s => some s
  | _ => none

/-- The fields of an object value. -/
def fields? : Value → Option (Table Value)
  | .object fields => some fields
  | _ => none

/-- A list of texts. -/
def texts (items : List String) : Value := .list (items.map .str)

/-- A whole number from a count. -/
def count (n : Nat) : Value := .int n

/-- A text, or null where there is none. -/
def ofText? : Option String → Value
  | some s => .str s
  | none => .null

/-- Whether a value equals a given text. -/
def isText (v : Value) (text : String) : Bool :=
  match v with
  | .str s => s == text
  | _ => false

/-- Whether a value equals zero: false, 0, 0.0 and -0.0 do. -/
def isZero : Value → Bool
  | .bool b => !b
  | .int n => n == 0
  | .float x => x == 0.0
  | _ => false

/-- Whether a value can be a key; lists and objects cannot. -/
def isHashable : Value → Bool
  | .list _ => false
  | .object _ => false
  | _ => true

/-- The refusal of a value that cannot be a key. -/
def unhashable (v : Value) : Fault := .wrongType s!"unhashable type: '{v.kindName}'"

/-- The refusal of an operation that a kind of value lacks. -/
def lacks (v : Value) (operation : String) : Fault :=
  .noAttribute s!"'{v.kindName}' object has no attribute '{operation}'"

/-- The items of a value that is run through: the members of a list, the characters of a text, the
keys of an object. -/
def items (v : Value) : Except Fault (List Value) :=
  match v with
  | .list items => .ok items
  | .str s => .ok (s.toList.map fun c => .str (String.singleton c))
  | .object fields => .ok (fields.map fun entry => .str entry.1)
  | v => .error (.wrongType s!"'{v.kindName}' object is not iterable")

/-- The fields of a value of which fields are asked by the named operation. -/
def fieldsFor (operation : String) (v : Value) : Except Fault (Table Value) :=
  match v with
  | .object fields => .ok fields
  | v => .error (v.lacks operation)

/-- The value under a key, if there is one; the value must be an object. -/
def find (v : Value) (key : String) : Except Fault (Option Value) := do
  return (← v.fieldsFor "get").get? key

/-- The value under a key or a default; the value must be an object. -/
def findD (v : Value) (key : String) (default : Value) : Except Fault Value := do
  return ((← v.find key).getD default)

/-- The value under a required key. -/
def member (v : Value) (key : String) : Except Fault Value :=
  match v with
  | .object fields => match Table.get? fields key with
    | some value => .ok value
    | none => .error (.missingKey key)
  | .list _ => .error (.wrongType "list indices must be integers or slices, not str")
  | .str _ => .error (.wrongType "string indices must be integers, not 'str'")
  | v => .error (.wrongType s!"'{v.kindName}' object is not subscriptable")

mutual

/-- The number of values on the longest way into a value. -/
def depth : Value → Nat
  | .list items => depthOfItems items + 1
  | .object fields => depthOfFields fields + 1
  | _ => 1

def depthOfItems : List Value → Nat
  | [] => 0
  | v :: rest => max v.depth (depthOfItems rest)

def depthOfFields : List (String × Value) → Nat
  | [] => 0
  | (_, v) :: rest => max v.depth (depthOfFields rest)

end

/-- The pair that a two-item sequence at a position makes. -/
def pairOf (position : Nat) (v : Value) : Except Fault (Value × Value) :=
  match v.items with
  | .error _ => .error (.wrongType
      s!"cannot convert dictionary update sequence element #{position} to a sequence")
  | .ok [key, value] => .ok (key, value)
  | .ok items => .error (.badValue
      s!"dictionary update sequence element #{position} has length {items.length}; 2 is required")

end Value

end Pagewright
