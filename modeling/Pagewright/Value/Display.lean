import Pagewright.Decimal.Binary
import Pagewright.Decimal.Shortest
import Pagewright.Value.Basic

/-!
Values as text and text as numbers. `display` writes a value as it stands inside a list: texts are
quoted, nothing is `None` and truth values are `True` and `False`. `text` is the same but leaves a text
as it is.
-/

namespace Pagewright.Value

open Decimal (displayLayout)

mutual

/-- A value as it is displayed inside lists. -/
def display : Value → String
  | .null => "None"
  | .bool b => if b then "True" else "False"
  | .int n => toString n
  | .float x => displayLayout.text x
  | .str s => Text.displayed s
  | .list items => "[" ++ ", ".intercalate (displayItems items) ++ "]"
  | .object fields => "\x7b" ++ ", ".intercalate (displayFields fields) ++ "\x7d"

def displayItems : List Value → List String
  | [] => []
  | v :: rest => v.display :: displayItems rest

def displayFields : List (String × Value) → List String
  | [] => []
  | (key, v) :: rest => (Text.displayed key ++ ": " ++ v.display) :: displayFields rest

end

/-- A value as a text; a text is its own. -/
def text : Value → String
  | .str s => s
  | v => v.display

/-- Whether a whole number has few enough digits to be written. -/
def fitsText (n : Int) : Bool := (Nat.toDigits 10 n.natAbs).length ≤ Decimal.maxDigits

mutual

/-- Whether every whole number in a value can be written. -/
def isWritable : Value → Bool
  | .int n => fitsText n
  | .list items => areWritable items
  | .object fields => areWritableFields fields
  | _ => true

def areWritable : List Value → Bool
  | [] => true
  | v :: rest => v.isWritable && areWritable rest

def areWritableFields : List (String × Value) → Bool
  | [] => true
  | (_, v) :: rest => v.isWritable && areWritableFields rest

end

/-- A value as a text, unless a whole number in it is too long. -/
def written (v : Value) : Except Fault String :=
  if v.isWritable then .ok v.text
  else .error (.badValue (s!"Exceeds the limit ({Decimal.maxDigits} digits) for integer string conversion; "
    ++ "use sys.set_int_max_str_digits() to increase the limit"))

/-- The key that a value becomes in a JSON object. -/
def keyText : Value → String
  | .str s => s
  | .null => "null"
  | .bool b => if b then "true" else "false"
  | .float x => Decimal.jsonLayout.text x
  | v => v.display

/-- The whole number that a number counts. -/
def whole? : Value → Option Int
  | .bool b => some (if b then 1 else 0)
  | .int n => some n
  | .float x => if x.floor == x then (Decimal.wholePart x).toOption else none
  | _ => none

/-- Whether two values are the same key. Numbers of different kinds are, when they count the same. -/
def sameKey : Value → Value → Bool
  | .null, .null => true
  | .str s, .str t => s == t
  | .float x, .float y => x == y
  | a, b => match a.whole?, b.whole? with
    | some m, some n => m == n
    | _, _ => false

/-- Entries under keys of any kind, in the order of their first insertion. -/
abbrev Entries := List (Value × Value)

/-- Entries with a value under a key: in place, and under the key as it is, if there is one. -/
def putEntry (entries : Entries) (key value : Value) : Entries :=
  match entries with
  | [] => [(key, value)]
  | entry :: rest =>
    if sameKey entry.1 key then (entry.1, value) :: rest else entry :: putEntry rest key value

/-- Entries with that of a pair. -/
def putPair (entries : Entries) (position : Nat) (pair : Value) : Except Fault Entries := do
  let (key, value) ← pairOf position pair
  if key.isHashable then return putEntry entries key value else throw key.unhashable

/-- The entries that a value makes: those of an object, or the pairs of a sequence. -/
def toEntries (v : Value) : Except Fault Entries :=
  match v with
  | .object fields => .ok (fields.map fun entry => (.str entry.1, entry.2))
  | v => do (← v.items).zipIdx.foldlM (fun entries (pair, position) => putPair entries position pair) []

/-- The fields that a value makes, under the texts of their keys. -/
def toFields (v : Value) : Except Fault (Table Value) := do
  return (← v.toEntries).map fun entry => (entry.1.keyText, entry.2)

/-- The whole number that a value becomes. -/
def toInt (v : Value) : Except Fault Int :=
  match v with
  | .int n => .ok n
  | .bool b => .ok (if b then 1 else 0)
  | .float x => match Decimal.wholePart x with
    | .ok n => .ok n
    | .error .notANumber => .error (.badValue "cannot convert float NaN to integer")
    | .error .infinite => .error (.overflow "cannot convert float infinity to integer")
  | .str s => match Decimal.readInt s.toList with
    | .ok n => .ok n
    | .error (.tooLong digits) => .error (.badValue (Decimal.limitText digits))
    | .error .noNumeral => .error (.badValue ("invalid literal for int() with base 10: "
        ++ String.ofList ((Text.displayed s).toList.take 200)))
  | v => .error (.wrongType ("int() argument must be a string, a bytes-like object or a real number, "
      ++ s!"not '{v.kindName}'"))

/-- The fraction that a value becomes. -/
def toFloat (v : Value) : Except Fault Float :=
  match v with
  | .float x => .ok x
  | .bool b => .ok (if b then 1.0 else 0.0)
  | .int n => match Decimal.ofInt? n with
    | some x => .ok x
    | none => .error (.overflow "int too large to convert to float")
  | .str s => match Decimal.readFloat? s.toList with
    | some x => .ok x
    | none => .error (.badValue s!"could not convert string to float: {Text.displayed s}")
  | v => .error (.wrongType s!"float() argument must be a string or a real number, not '{v.kindName}'")

end Pagewright.Value
