import Pagewright.Value.Display

/-!
JSON text of a value. Text outside ASCII is written as it is; in strings the quote, the backslash and
the control characters are escaped. A layout says what stands between items and how deep they are
indented.
-/

namespace Pagewright.Json

open Decimal (hexDigits padZeros jsonLayout)

/-- What stands between items and after keys; `indent` puts every item on a line of its own. -/
structure Layout where
  itemSeparator : String
  keySeparator : String
  indent : Option Nat

/-- One line with a blank after every separator. -/
def Layout.spaced : Layout := ⟨", ", ": ", none⟩

/-- One line without blanks. -/
def Layout.compact : Layout := ⟨",", ":", none⟩

/-- One item on a line, indented by its depth. -/
def Layout.indented (width : Nat) : Layout := ⟨",", ": ", some width⟩

/-- One character inside a JSON string. -/
def escapeChar (c : Char) : List Char :=
  if c == '"' then ['\\', '"']
  else if c == '\\' then ['\\', '\\']
  else if c == '\n' then ['\\', 'n']
  else if c == '\r' then ['\\', 'r']
  else if c == '\t' then ['\\', 't']
  else if c.toNat == 8 then ['\\', 'b']
  else if c.toNat == 12 then ['\\', 'f']
  else if c.toNat < 32 then '\\' :: 'u' :: padZeros 4 (hexDigits c.toNat)
  else [c]

/-- A JSON string. -/
def quoted (s : String) : String := String.ofList ('"' :: s.toList.flatMap escapeChar ++ ['"'])

/-- The line break before an item at a depth, where items stand on lines of their own. -/
def Layout.break (layout : Layout) (depth : Nat) : String :=
  match layout.indent with
  | none => ""
  | some width => "\n" ++ String.ofList (List.replicate (width * depth) ' ')

/-- Items between brackets. -/
def Layout.enclose (layout : Layout) (opening closing : String) (depth : Nat)
    (items : List String) : String :=
  match items with
  | [] => opening ++ closing
  | items => opening ++ layout.break (depth + 1)
      ++ (layout.itemSeparator ++ layout.break (depth + 1)).intercalate items
      ++ layout.break depth ++ closing

mutual

def printAt (layout : Layout) (depth : Nat) : Value → String
  | .null => "null"
  | .bool b => if b then "true" else "false"
  | .int n => toString n
  | .float x => jsonLayout.text x
  | .str s => quoted s
  | .list items => layout.enclose "[" "]" depth (printItems layout (depth + 1) items)
  | .object fields => layout.enclose "\x7b" "\x7d" depth (printFields layout (depth + 1) fields)

def printItems (layout : Layout) (depth : Nat) : List Value → List String
  | [] => []
  | v :: rest => printAt layout depth v :: printItems layout depth rest

def printFields (layout : Layout) (depth : Nat) : List (String × Value) → List String
  | [] => []
  | (key, v) :: rest =>
    (quoted key ++ layout.keySeparator ++ printAt layout depth v) :: printFields layout depth rest

end

/-- The JSON text of a value in a layout. -/
def print (layout : Layout) (v : Value) : String := printAt layout 0 v

end Pagewright.Json
