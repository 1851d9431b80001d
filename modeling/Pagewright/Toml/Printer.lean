import Pagewright.Value.Display

/-!
TOML text of a table. The scalar entries of a table come first, one on a line, then each sub-table
after a blank line under a header with its dotted name. A table that holds nothing but tables has no
header of its own. Arrays stand one item on a line; arrays of tables become tables of their own unless
they fit on one line. Nothing is no TOML value and is refused.
-/

namespace Pagewright.Toml

open Decimal (hexDigits padZeros displayLayout)

/-- The longest line on which an array of tables may stand. -/
def maxLine : Nat := 100

def isBareKeyChar (c : Char) : Bool := c.isAlphanum || c == '_' || c == '-'

/-- One character inside a quoted text. -/
def escapeChar (c : Char) : List Char :=
  if c == '"' then ['\\', '"']
  else if c == '\\' then ['\\', '\\']
  else if c == '\n' then ['\\', 'n']
  else if c == '\r' then ['\\', 'r']
  else if c.toNat == 8 then ['\\', 'b']
  else if c.toNat == 12 then ['\\', 'f']
  else if c == '\t' then ['\t']
  else if c.toNat < 32 || c.toNat == 127 then '\\' :: 'u' :: padZeros 4 (hexDigits c.toNat)
  else [c]

def quoted (s : String) : String := String.ofList ('"' :: s.toList.flatMap escapeChar ++ ['"'])

/-- A key: bare where its characters allow it. -/
def key (name : String) : String :=
  if !name.isEmpty && name.toList.all isBareKeyChar then name else quoted name

/-- The refusal of a value that has no TOML form. -/
def unsupported (v : Value) : Fault :=
  .wrongType s!"Object of type '<class '{v.kindName}'>' is not TOML serializable"

mutual

/-- A value after an equals sign or inside an array; `depth` counts the arrays around it. -/
def literal (depth : Nat) : Value → Except Fault String
  | .bool b => .ok (if b then "true" else "false")
  | .int n => .ok (toString n)
  | .float x => .ok (displayLayout.text x)
  | .str s => .ok (quoted s)
  | .list [] => .ok "[]"
  | .list (first :: rest) => do
    let indent := String.ofList (List.replicate (4 * (depth + 1)) ' ')
    let closing := String.ofList (List.replicate (4 * depth) ' ')
    let items ← literals (depth + 1) (first :: rest)
    return "[\n" ++ String.join (items.map fun item => indent ++ item ++ ",\n") ++ closing ++ "]"
  | .object fields => do
    let entries ← inlineFields fields
    return if entries.isEmpty then "\x7b\x7d" else "\x7b " ++ ", ".intercalate entries ++ " \x7d"
  | .null => .error (unsupported .null)

def literals (depth : Nat) : List Value → Except Fault (List String)
  | [] => .ok []
  | v :: rest => do
    let first ← literal depth v
    return first :: (← literals depth rest)

def inlineFields : List (String × Value) → Except Fault (List String)
  | [] => .ok []
  | (name, v) :: rest => do
    let first ← literal 0 v
    return (key name ++ " = " ++ first) :: (← inlineFields rest)

end

/-- The tables of a list that holds nothing else and at least one. -/
def tablesOf? (v : Value) : Option (List (Table Value)) :=
  match v with
  | .list (first :: rest) => (first :: rest).mapM Value.fields?
  | _ => none

/-- Whether a table inside an array fits on one line. -/
def fitsLine (fields : Table Value) : Except Fault Bool := do
  let line := "    " ++ (← literal 0 (.object fields)) ++ ","
  return line.length ≤ maxLine && !line.contains '\n'

/-- A table below another one, standing alone or as an item of an array. -/
structure SubTable where
  name : String
  fields : Table Value
  inArray : Bool

/-- The scalar entries of a table and the tables below it. -/
def partition : List (String × Value) → Except Fault (List (String × Value) × List SubTable)
  | [] => .ok ([], [])
  | (name, v) :: rest => do
    let arrayTables ← match tablesOf? v with
      | some tables => do if ← tables.allM fitsLine then pure [] else pure tables
      | none => pure []
    let (scalars, tables) ← partition rest
    match v with
    | .object fields => return (scalars, ⟨name, fields, false⟩ :: tables)
    | v =>
      if arrayTables.isEmpty then return ((name, v) :: scalars, tables)
      else return (scalars, arrayTables.map (⟨name, ·, true⟩) ++ tables)

/-- Printing: the text so far is kept when a value without TOML form ends it. -/
abbrev Printing := ExceptT Fault (StateM String)

def emit (text : String) : Printing Unit := modify (· ++ text)

/-- A table under its header; `fuel` bounds the nesting. -/
def printTable : Nat → String → Bool → Table Value → Printing Unit
  | 0, _, _, _ => throw .tooDeep
  | fuel + 1, name, inArray, fields => do
    let (scalars, tables) ← (partition fields : Except Fault _)
    let header :=
      if inArray then "[[" ++ name ++ "]]\n"
      else if !name.isEmpty && (!scalars.isEmpty || tables.isEmpty) then "[" ++ name ++ "]\n" else ""
    emit header
    scalars.forM fun (scalarName, v) => do
      emit (key scalarName ++ " = " ++ (← (literal 0 v : Except Fault String)) ++ "\n")
    let bare := header.isEmpty && scalars.isEmpty
    tables.zipIdx.forM fun (sub, position) => do
      if !(bare && position == 0) then emit "\n"
      let full := if name.isEmpty then key sub.name else name ++ "." ++ key sub.name
      printTable fuel full sub.inArray sub.fields

/-- The TOML text of a table, and what ended it early. -/
def print (fields : Table Value) : String × Option Fault :=
  match ((printTable (Value.object fields).depth "" false fields).run "") with
  | (.ok (), text) => (text, none)
  | (.error fault, text) => (text, some fault)

/-- Whether the printed text has an entry among the tables below the scalar entries. -/
def standsBelow (v : Value) : Bool :=
  v.isObject || match tablesOf? v with
    | some tables => !tables.all fun fields => (fitsLine fields).toOption.getD false
    | none => false

/-- A table with its scalar entries first. -/
def scalarsFirst (fields : Table Value) : Table Value :=
  fields.filter (!standsBelow ·.2) ++ fields.filter (standsBelow ·.2)

mutual

/-- A value with the entries of its tables in the order of the printed text. Tables in an array that stands
on one line keep theirs. -/
def arranged : Value → Value
  | .object fields => .object (scalarsFirst (arrangedFields fields))
  | .list items => .list (if standsBelow (.list items) then arrangedItems items else items)
  | v => v

def arrangedItems : List Value → List Value
  | [] => []
  | v :: rest => arranged v :: arrangedItems rest

def arrangedFields : List (String × Value) → List (String × Value)
  | [] => []
  | (name, v) :: rest => (name, arranged v) :: arrangedFields rest

end

end Pagewright.Toml
