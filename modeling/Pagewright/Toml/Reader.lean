import Pagewright.Json.Reader
import Pagewright.Toml.Printer

/-!
Reading TOML text: comments, tables and arrays of tables under dotted names, and entries whose values
are texts, numbers, truth values, arrays and inline tables. A text that breaks the rules, by a key that
is given twice among others, has no reading.
-/

namespace Pagewright.Toml

def isSpace (c : Char) : Bool := c == ' ' || c == '\t'

/-- The rest of a text after spaces. -/
def skipSpace (s : List Char) : List Char := s.dropWhile isSpace

/-- The rest of a line after spaces and a comment. -/
def skipComment (s : List Char) : List Char :=
  match skipSpace s with
  | '#' :: rest => rest.dropWhile (· != '\n')
  | rest => rest

/-- The rest of a text after blank lines and comments; `fuel` bounds their number. -/
def skipLines : Nat → List Char → List Char
  | 0, s => s
  | fuel + 1, s => match skipComment s with
    | '\n' :: rest => skipLines fuel rest
    | rest => rest

/-- A text up to its closing quote. -/
def basicString : List Char → List Char → Option (String × List Char)
  | _, [] => none
  | acc, '"' :: rest => some (String.ofList acc.reverse, rest)
  | acc, '\\' :: 'u' :: a :: b :: c :: d :: rest => do
    let (unit, _) ← Json.codeUnit? [a, b, c, d]
    if 0xd800 ≤ unit && unit < 0xe000 then none else basicString (Char.ofNat unit :: acc) rest
  | acc, '\\' :: c :: rest =>
    if c == '/' then none else do basicString ((← Json.shortEscape? c) :: acc) rest
  | acc, c :: rest => if c == '\n' then none else basicString (c :: acc) rest

/-- A text up to its closing apostrophe, in which nothing is escaped. -/
def literalString (s : List Char) : Option (String × List Char) :=
  match s.span (fun c => c != '\'' && c != '\n') with
  | (body, '\'' :: rest) => some (String.ofList body, rest)
  | _ => none

/-- One part of a key. -/
def keyPart (s : List Char) : Option (String × List Char) :=
  match s with
  | '"' :: rest => basicString [] rest
  | '\'' :: rest => literalString rest
  | s =>
    let (bare, rest) := s.span isBareKeyChar
    if bare.isEmpty then none else some (String.ofList bare, rest)

/-- A dotted key; `fuel` bounds its parts. -/
def keyPath : Nat → List Char → Option (List String × List Char)
  | 0, _ => none
  | fuel + 1, s => do
    let (part, rest) ← keyPart (skipSpace s)
    match skipSpace rest with
    | '.' :: more => do
      let (parts, rest) ← keyPath fuel more
      some (part :: parts, rest)
    | rest => some ([part], rest)

/-- A table with a value at a path through its tables; no key may be given twice. -/
def insertAt : Table Value → List String → Value → Option (Table Value)
  | _, [], _ => none
  | fields, [name], v => if fields.has name then none else some (fields.put name v)
  | fields, name :: path, v => match fields.get? name with
    | none => do some (fields.put name (.object (← insertAt [] path v)))
    | some (.object below) => do some (fields.put name (.object (← insertAt below path v)))
    | some _ => none

/-- A function applied to the table at a path, which is made where it is missing; of an array of
tables the last one counts. -/
def changeAt (change : Table Value → Option (Table Value)) :
    List String → Table Value → Option (Table Value)
  | [], fields => change fields
  | name :: path, fields => match fields.get? name with
    | none => do some (fields.put name (.object (← changeAt change path [])))
    | some (.object below) => do some (fields.put name (.object (← changeAt change path below)))
    | some (.list items) => match items.reverse with
      | .object last :: before => do
        let last ← changeAt change path last
        some (fields.put name (.list (before.reverse ++ [.object last])))
      | _ => none
    | some _ => none

/-- A table with one more item in the array of tables under a name. -/
def appendTable (name : String) (fields : Table Value) : Option (Table Value) :=
  match fields.get? name with
  | none => some (fields.put name (.list [.object []]))
  | some (.list items) => some (fields.put name (.list (items ++ [.object []])))
  | some _ => none

def isScalarChar (c : Char) : Bool := c.isAlphanum || c == '+' || c == '-' || c == '.' || c == '_'

/-- The value of a word that is no text. -/
def scalar? (word : List Char) : Option Value :=
  if word == "true".toList then some (.bool true)
  else if word == "false".toList then some (.bool false)
  else if word.all fun c => c.isDigit || c == '+' || c == '-' || c == '_' then
    (Decimal.readInt? word).map .int
  else (Decimal.readFloat? word).map .float

mutual

/-- A value; `fuel` bounds the number of steps. -/
def readValue : Nat → List Char → Option (Value × List Char)
  | 0, _ => none
  | _ + 1, '"' :: rest => do
    let (text, rest) ← basicString [] rest
    some (.str text, rest)
  | _ + 1, '\'' :: rest => do
    let (text, rest) ← literalString rest
    some (.str text, rest)
  | fuel + 1, '[' :: rest => readItems fuel [] rest
  | fuel + 1, '{' :: rest => match skipSpace rest with
    | '}' :: rest => some (.object [], rest)
    | rest => readFields fuel [] rest
  | _ + 1, s => do
    let (word, rest) := s.span isScalarChar
    if word.isEmpty then none else some (← scalar? word, rest)

/-- The items of an array after its bracket. -/
def readItems : Nat → List Value → List Char → Option (Value × List Char)
  | 0, _, _ => none
  | fuel + 1, acc, s => match skipLines fuel s with
    | ']' :: rest => some (.list acc.reverse, rest)
    | rest => do
      let (v, rest) ← readValue fuel rest
      match skipLines fuel rest with
      | ',' :: rest => readItems fuel (v :: acc) rest
      | ']' :: rest => some (.list (v :: acc).reverse, rest)
      | _ => none

/-- The entries of an inline table after its brace. -/
def readFields : Nat → Table Value → List Char → Option (Value × List Char)
  | 0, _, _ => none
  | fuel + 1, acc, s => do
    let (path, rest) ← keyPath fuel s
    match skipSpace rest with
    | '=' :: rest => do
      let (v, rest) ← readValue fuel (skipSpace rest)
      let acc ← insertAt acc path v
      match skipSpace rest with
      | ',' :: rest => readFields fuel acc rest
      | '}' :: rest => some (.object acc, rest)
      | _ => none
    | _ => none

end

/-- The rest of a text after the end of a line, at which nothing else may stand. -/
def endLine (s : List Char) : Option (List Char) :=
  match skipComment s with
  | [] => some []
  | '\n' :: rest => some rest
  | _ => none

/-- The entries of a text put into a table; `current` is the path of the table they belong to. -/
def readEntries : Nat → List String → Table Value → List Char → Option (Table Value)
  | 0, _, _, _ => none
  | fuel + 1, current, root, s => match skipLines fuel s with
    | [] => some root
    | '[' :: '[' :: rest => do
      let (path, rest) ← keyPath fuel rest
      let rest ← Text.after? "]]".toList rest
      let rest ← endLine rest
      let name ← path.getLast?
      readEntries fuel path (← changeAt (appendTable name) path.dropLast root) rest
    | '[' :: rest => do
      let (path, rest) ← keyPath fuel rest
      let rest ← Text.after? "]".toList rest
      let rest ← endLine rest
      readEntries fuel path (← changeAt some path root) rest
    | rest => do
      let (path, rest) ← keyPath fuel rest
      match skipSpace rest with
      | '=' :: rest => do
        let (v, rest) ← readValue fuel (skipSpace rest)
        let rest ← endLine rest
        readEntries fuel current (← changeAt (insertAt · path v) current root) rest
      | _ => none

/-- The table that a TOML text writes, if it writes one. -/
def read? (text : String) : Option (Table Value) :=
  let s := Text.normalizeLines text.toList
  readEntries (s.length + 1) [] [] s

end Pagewright.Toml
