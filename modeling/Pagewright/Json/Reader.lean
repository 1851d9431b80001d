import Pagewright.Value.Display

/-!
Reading JSON text. Beyond the grammar the three words for numbers out of range are known. Nesting is
bounded by `maxDepth`, and the first fault met from left to right is the one reported. Of equal keys
the first gives the place and the last the value, unless keys have to differ.
-/

namespace Pagewright.Json

/-- The deepest nesting that is read. -/
def maxDepth : Nat := 990

/-- A fault and the number of characters left where it was found. -/
inductive Refusal where
  | grammar (what : String) (left : Nat)
  | control (left : Nat)
  | depth (container : String)
  | longNumber (digits : Nat)
  | duplicateKey (key : String)

def isJsonBlank (c : Char) : Bool := c == ' ' || c == '\t' || c == '\n' || c == '\r'

def skipBlanks (s : List Char) : List Char := s.dropWhile isJsonBlank

/-- The code unit written by four hexadecimal digits, which may not end the text. -/
def codeUnit? : List Char → Option (Nat × List Char)
  | a :: b :: c :: d :: next :: rest => do
    let a ← Text.hexValue? a
    let b ← Text.hexValue? b
    let c ← Text.hexValue? c
    let d ← Text.hexValue? d
    some (((a * 16 + b) * 16 + c) * 16 + d, next :: rest)
  | _ => none

/-- The character of two surrogate code units. -/
def surrogatePair (high low : Nat) : Char :=
  Char.ofNat (0x10000 + (high - 0xd800) * 0x400 + (low - 0xdc00))

/-- The character of a code unit and, for a high surrogate, of the low one after it; a surrogate
without partner stands for the replacement character. -/
def joinUnits (first : Nat) (rest : List Char) : Char × List Char :=
  if 0xd800 ≤ first && first < 0xdc00 then
    match rest with
    | '\\' :: 'u' :: more => match codeUnit? more with
      | some (second, remaining) =>
        if 0xdc00 ≤ second && second < 0xe000 then (surrogatePair first second, remaining)
        else (Char.ofNat 0xfffd, rest)
      | none => (Char.ofNat 0xfffd, rest)
    | _ => (Char.ofNat 0xfffd, rest)
  else if 0xdc00 ≤ first && first < 0xe000 then (Char.ofNat 0xfffd, rest)
  else (Char.ofNat first, rest)

/-- The character that a letter after a backslash stands for. -/
def shortEscape? (c : Char) : Option Char :=
  match c with
  | '"' => some '"'
  | '\\' => some '\\'
  | '/' => some '/'
  | 'b' => some (Char.ofNat 8)
  | 'f' => some (Char.ofNat 12)
  | 'n' => some '\n'
  | 'r' => some '\r'
  | 't' => some '\t'
  | _ => none

/-- The rest of a string after its opening quote; `opened` is the text at the quote. -/
def readString (opened : List Char) : Nat → List Char → List Char → Except Refusal (String × List Char)
  | 0, _, _ => .error (.grammar "Unterminated string starting at" opened.length)
  | _ + 1, _, [] => .error (.grammar "Unterminated string starting at" opened.length)
  | fuel + 1, acc, c :: rest =>
    if c == '"' then .ok (String.ofList acc.reverse, rest)
    else if c.toNat < 32 then .error (.control (rest.length + 1))
    else if c != '\\' then readString opened fuel (c :: acc) rest
    else match rest with
      | [] => .error (.grammar "Unterminated string starting at" opened.length)
      | 'u' :: more => match codeUnit? more with
        | none => .error (.grammar "Invalid \\uXXXX escape" (more.length + 1))
        | some (first, remaining) =>
          let (joined, remaining) := joinUnits first remaining
          readString opened fuel (joined :: acc) remaining
      | e :: more => match shortEscape? e with
        | some escaped => readString opened fuel (escaped :: acc) more
        | none => .error (.grammar "Invalid \\escape" (rest.length + 1))

def isAsciiDigit (c : Char) : Bool := '0' ≤ c && c ≤ '9'

/-- The whole part of a number: a zero alone, or digits that start with none. -/
def wholeDigits? : List Char → Option (List Char × List Char)
  | '0' :: rest => some (['0'], rest)
  | s => match s.span isAsciiDigit with
    | ([], _) => none
    | (digits, rest) => some (digits, rest)

/-- A point with digits after it. -/
def fractionDigits (s : List Char) : List Char × List Char :=
  match s with
  | '.' :: rest => match rest.span isAsciiDigit with
    | ([], _) => ([], s)
    | (digits, more) => (digits, more)
  | _ => ([], s)

/-- An exponent mark with a sign and digits. -/
def exponentPart (s : List Char) : Option Int × List Char :=
  match s with
  | mark :: rest =>
    if mark == 'e' || mark == 'E' then
      let (negative, body) := Decimal.signed rest
      match body.span isAsciiDigit with
      | ([], _) => (none, s)
      | (digits, more) =>
        let n : Int := Decimal.ofDigits (digits.map fun d => d.toNat - 48)
        (some (if negative then -n else n), more)
    else (none, s)
  | [] => (none, s)

/-- A number at the start of a text; the bare minus sign is no number. -/
def readNumber (s : List Char) : Except Refusal (Value × List Char) :=
  let (negative, body) := match s with
    | '-' :: rest => (true, rest)
    | _ => (false, s)
  match wholeDigits? body with
  | none => .error (.grammar "Expecting value" s.length)
  | some (whole, rest) =>
    let (fraction, rest) := fractionDigits rest
    let (exponent, rest) := exponentPart rest
    let digits := (whole ++ fraction).map fun d => d.toNat - 48
    if fraction.isEmpty && exponent.isNone then
      if Decimal.maxDigits < whole.length then .error (.longNumber whole.length)
      else
        let n : Int := Decimal.ofDigits digits
        .ok (.int (if negative then -n else n), rest)
    else
      let x := Decimal.ofDecimal (Decimal.ofDigits digits) (exponent.getD 0 - fraction.length)
      .ok (.float (if negative then -x else x), rest)

/-- The members of a list after its opening bracket. -/
def readItems (readItem : List Char → Except Refusal (Value × List Char)) :
    Nat → List Value → List Char → Except Refusal (List Value × List Char)
  | 0, _, s => .error (.grammar "Expecting value" s.length)
  | fuel + 1, acc, s => do
    let (item, rest) ← readItem s
    match skipBlanks rest with
    | ',' :: more => readItems readItem fuel (item :: acc) (skipBlanks more)
    | ']' :: more => return ((item :: acc).reverse, more)
    | other => .error (.grammar "Expecting ',' delimiter" other.length)

/-- The members of an object after its opening brace; the text starts at a key of at most `size`
characters. -/
def readMembers (size : Nat) (readItem : List Char → Except Refusal (Value × List Char)) :
    Nat → List (String × Value) → List Char → Except Refusal (List (String × Value) × List Char)
  | 0, _, s => .error (.grammar "Expecting value" s.length)
  | fuel + 1, acc, s => match s with
    | '"' :: body => do
      let (key, rest) ← readString s size [] body
      match skipBlanks rest with
      | ':' :: more =>
        let (value, rest) ← readItem (skipBlanks more)
        match skipBlanks rest with
        | ',' :: more => readMembers size readItem fuel ((key, value) :: acc) (skipBlanks more)
        | '}' :: more => return (((key, value) :: acc).reverse, more)
        | other => .error (.grammar "Expecting ',' delimiter" other.length)
      | other => .error (.grammar "Expecting ':' delimiter" other.length)
    | _ => .error (.grammar "Expecting property name enclosed in double quotes" s.length)

/-- The first key that occurs before among the pairs. -/
def firstDuplicate? : List String → List (String × Value) → Option String
  | _, [] => none
  | seen, (key, _) :: rest =>
    if seen.contains key then some key else firstDuplicate? (key :: seen) rest

/-- The object of its members. -/
def assemble (distinct : Bool) (members : List (String × Value)) : Except Refusal Value :=
  match if distinct then firstDuplicate? [] members else none with
  | some key => .error (.duplicateKey key)
  | none => .ok (.object (Table.ofPairs members))

/-- A value at the start of a text of at most `size` characters; `depth` levels of nesting are left. -/
def readValue (distinct : Bool) (size : Nat) : Nat → List Char → Except Refusal (Value × List Char)
  | _, '"' :: rest => do
    let (s, rest) ← readString ('"' :: rest) size [] rest
    return (.str s, rest)
  | 0, '[' :: _ => .error (.depth "array")
  | 0, '{' :: _ => .error (.depth "object")
  | depth + 1, '[' :: rest => match skipBlanks rest with
    | ']' :: more => .ok (.list [], more)
    | body => do
      let (items, more) ← readItems (readValue distinct size depth) size [] body
      return (.list items, more)
  | depth + 1, '{' :: rest => match skipBlanks rest with
    | '}' :: more => .ok (.object [], more)
    | body => do
      let (members, more) ← readMembers size (readValue distinct size depth) size [] body
      return (← assemble distinct members, more)
  | _, 'n' :: 'u' :: 'l' :: 'l' :: rest => .ok (.null, rest)
  | _, 't' :: 'r' :: 'u' :: 'e' :: rest => .ok (.bool true, rest)
  | _, 'f' :: 'a' :: 'l' :: 's' :: 'e' :: rest => .ok (.bool false, rest)
  | _, 'N' :: 'a' :: 'N' :: rest => .ok (.float (0.0 / 0.0), rest)
  | _, 'I' :: 'n' :: 'f' :: 'i' :: 'n' :: 'i' :: 't' :: 'y' :: rest => .ok (.float (1.0 / 0.0), rest)
  | _, '-' :: 'I' :: 'n' :: 'f' :: 'i' :: 'n' :: 'i' :: 't' :: 'y' :: rest =>
    .ok (.float (-1.0 / 0.0), rest)
  | _, s => readNumber s

/-- A text as one value with blanks around it. -/
def readWhole (distinct : Bool) (s : List Char) : Except Refusal Value := do
  if s.head? == some (Char.ofNat 0xfeff) then
    throw (.grammar "Unexpected UTF-8 BOM (decode using utf-8-sig)" s.length)
  let (v, rest) ← readValue distinct (s.length + 1) maxDepth (skipBlanks s)
  match skipBlanks rest with
  | [] => return v
  | extra => throw (.grammar "Extra data" extra.length)

/-- Line, column and offset of the place where `left` characters of a text are left. -/
def placeText (s : List Char) (left : Nat) : String :=
  let before := s.take (s.length - left)
  let line := before.count '\n' + 1
  let column := (before.reverse.takeWhile (· != '\n')).length + 1
  s!"line {line} column {column} (char {before.length})"

/-- A refusal in words. -/
def Refusal.fault (s : List Char) : Refusal → JsonFault
  | .grammar what left => .grammar s!"{what}: {placeText s left}"
  | .control left => .controlCharacter s!"Invalid control character at: {placeText s left}"
  | .depth container => .depth container
  | .longNumber digits => .longNumber digits
  | .duplicateKey key => .duplicateKey key

/-- The value of a JSON text; with `distinct`, an object whose keys do not differ is refused. -/
def read (text : String) (distinct : Bool) : Except JsonFault Value :=
  (readWhole distinct text.toList).mapError (Refusal.fault text.toList)

end Pagewright.Json
