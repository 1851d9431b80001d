import Pagewright.Decimal.Integer

/-!
The tokens of literals: numbers, quoted texts and bytes, words and single marks. White space and comments
between tokens are skipped; a line feed outside brackets is a token, for a literal has one line there.
-/

namespace Pagewright.Console.Literal

/-- Why a text is no literal. -/
inductive Refusal where
  /-- The text breaks the grammar of literals. -/
  | grammar (text : String)
  /-- The text has the form of an expression without being a literal. -/
  | meaning (text : String)

/-- A part of a literal. -/
inductive Token where
  | number (imaginary : Bool)
  | text
  | bytes
  | word (name : List Char)
  | ellipsis
  | mark (c : Char)
  /-- The end of the literal. -/
  | finish
deriving DecidableEq

def invalid : Refusal := .grammar "invalid syntax"

def isOctal (c : Char) : Bool := '0' ≤ c && c ≤ '7'

def isHex (c : Char) : Bool := (Text.hexValue? c).isSome

/-- A run of digits with single low lines between them, and the rest. -/
def digits? (isDigit : Char → Bool) (s : List Char) : Option (List Char × List Char) :=
  let (run, rest) := s.span fun c => isDigit c || c == '_'
  let wellFormed := run.head?.any isDigit && run.getLast?.any isDigit
    && !Text.occurs ['_', '_'] run
  if wellFormed then some (run.filter (· != '_'), rest) else none

/-- The digits of a base after its letter. -/
def baseDigits? (letter : Char) : Option (Char → Bool) :=
  match letter.toLower with
  | 'x' => some isHex
  | 'o' => some isOctal
  | 'b' => some fun c => c == '0' || c == '1'
  | _ => none

/-- A text without a number of a base other than ten at its start. -/
def afterBased? : List Char → Option (List Char)
  | '0' :: letter :: rest => do
    let isDigit ← baseDigits? letter
    let rest := if rest.head? == some '_' then rest.drop 1 else rest
    return (← digits? isDigit rest).2
  | _ => none

/-- A text without the exponent at its start. -/
def afterExponent? : List Char → Option (List Char)
  | mark :: rest =>
    if mark.toLower != 'e' then none
    else
      let rest := if rest.head?.any fun c => c == '+' || c == '-' then rest.drop 1 else rest
      (digits? Char.isDigit rest).map (·.2)
  | [] => none

/-- A text without the fraction at its start. -/
def afterFraction? : List Char → Option (List Char)
  | '.' :: rest =>
    if rest.head?.any Char.isDigit then (digits? Char.isDigit rest).map (·.2) else some rest
  | _ => none

/-- Whether digits write a whole number: no zero stands before others, and they are not too many. -/
def isWhole (digits : List Char) : Bool :=
  (digits.all (· == '0') || digits.head? != some '0') && digits.length ≤ Decimal.maxDigits

/-- A number in base ten. -/
def decimal? (s : List Char) : Option (Token × List Char) := do
  let (whole, rest) := (digits? Char.isDigit s).getD ([], s)
  let tail := if whole.isEmpty && !(rest.drop 1).head?.any Char.isDigit then none
    else afterFraction? rest
  let afterPoint := tail.getD rest
  let exponent := afterExponent? afterPoint
  let rest := exponent.getD afterPoint
  let whole? := tail.isNone && exponent.isNone
  if whole.isEmpty && tail.isNone then none
  else match rest with
    | c :: after =>
      if c.toLower == 'j' then some (.number true, after)
      else if !whole? || isWhole whole then some (.number false, rest) else none
    | [] => if !whole? || isWhole whole then some (.number false, []) else none

/-- A number; no word character follows it. -/
def number? (s : List Char) : Option (Token × List Char) := do
  let (token, rest) ← match afterBased? s with
    | some rest => some (.number false, rest)
    | none => decimal? s
  if rest.head?.any Text.isWord then none else some (token, rest)

/-- A text without an escape after its backslash. Unknown escapes stand for themselves. -/
def afterEscape? (isBytes : Bool) : List Char → Option (List Char)
  | [] => none
  | c :: rest =>
    let hex (count : Nat) : Option (List Char) :=
      let digits := rest.take count
      if digits.length == count && digits.all isHex then some (rest.drop count) else none
    if c == 'x' then hex 2
    else if isBytes then if c.toNat < 128 then some rest else none
    else if c == 'u' then hex 4
    else if c == 'U' then do
      let after ← hex 8
      let code := (rest.take 8).foldl (fun n d => 16 * n + (Text.hexValue? d).getD 0) 0
      if code ≤ 0x10ffff then some after else none
    else if c == 'N' then match rest with
      | '\x7b' :: more => match more.span (· != '\x7d') with
        | (_ :: _, _ :: after) => some after
        | _ => none
      | _ => none
    else some rest

/-- How a quoted text is read. -/
structure Quoting where
  closing : List Char
  isRaw : Bool
  isBytes : Bool

/-- The refusal of a text whose closing quote is missing. -/
def Quoting.unterminated (quoting : Quoting) : Refusal :=
  .grammar (if quoting.closing.length == 3
    then "unterminated triple-quoted string literal (detected at line 1)"
    else "unterminated string literal (detected at line 1)")

/-- What follows a quoted text of which the rest is given; `fuel` bounds its length. -/
def Quoting.after (quoting : Quoting) : Nat → List Char → Except Refusal (List Char)
  | 0, _ => .error quoting.unterminated
  | _ + 1, [] => .error quoting.unterminated
  | fuel + 1, c :: rest =>
    match Text.after? quoting.closing (c :: rest) with
    | some after => .ok after
    | none =>
      if c == '\\' then
        if quoting.isRaw then quoting.after fuel (rest.drop 1)
        else match afterEscape? quoting.isBytes rest with
          | some after => quoting.after fuel after
          | none => if rest.isEmpty then .error quoting.unterminated else .error invalid
      else if c == '\n' && quoting.closing.length == 1 then .error quoting.unterminated
      else if quoting.isBytes && 128 ≤ c.toNat then
        .error (.grammar "bytes can only contain ASCII literal characters")
      else quoting.after fuel rest

/-- The letters that may stand before a quote. -/
def quotePrefixes : List String := ["", "r", "u", "b", "br", "rb"]

/-- A quoted text or bytes, or nothing where none starts. -/
def quoted? (s : List Char) : Option (Except Refusal (Token × List Char)) :=
  let (letters, rest) := s.span fun c => c != '"' && c != '\''
  let letters := String.ofList (letters.map Char.toLower)
  match rest with
  | quote :: rest =>
    if !quotePrefixes.contains letters then none
    else
      let isRaw := letters.toList.contains 'r'
      let isBytes := letters.toList.contains 'b'
      let (closing, body) := match Text.after? [quote, quote] rest with
        | some body => ([quote, quote, quote], body)
        | none => ([quote], rest)
      some do
        let after ← Quoting.after ⟨closing, isRaw, isBytes⟩ (body.length + 1) body
        return (if isBytes then .bytes else .text, after)
  | [] => none

/-- The next token of a text that is not empty and starts with no white space. -/
def next (s : List Char) : Except Refusal (Token × List Char) :=
  match quoted? s, s with
  | some result, _ => result
  | none, '.' :: '.' :: '.' :: rest => .ok (.ellipsis, rest)
  | none, [] => .ok (.finish, [])
  | none, c :: rest =>
    if c.isDigit || (c == '.' && rest.head?.any Char.isDigit) then
      match number? s with
      | some found => .ok found
      | none => .error (.grammar "invalid decimal literal")
    else if Text.isWord c then
      let (name, rest) := s.span Text.isWord
      .ok (.word name, rest)
    else if c == '!' || c == '$' || c == '?' || 128 ≤ c.toNat then .error invalid
    else .ok (.mark c, rest)

/-- The closing bracket of an opening one. -/
def closingOf? : Char → Option Char
  | '(' => some ')'
  | '\x7b' => some '\x7d'
  | _ => none

/-- The open brackets after one more mark. -/
def track (opened : List Char) (c : Char) : Except Refusal (List Char) :=
  if (closingOf? c).isSome then
    if opened.length < 200 then .ok (c :: opened)
    else .error (.grammar "too many nested parentheses")
  else if c == ')' || c == '\x7d' then match opened with
    | [] => .error (.grammar (String.ofList ("unmatched '".toList ++ [c, '\''])))
    | bracket :: opened =>
      if closingOf? bracket == some c then .ok opened
      else .error (.grammar (String.ofList ("closing parenthesis '".toList ++ [c]
        ++ "' does not match opening parenthesis '".toList ++ [bracket, '\''])))
  else .ok opened

/-- The refusal of a text with an open bracket. -/
def unclosed (bracket : Char) : Refusal :=
  .grammar (String.ofList ('\'' :: bracket :: "' was never closed".toList))

/-- The tokens of a text inside open brackets, the latest first, and the brackets open at its end; `fuel`
bounds their number. -/
def tokens : Nat → List Char → List Char → Except Refusal (List Token × List Char)
  | 0, opened, _ => .ok ([.finish], opened)
  | fuel + 1, opened, s =>
    let isSpace (c : Char) : Bool := c == ' ' || c == '\t' || (c == '\n' && !opened.isEmpty)
    match s.dropWhile isSpace with
    | [] => .ok ([.finish], opened)
    | '#' :: rest => tokens fuel opened (rest.dropWhile (· != '\n'))
    | s => do
      let (token, rest) ← next s
      let opened ← match token with
        | .mark c => track opened c
        | _ => pure opened
      let (found, opened) ← tokens fuel opened rest
      return (token :: found, opened)

end Pagewright.Console.Literal
