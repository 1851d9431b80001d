import Pagewright.Text.Scan

/-!
Stylesheets as text. Custom properties, the first root block, font imports and font families are
recognised where they stand; `clean` removes the directives of a build tool and empty rules and leaves
all else as it is.
-/

namespace Pagewright.Style

open Text (after? Recogniser)

/-- The text up to the next semicolon, if it is not empty, and the text after it. -/
def untilSemicolon? : Recogniser (List Char) := fun s =>
  match s.span (· != ';') with
  | ([], _) => none
  | (_, []) => none
  | (body, _ :: rest) => some (body, rest)

def isNameChar (c : Char) : Bool := Text.isWord c || c == '-'

/-- A custom property: its name and its value without white space around it. -/
def customProperty? : Recogniser (List Char × List Char) := fun s => do
  let (name, rest) := (← after? "--".toList s).span isNameChar
  match rest with
  | ':' :: rest =>
    if name.isEmpty then none
    else
      let (value, rest) ← untilSemicolon? rest
      some ((name, Text.trim value), rest)
  | _ => none

/-- A root block: what stands between its braces. -/
def rootBlock? : Recogniser (List Char) := fun s => do
  match Text.dropBlanks (← after? ":root".toList s) with
  | '{' :: rest => match rest.span (· != '\x7d') with
    | ([], _) => none
    | (_, []) => none
    | (body, _ :: rest) => some (body, rest)
  | _ => none

def isUrlQuote (c : Char) : Bool := c == '\'' || c == '"'

def isUrlChar (c : Char) : Bool := !isUrlQuote c && c != '(' && c != ')'

/-- A text without a quote at its start. -/
def skipQuote (s : List Char) : List Char :=
  match s with
  | c :: rest => if isUrlQuote c then rest else s
  | [] => []

/-- A font import: its address. -/
def fontImport? : Recogniser (List Char) := fun s => do
  let rest ← after? "@import".toList s
  if !(rest.head?.any Text.isBlank) then none
  else
    let rest ← after? "url(".toList (Text.dropBlanks rest)
    let (url, rest) := (skipQuote rest).span isUrlChar
    let rest ← after? ");".toList (skipQuote rest)
    if url.isEmpty then none else some (url, rest)

/-- The family that a font address asks for. -/
def familyOf? : Recogniser (List Char) := fun s => do
  match (← after? "family=".toList s).span fun c => c != ':' && c != '&' with
  | ([], _) => none
  | (family, rest) => some (family, rest)

/-- A font family declaration: its value without white space around it. -/
def fontFamily? : Recogniser (List Char) := fun s => do
  let (value, rest) ← untilSemicolon? (← after? "font-family:".toList s)
  some (Text.trim value, rest)

/-- The rest after a directive that takes an argument: a word, white space, at least one more
character and a semicolon. -/
def directive? (word : List Char) (s : List Char) : Option (List Char) := do
  let (body, rest) ← untilSemicolon? (← after? word s)
  if body.head?.any Text.isBlank && 2 ≤ body.length then some rest else none

def isLayerChar (c : Char) : Bool := Text.isWord c || Text.isBlank c || c == ','

/-- The rest after the start of a layer block: the names of the layers and the opening brace. -/
def layerStart? (s : List Char) : Option (List Char) := do
  let (names, rest) := (← after? "@layer".toList s).span isLayerChar
  match rest with
  | '{' :: rest => if names.head?.any Text.isBlank && 2 ≤ names.length then some rest else none
  | _ => none

def isBrace (c : Char) : Bool := c == '\x7b' || c == '\x7d'

/-- The rest after a rule without declarations. -/
def emptyRule? (s : List Char) : Option (List Char) :=
  match s.span (!isBrace ·) with
  | ([], _) => none
  | (_, '{' :: rest) => match Text.dropBlanks rest with
    | '}' :: rest => some rest
    | _ => none
  | _ => none

/-- A stylesheet without the directives of the build tool and without empty rules. -/
def clean (css : List Char) : List Char :=
  let css := Text.erase (directive? "@tailwind".toList) css
  let css := Text.erase (directive? "@apply".toList) css
  let css := Text.erase layerStart? css
  Text.trim (Text.erase emptyRule? css)

end Pagewright.Style
