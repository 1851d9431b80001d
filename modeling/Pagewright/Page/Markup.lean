import Pagewright.Text.Scan

/-!
Recognisers for page markup. An element is recognised by the start of its opening tag, its class
attribute and the first closing tag after it; nothing else of the markup is understood.
-/

namespace Pagewright.Page

open Text (after? cut? Recogniser)

def isQuote (c : Char) : Bool := c == '"' || c == '\''

/-- The text after `className=` and an opening quote. -/
def classStart? (s : List Char) : Option (List Char) :=
  match after? "className=".toList s with
  | some (c :: rest) => if isQuote c then some rest else none
  | _ => none

/-- The texts after each class attribute that starts before the first `>`, from left to right. -/
def classStarts : List Char → List (List Char)
  | [] => []
  | c :: s =>
    if c == '>' then []
    else match classStart? (c :: s) with
      | some rest => rest :: classStarts s
      | none => classStarts s

/-- The text after the first `>`. -/
def afterTag? (s : List Char) : Option (List Char) :=
  match s.dropWhile (· != '>') with
  | [] => none
  | _ :: rest => some rest

/-- A class list up to its closing quote and the text after the opening tag. -/
def classesAndBody? (s : List Char) : Option (List Char × List Char) :=
  match s.dropWhile (!isQuote ·) with
  | [] => none
  | _ :: rest => (afterTag? rest).map fun body => (s.takeWhile (!isQuote ·), body)

/-- The classes and the content of an element whose opening tag goes on here and which ends at
`close`. Of several class attributes the last one that completes the element counts. -/
def classedContent? (close : List Char) : Recogniser (List Char × List Char) := fun s =>
  (classStarts s).reverse.findSome? fun start => do
    let (classes, body) ← classesAndBody? start
    let (content, rest) ← cut? close body
    some ((classes, content), rest)

/-- A section: its classes and its content. -/
def section? : Recogniser (List Char × List Char) := fun s => do
  classedContent? "</section>".toList (← after? "<section".toList s)

/-- A heading: its level, its classes and its content. -/
def heading? : Recogniser (Char × List Char × List Char) := fun s => do
  match ← after? "<h".toList s with
  | level :: rest =>
    if '1' ≤ level && level ≤ '6' then
      let (found, rest) ← classedContent? ("</h".toList ++ [level, '>']) rest
      some ((level, found), rest)
    else none
  | [] => none

/-- A paragraph: its classes and its content. -/
def paragraph? : Recogniser (List Char × List Char) := fun s => do
  classedContent? "</p>".toList (← after? "<p".toList s)

/-- A button: its content. -/
def button? : Recogniser (List Char) := fun s => do
  let body ← afterTag? (← after? "<Button".toList s)
  cut? "</Button>".toList body

/-- The rest after a span that starts with `opening` and ends at the next `closing`, at least one
character being between them. -/
def span? (opening closing : Char) (s : List Char) : Option (List Char) :=
  match s with
  | c :: rest =>
    if c == opening then
      match rest.dropWhile (· != closing) with
      | [] => none
      | _ :: after => if rest.head? == some closing then none else some after
    else none
  | [] => none

/-- Markup without tags and without white space at its ends. -/
def stripTags (markup : List Char) : List Char :=
  Text.trim (Text.erase (span? '<' '>') markup)

/-- Component markup as plain markup: interpolations go, attributes and empty elements are spelled the
plain way. -/
def cleanMarkup (markup : List Char) : List Char :=
  let markup := Text.erase (span? '\x7b' '\x7d') markup
  let markup := Text.replace "className=".toList "class=".toList markup
  Text.replace "/>".toList ">".toList markup

end Pagewright.Page
