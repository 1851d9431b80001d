import Pagewright.Console.EmojiTable
import Pagewright.Console.Literal.Accept
import Pagewright.Console.StyleName
import Pagewright.Table
import Pagewright.Text.Case
import Pagewright.Text.Scan

/-!
Console markup. Tags in square brackets start and end styles and show nothing themselves; a tag starts
with a lower-case ASCII letter, a number sign, a slash or an at sign. A backslash before a tag makes it
text. A closing tag has to close a style that is open, by its name in normal form or, without a name, the
latest. A tag with an at sign is an action, whose parameters are a name with literals or one literal. Emoji
codes are replaced in the text between tags: a code is a name between two colons, without white space or a
colon in it; a hyphen and the word `emoji` or `text` after the name ask for the colorful or the plain form of
the character. Codes of unknown names stay as they are.
-/

namespace Pagewright.Console

/-- Names and characters in turn as the entries of a table. -/
def emojiEntries : List (List Char) → Table (List Char)
  | name :: emoji :: rest => (String.ofList name, emoji) :: emojiEntries rest
  | _ => []

/-- The emoji by name. -/
def emojis : Table (List Char) := emojiEntries (Text.words emojiText.toList)

/-- The selectors of a form by the words that ask for them. -/
def formSelectors : List (List Char × Char) :=
  [("-emoji".toList, Char.ofNat 0xfe0f), ("-text".toList, Char.ofNat 0xfe0e)]

/-- A name without the word for a form, and the selector of the form. -/
def formOf (name : List Char) : List Char × List Char :=
  match formSelectors.find? fun form => Text.endsWith form.1 name with
  | some (word, selector) => (name.take (name.length - word.length), [selector])
  | none => (name, [])

/-- The emoji of a name with the word for a form. -/
def emojiNamed? (name : List Char) : Option (List Char) :=
  let (name, selector) := formOf name
  (emojis.get? (String.ofList (Text.lower name))).map (· ++ selector)

/-- The code at the start of a text as it is shown. -/
def emojiCode? : Text.Recogniser (List Char)
  | ':' :: s => match s.span fun c => c != ':' && !Text.isBlank c with
    | (name, ':' :: rest) => some ((emojiNamed? name).getD (':' :: name ++ [':']), rest)
    | _ => none
  | _ => none

/-- A text with its emoji codes replaced. -/
def replaceEmoji (s : List Char) : List Char := Text.substitute emojiCode? s

/-- A piece of markup: a run of text that shows, or a tag. -/
inductive MarkupPiece where
  | run (text : List Char)
  /-- The text between the brackets of a tag and its offset in the markup. -/
  | tag (body : List Char) (offset : Nat)

def startsTag (c : Char) : Bool :=
  ('a' ≤ c && c ≤ 'z') || c == '#' || c == '/' || c == '@'

/-- The body of a tag at the start of a text: up to the first closing bracket, with no opening bracket
before it. -/
def tagBody? : List Char → Option (List Char × List Char)
  | '[' :: c :: rest =>
    if !startsTag c then none
    else
      let (body, rest) := rest.span fun d => d != '[' && d != ']'
      match rest with
      | ']' :: rest => some (c :: body, rest)
      | _ => none
  | _ => none

/-- Pieces with text before them, in the run that they start with if there is one. -/
def putBefore (text : List Char) : List MarkupPiece → List MarkupPiece
  | .run rest :: pieces => .run (text ++ rest) :: pieces
  | pieces => .run text :: pieces

/-- The pieces of a markup of which `offset` characters stand before. An escaped tag and the backslashes
before it are runs of their own; before any other bracket one backslash is dropped. `fuel` bounds the number
of steps. -/
def markupPieces : Nat → Nat → List Char → List MarkupPiece
  | 0, _, s => [.run s]
  | fuel + 1, offset, s =>
    let (slashes, rest) := s.span (· == '\\')
    let count := slashes.length
    match tagBody? rest, rest with
    | some (body, after), _ =>
      let found := if count % 2 == 1 then MarkupPiece.run ('[' :: body ++ [']'])
        else .tag body (offset + count)
      .run [] :: .run (List.replicate (count / 2) '\\') :: found
        :: markupPieces fuel (offset + count + body.length + 2) after
    | none, '[' :: rest =>
      putBefore (slashes.drop 1 ++ ['[']) (markupPieces fuel (offset + count + 1) rest)
    | none, c :: rest => putBefore (slashes ++ [c]) (markupPieces fuel (offset + count + 1) rest)
    | none, [] => if slashes.isEmpty then [] else [.run slashes]

/-- A style that is open. -/
structure OpenStyle where
  /-- The normal form of its name. -/
  name : List Char
  /-- What stands after the equals sign of the tag. -/
  parameters : Option (List Char)

/-- A closing tag that closes nothing. -/
def unmatched (body : List Char) (offset : Nat) : Fault :=
  .badMarkup ("closing tag '[" ++ String.ofList body
    ++ s!"]' at position {offset} doesn't match any open tag")

/-- The latest open style of a name, and the other open ones. -/
def closeStyle? (name : List Char) : List OpenStyle → Option (OpenStyle × List OpenStyle)
  | [] => none
  | first :: rest =>
    if first.name == name then some (first, rest)
    else (closeStyle? name rest).map fun (closed, others) => (closed, first :: others)

/-- The literal in the parameters of an action: what stands in parentheses after a name, the empty tuple
after a name alone, and else all. -/
def actionLiteral (parameters : List Char) : List Char :=
  match parameters.dropWhile fun c => Text.isWord c || c == '.' with
  | [] => "()".toList
  | rest =>
    let isCall := rest.head? == some '(' && rest.getLast? == some ')' && !rest.contains '\n'
    if isCall then rest else parameters

/-- The fault of an action whose parameters are no literal. -/
def actionFault? (style : OpenStyle) : Option Fault := do
  let given ← style.parameters
  if style.name.head? != some '@' || given.isEmpty then none
  else
    let literal := actionLiteral (Text.trim given)
    let shown (s : List Char) : String := Text.displayed (String.ofList s)
    match ← Literal.refusal? literal with
    | .grammar text => some (.badMarkup s!"error parsing {shown literal} in {shown given}; {text}")
    | .meaning text => some (.badMarkup s!"error parsing {shown given}; {text}")

/-- The end of a style that is open. -/
def endStyle (style : OpenStyle) : Except Fault Unit :=
  match actionFault? style with
  | some fault => .error fault
  | none => .ok ()

/-- Characters that a console does not show. -/
def isDropped (c : Char) : Bool := [7, 8, 11, 12, 13].contains c.toNat

/-- The text that a run shows. -/
def showRun (text : List Char) : List Char := (replaceEmoji text).filter (!isDropped ·)

/-- The text that pieces show while the given styles are open, the latest first. -/
def showPieces : List OpenStyle → List MarkupPiece → Except Fault (List Char)
  | _, [] => .ok []
  | opened, .run text :: rest => do return showRun text ++ (← showPieces opened rest)
  | opened, .tag body offset :: rest => do
    let (name, equals) := body.span (· != '=')
    match name with
    | '/' :: closing =>
      let closing := Text.trim closing
      if closing.isEmpty then
        match opened with
        | style :: opened =>
          endStyle style
          showPieces opened rest
        | [] => .error (.badMarkup s!"closing tag '[/]' at position {offset} has nothing to close")
      else match closeStyle? (← normalStyleName closing) opened with
        | some (style, opened) =>
          endStyle style
          showPieces opened rest
        | none => .error (unmatched body offset)
    | name =>
      let style : OpenStyle :=
        ⟨← normalStyleName name, if equals.isEmpty then none else some (equals.drop 1)⟩
      showPieces (style :: opened) rest

/-- The text that markup shows. -/
def render (markup : String) : Except Fault String := do
  let s := markup.toList
  return String.ofList (← showPieces [] (markupPieces s.length 0 s))

/-- Text that markup shows as it is. -/
theorem showPieces_run (opened : List OpenStyle) (s : List Char) :
    showPieces opened [.run s] = .ok (showRun s) := by
  simp [showPieces, bind, Except.bind, pure, Except.pure]

end Pagewright.Console
