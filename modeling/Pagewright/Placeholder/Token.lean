import Pagewright.Failure
import Pagewright.Text.Scan

/-!
Placeholders `\x7b\x7bnamespace.field\x7d\x7d` in text. The namespace is written in lower-case ASCII letters, the
field in ASCII letters, digits, the low line and the hyphen.
-/

namespace Pagewright.Placeholder

/-- A placeholder. -/
structure Token where
  namespaceName : String
  field : String
deriving DecidableEq, Repr

def isNamespaceChar (c : Char) : Bool := 'a' ≤ c && c ≤ 'z'

def isFieldChar (c : Char) : Bool :=
  ('a' ≤ c && c ≤ 'z') || ('A' ≤ c && c ≤ 'Z') || ('0' ≤ c && c ≤ '9') || c == '_' || c == '-'

/-- The text of a placeholder. -/
def Token.text (token : Token) : List Char :=
  "\x7b\x7b".toList ++ token.namespaceName.toList ++ '.' :: token.field.toList ++ "\x7d\x7d".toList

/-- A placeholder at the start of a text. -/
def token? : Text.Recogniser Token := fun s => do
  let body ← Text.after? "\x7b\x7b".toList s
  let (space, rest) := body.span isNamespaceChar
  match rest with
  | '.' :: rest =>
    let (field, rest) := rest.span isFieldChar
    let rest ← Text.after? "\x7d\x7d".toList rest
    if space.isEmpty || field.isEmpty then none
    else some (⟨String.ofList space, String.ofList field⟩, rest)
  | _ => none

/-- A character or a placeholder of a text. -/
inductive Piece where
  | char (c : Char)
  | token (token : Token)
deriving DecidableEq, Repr

/-- Pieces from left to right; `fuel` bounds their number. -/
def piecesWithin : Nat → List Char → List Piece
  | 0, s => s.map .char
  | _ + 1, [] => []
  | fuel + 1, c :: s => match token? (c :: s) with
    | some (token, rest) => .token token :: piecesWithin fuel rest
    | none => .char c :: piecesWithin fuel s

/-- A text as its placeholders and the characters between them. -/
def pieces (s : List Char) : List Piece := piecesWithin s.length s

/-- The placeholders of a text in order of appearance. -/
def find (text : String) : List Token := Text.finds token? text.toList

/-- The first placeholder of a text. -/
def first? (text : String) : Option Token := Text.firstMatch? token? text.toList

end Pagewright.Placeholder
