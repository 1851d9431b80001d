import Pagewright.Console.Literal.Token

/-!
Which texts are literals: numbers with at most one sign, sums of a real and an imaginary number, texts,
bytes, the words for truth and for nothing, tuples, and sets and tables whose members and keys are no sets
or tables themselves.
-/

namespace Pagewright.Console.Literal

/-- What a literal is, as far as literals around it depend on it. -/
inductive Kind where
  | real (signed : Bool)
  | imaginary (signed : Bool)
  | constant
  /-- A literal that cannot be a member of a set, with the word for its kind. -/
  | changeable (kind : String)

/-- The refusal of an expression that is no literal. -/
def malformed : Refusal := .meaning "malformed node or string on line 1"

/-- A literal that has to be fit for a set or for a key. -/
def fixed (kind : Kind) : Except Refusal Unit :=
  match kind with
  | .changeable word => .error (.meaning s!"unhashable type: '{word}'")
  | _ => .ok ()

/-- A tuple of literals. -/
def tupleOf (kinds : List Kind) : Kind :=
  (kinds.find? fun
    | .changeable _ => true
    | _ => false).getD .constant

/-- A number with a sign before it. -/
def signed (kind : Kind) : Except Refusal Kind :=
  match kind with
  | .real false => .ok (.real true)
  | .imaginary false => .ok (.imaginary true)
  | _ => .error malformed

/-- The sum of two literals. -/
def sumOf (left right : Kind) : Except Refusal Kind :=
  match left, right with
  | .real _, .imaginary false => .ok .constant
  | _, _ => .error malformed

/-- The literal that a word is. -/
def wordKind (name : List Char) : Except Refusal Kind :=
  if ["True", "False", "None"].contains (String.ofList name) then .ok .constant
  else .error malformed

def isSign (c : Char) : Bool := c == '+' || c == '-'

mutual

/-- A literal without a sum; `fuel` bounds the steps. -/
def operand : Nat → List Token → Except Refusal (Kind × List Token)
  | 0, _ => .error invalid
  | fuel + 1, found =>
    match found with
    | .number true :: rest => .ok (.imaginary false, rest)
    | .number false :: rest => .ok (.real false, rest)
    | .ellipsis :: rest => .ok (.constant, rest)
    | .word ['s', 'e', 't'] :: .mark '(' :: .mark ')' :: rest => .ok (.changeable "set", rest)
    | .word name :: rest => do return (← wordKind name, rest)
    | .mark '(' :: .mark ')' :: rest => .ok (.constant, rest)
    | .mark '(' :: rest => do
      let (kinds, isTuple, rest) ← members fuel (.mark ')') rest
      match kinds, isTuple with
      | [kind], false => return (kind, rest)
      | kinds, _ => return (tupleOf kinds, rest)
    | .mark '\x7b' :: .mark '\x7d' :: rest => .ok (.changeable "dict", rest)
    | .mark '\x7b' :: rest => do
      let (first, afterFirst) ← sum fuel rest
      match afterFirst with
      | .mark ':' :: _ => return (.changeable "dict", ← pairs fuel rest)
      | _ =>
        let (kinds, _, rest) ← members fuel (.mark '\x7d') rest
        fixed first
        kinds.forM fixed
        return (.changeable "set", rest)
    | .mark c :: rest =>
      if isSign c then do
        let (kind, rest) ← operand fuel rest
        return (← signed kind, rest)
      else .error invalid
    | token :: rest =>
      if token == .text || token == .bytes then
        let after := rest.dropWhile (· == token)
        if after.head?.any fun t => t == .text || t == .bytes then
          .error (.grammar "cannot mix bytes and nonbytes literals")
        else .ok (.constant, after)
      else .error invalid
    | [] => .error invalid

/-- A literal. -/
def sum : Nat → List Token → Except Refusal (Kind × List Token)
  | 0, _ => .error invalid
  | fuel + 1, found => do
    let (left, rest) ← operand fuel found
    match rest with
    | .mark c :: more =>
      if isSign c then
        let (right, rest) ← operand fuel more
        return (← sumOf left right, rest)
      else return (left, rest)
    | rest => return (left, rest)

/-- Literals between commas up to a closing token, and whether there was a comma. -/
def members : Nat → Token → List Token → Except Refusal (List Kind × Bool × List Token)
  | 0, _, _ => .error invalid
  | fuel + 1, closing, found => do
    let (kind, rest) ← sum fuel found
    match rest with
    | .mark ',' :: rest =>
      if rest.head? == some closing then return ([kind], true, rest.drop 1)
      else
        let (kinds, _, rest) ← members fuel closing rest
        return (kind :: kinds, true, rest)
    | token :: rest => if token == closing then return ([kind], false, rest) else throw invalid
    | [] => throw invalid

/-- The entries of a table up to its closing brace. -/
def pairs : Nat → List Token → Except Refusal (List Token)
  | 0, _ => .error invalid
  | fuel + 1, found => do
    let (key, rest) ← sum fuel found
    match rest with
    | .mark ':' :: rest =>
      let (_, rest) ← sum fuel rest
      fixed key
      match rest with
      | .mark '\x7d' :: rest => return rest
      | .mark ',' :: .mark '\x7d' :: rest => return rest
      | .mark ',' :: rest => pairs fuel rest
      | _ => throw invalid
    | _ => throw invalid

end

/-- Nothing where a text is a literal, and else why it is none. -/
def refusal? (s : List Char) : Option Refusal :=
  match tokens (s.length + 1) [] s with
  | .error refusal => some refusal
  | .ok (found, opened) =>
    match members (3 * found.length + 3) .finish found, opened with
    | .ok _, _ => none
    | .error _, bracket :: _ => some (unclosed bracket)
    | .error refusal, [] => some refusal

end Pagewright.Console.Literal
