import Pagewright.Text.CaseTable
import Pagewright.Text.Class

/-!
Lower, upper and title case of Unicode text by the full case mappings, under which a character may
become several. The capital sigma is the one letter whose lower case depends on its neighbours: it is
written in its final form after a cased letter and before none.
-/

namespace Pagewright.Text

/-- The partner of a code point in a table of runs. -/
def casePartner? (runs : List CaseRun) (n : Nat) : Option Nat :=
  (runs.find? fun r => r.first ≤ n && n ≤ r.last && (n - r.first) % r.step == 0).map
    fun r => r.target + (n - r.first)

def lowerChar (c : Char) : List Char :=
  let n := c.toNat
  if n < 128 then [c.toLower]
  else if n == 0x130 then ['i', Char.ofNat 0x307]
  else [((casePartner? lowerRuns n).map Char.ofNat).getD c]

def upperChar (c : Char) : List Char :=
  let n := c.toNat
  if n < 128 then [c.toUpper]
  else match upperExpansions.lookup n with
    | some expansion => expansion.map Char.ofNat
    | none => [((casePartner? upperRuns n).map Char.ofNat).getD c]

def titleChar (c : Char) : List Char :=
  let n := c.toNat
  if n < 128 then [c.toUpper]
  else match titleExpansions.lookup n with
    | some expansion => expansion.map Char.ofNat
    | none => match casePartner? titleRuns n with
      | some partner => [Char.ofNat partner]
      | none => upperChar c

def isCaseIgnorable (c : Char) : Bool := inRanges caseIgnorableRanges c.toNat

def isCased (c : Char) : Bool :=
  if c.toNat < 128 then c.isAlpha else inRanges casedRanges c.toNat

/-- Whether a cased letter comes next, skipped characters aside. -/
def startsCased (s : List Char) : Bool :=
  match s.dropWhile isCaseIgnorable with
  | [] => false
  | c :: _ => isCased c

/-- Lower case of a text that follows a cased letter or does not. -/
def lowerFrom (afterCased : Bool) : List Char → List Char
  | [] => []
  | c :: rest =>
    let lowered :=
      if c == 'Σ' then [if afterCased && !startsCased rest then 'ς' else 'σ'] else lowerChar c
    lowered ++ lowerFrom (if isCaseIgnorable c then afterCased else isCased c) rest

/-- Lower case of a text. -/
def lower (s : List Char) : List Char := lowerFrom false s

/-- Upper case of a text. -/
def upper (s : List Char) : List Char := s.flatMap upperChar

/-- Title case of the first character and lower case of the others. -/
def capitalize : List Char → List Char
  | [] => []
  | c :: rest =>
    titleChar c ++ lowerFrom (if isCaseIgnorable c then false else isCased c) rest

/-- Lower case of a string. -/
def lowerString (s : String) : String := String.ofList (lower s.toList)

end Pagewright.Text
