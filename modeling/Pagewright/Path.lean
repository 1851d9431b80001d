import Pagewright.Text.Case
import Pagewright.Text.Scan

/-!
File paths as text: components between slashes. Empty components and single dots are dropped, double
dots are kept, and exactly two slashes at the start differ from one. A file name splits into a stem and
a suffix at its last dot, unless the dot is its first or last character.
-/

namespace Pagewright

/-- A path: the number of slashes at its start (none, one or two) and its components. -/
structure Path where
  slashes : Nat
  parts : List String
deriving DecidableEq, Repr

namespace Path

/-- The components of a path text that count. -/
def componentsOf (s : List Char) : List String :=
  ((Text.splitOn '/' s).filter fun part => !part.isEmpty && part != ['.']).map String.ofList

/-- The path that a text writes. -/
def ofText (text : String) : Path :=
  let s := text.toList
  let slashes := (s.takeWhile (· == '/')).length
  ⟨if slashes == 0 then 0 else if slashes == 2 then 2 else 1, componentsOf s⟩

/-- A path in its one written form. -/
def text (p : Path) : String :=
  if p.slashes == 0 && p.parts.isEmpty then "."
  else String.ofList (List.replicate p.slashes '/') ++ "/".intercalate p.parts

def isAbsolute (p : Path) : Bool := p.slashes != 0

/-- A path seen from another one; an absolute path is seen as itself. -/
def append (base p : Path) : Path :=
  if p.isAbsolute then p else ⟨base.slashes, base.parts ++ p.parts⟩

instance : HDiv Path String Path := ⟨fun base text => base.append (ofText text)⟩

/-- The path of an entry of a directory. -/
def child (p : Path) (name : String) : Path := ⟨p.slashes, p.parts ++ [name]⟩

/-- The path without its last component. -/
def parent (p : Path) : Path := ⟨p.slashes, p.parts.dropLast⟩

/-- The last component. -/
def name (p : Path) : String := p.parts.getLast?.getD ""

/-- A file name as its stem and its suffix, the dot being part of the suffix. -/
def splitName (name : String) : String × String :=
  let reversed := name.toList.reverse
  let ending := reversed.takeWhile (· != '.')
  match reversed.dropWhile (· != '.') with
  | _ :: stem =>
    if stem.isEmpty || ending.isEmpty then (name, "")
    else (String.ofList stem.reverse, String.ofList ('.' :: ending.reverse))
  | [] => (name, "")

def stem (p : Path) : String := (splitName p.name).1

def suffix (p : Path) : String := (splitName p.name).2

/-- The suffix in lower case. -/
def lowerSuffix (p : Path) : String := Text.lowerString p.suffix

/-- The suffix in lower case without its dots. -/
def fileType (p : Path) : String :=
  String.ofList (p.lowerSuffix.toList.dropWhile (· == '.'))

/-- The components after double dots have taken back the component before them. -/
def normalize (parts : List String) : List String :=
  (parts.foldl (fun (stack : List String) part =>
    if part == ".." then stack.tail else part :: stack) []).reverse

/-- Order of paths, component by component. -/
def le (a b : Path) : Bool := compareLex a.parts b.parts
where
  compareLex : List String → List String → Bool
  | [], _ => true
  | _ :: _, [] => false
  | x :: xs, y :: ys => if x == y then compareLex xs ys else decide (x < y)

end Path

end Pagewright
