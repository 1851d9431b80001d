import Pagewright.Files.Content
import Pagewright.Path

/-!
A tree of files and directories. Entries are listed under their place, which is the list of components
from the root; the root itself is always a directory. A path is resolved component by component, and
every component that is passed has to be a directory, whatever double dots do after it. Operations
refuse with the fault and the path they were given.
-/

namespace Pagewright

/-- Components from the root to an entry. -/
abbrev Place := List String

/-- What stands at a place. -/
inductive Entry where
  | directory
  | file (content : Content)

def Entry.isDirectory : Entry → Bool
  | .directory => true
  | .file _ => false

def Entry.isFile : Entry → Bool
  | .directory => false
  | .file _ => true

/-- Files and directories, and the directory from which relative paths are seen. -/
structure FileTree where
  entries : List (Place × Entry)
  current : Place

namespace FileTree

/-- The tree without entries. -/
def empty : FileTree := ⟨[], []⟩

/-- What stands at a place. -/
def find? (t : FileTree) (place : Place) : Option Entry :=
  if place.isEmpty then some .directory else t.entries.lookup place

/-- Entries with one put at a place. -/
def putEntry (place : Place) (entry : Entry) : List (Place × Entry) → List (Place × Entry)
  | [] => [(place, entry)]
  | other :: rest =>
    if other.1 == place then (place, entry) :: rest else other :: putEntry place entry rest

/-- A tree with an entry at a place. -/
def put (t : FileTree) (place : Place) (entry : Entry) : FileTree :=
  { t with entries := putEntry place entry t.entries }

/-- A tree without the entries at the places for which a condition holds. -/
def removeWhere (t : FileTree) (condition : Place → Bool) : FileTree :=
  { t with entries := t.entries.filter fun e => !condition e.1 }

/-- Whether a place lies below another one. -/
def isBelow (above place : Place) : Bool := above.isPrefixOf place && above != place

/-- The longest name in bytes. -/
def maxName : Nat := 255

/-- The place that is reached from a place by components. -/
def resolve (t : FileTree) : Place → List String → Except FileFault Place
  | here, [] => .ok here
  | here, part :: rest => match t.find? here with
    | none => .error .notFound
    | some (.file _) => .error .notDirectory
    | some .directory =>
      if maxName < part.utf8ByteSize then .error .nameTooLong
      else if part == ".." then t.resolve here.dropLast rest
      else t.resolve (here ++ [part]) rest

/-- The place of a path. -/
def locate (t : FileTree) (p : Path) : Except Fault Place :=
  if p.parts.any (·.contains (Char.ofNat 0)) then .error (.badValue "embedded null byte")
  else (t.resolve (if p.isAbsolute then [] else t.current) p.parts).mapError (Fault.file · p.text)

/-- What stands at a path, if anything does; only a name beyond all bounds is refused. -/
def look (t : FileTree) (p : Path) : Except Fault (Option Entry) :=
  match t.locate p with
  | .ok place => .ok (t.find? place)
  | .error (.file .nameTooLong path) => .error (.file .nameTooLong path)
  | .error _ => .ok none

def isFile (t : FileTree) (p : Path) : Except Fault Bool := do
  return (← t.look p).any Entry.isFile

def isDirectory (t : FileTree) (p : Path) : Except Fault Bool := do
  return (← t.look p).any Entry.isDirectory

def exists? (t : FileTree) (p : Path) : Except Fault Bool := do
  return (← t.look p).isSome

/-- The content of a file. -/
def read (t : FileTree) (p : Path) : Except Fault Content := do
  match t.find? (← t.locate p) with
  | some (.file content) => return content
  | some .directory => throw (.file .isDirectory p.text)
  | none => throw (.file .notFound p.text)

/-- A tree in which a file has the given content. -/
def write (t : FileTree) (p : Path) (content : Content) : Except Fault FileTree := do
  let place ← t.locate p
  match t.find? place with
  | some .directory => throw (.file .isDirectory p.text)
  | _ => return t.put place (.file content)

/-- A tree with one more directory; a path without components makes none. -/
def makeDirectory (t : FileTree) (p : Path) : Except Fault FileTree := do
  let place ← t.locate p
  match t.find? place with
  | some _ => throw (.file .exists p.text)
  | none =>
    if p.parts.isEmpty then throw (.file .notFound p.text) else return t.put place .directory

/-- A tree with a directory and what is missing above it; `fuel` bounds the number of levels. -/
def makeDirectoriesWithin : Nat → FileTree → Path → Except Fault FileTree
  | 0, _, p => .error (.file .notFound p.text)
  | fuel + 1, t, p => match t.makeDirectory p with
    | .ok t => .ok t
    | .error (.file .notFound path) =>
      if p.parts.isEmpty then .error (.file .notFound path)
      else do
        let t ← makeDirectoriesWithin fuel t p.parent
        match t.makeDirectory p with
        | .ok t => return t
        | .error fault => if ← t.isDirectory p then return t else throw fault
    | .error fault => do if ← t.isDirectory p then return t else throw fault

/-- A tree with a directory and what is missing above it. -/
def makeDirectories (t : FileTree) (p : Path) : Except Fault FileTree :=
  makeDirectoriesWithin (p.parts.length + 1) t p

/-- A tree without a file; a file that is missing already is fine. -/
def unlink (t : FileTree) (p : Path) : Except Fault FileTree := do
  match t.locate p with
  | .error (.file .notFound _) => return t
  | .error fault => throw fault
  | .ok place => match t.find? place with
    | none => return t
    | some .directory => throw (.file .isDirectory p.text)
    | some (.file _) => return t.removeWhere (· == place)

/-- A tree without a directory and everything below it. A path that ends in double dots loses what is
below it but stays. -/
def removeTree (t : FileTree) (p : Path) : FileTree :=
  match t.locate p with
  | .error _ => t
  | .ok place => match t.find? place with
    | some .directory =>
      if p.name == ".." then t.removeWhere (isBelow place)
      else t.removeWhere (place.isPrefixOf ·)
    | _ => t

/-- A tree with the content of one file in another one. -/
def copy (t : FileTree) (source target : Path) : Except Fault FileTree := do
  t.write target (← t.read source)

/-- The places directly below a place, with what stands there. -/
def childrenAt (t : FileTree) (place : Place) : List (Place × Entry) :=
  t.entries.filter fun e => !e.1.isEmpty && e.1.dropLast == place

/-- The entries of a directory as paths. -/
def children (t : FileTree) (p : Path) : Except Fault (List (Path × Entry)) := do
  let place ← t.locate p
  match t.find? place with
  | some .directory =>
    return (t.childrenAt place).map fun e => (p.child (e.1.getLast?.getD ""), e.2)
  | some (.file _) => throw (.file .notDirectory p.text)
  | none => throw (.file .notFound p.text)

/-- Everything below a directory as paths in order; nothing where there is no directory. -/
def descendants (t : FileTree) (p : Path) : Except Fault (List (Path × Entry)) := do
  match t.locate p with
  | .error (.file .nameTooLong path) => throw (.file .nameTooLong path)
  | .error _ => return []
  | .ok place => match t.find? place with
    | some .directory =>
      let below := t.entries.filter fun e => isBelow place e.1
      let found := below.map fun e =>
        ((⟨p.slashes, p.parts ++ e.1.drop place.length⟩ : Path), e.2)
      return found.mergeSort fun a b => Path.le a.1 b.1
    | _ => return []

/-- The entries of a directory whose names end as given; nothing where there is no directory. -/
def childrenEnding (t : FileTree) (p : Path) (ending : String) : Except Fault (List Path) := do
  if !(← t.isDirectory p) then return []
  let found := (← t.children p).map (·.1)
  return found.filter fun child => child.name.endsWith ending

/-- A place as an absolute path. -/
def pathOf (place : Place) : Path := ⟨1, place⟩

/-- The directory from which relative paths are seen. -/
def currentPath (t : FileTree) : Path := pathOf t.current

theorem lookup_putEntry_self (place : Place) (entry : Entry) (entries : List (Place × Entry)) :
    (putEntry place entry entries).lookup place = some entry := by
  induction entries with
  | nil => simp [putEntry]
  | cons first rest ih =>
    obtain ⟨other, old⟩ := first
    by_cases h : other = place
    · simp [putEntry, h]
    · have h' : (place == other) = false := by simp [Ne.symm h]
      simp [putEntry, h, List.lookup_cons, h', ih]

theorem lookup_putEntry_of_ne {place other : Place} (entry : Entry)
    (entries : List (Place × Entry)) (h : other ≠ place) :
    (putEntry place entry entries).lookup other = entries.lookup other := by
  induction entries with
  | nil =>
    have h' : (other == place) = false := by simp [h]
    simp [putEntry, List.lookup_cons, h']
  | cons first rest ih =>
    obtain ⟨name, old⟩ := first
    by_cases e : name = place
    · have h' : (other == place) = false := by simp [h]
      simp [putEntry, e, List.lookup_cons, h']
    · simp only [putEntry, beq_iff_eq, e, if_false, List.lookup_cons]
      split <;> simp_all

/-- What was put at a place stands there. -/
theorem find?_put_self (t : FileTree) {place : Place} (entry : Entry) (h : place ≠ []) :
    (t.put place entry).find? place = some entry := by
  simp [find?, put, h, lookup_putEntry_self]

/-- Putting an entry at a place changes no other place. -/
theorem find?_put_of_ne (t : FileTree) {place other : Place} (entry : Entry) (h : other ≠ place) :
    (t.put place entry).find? other = t.find? other := by
  simp [find?, put, lookup_putEntry_of_ne entry t.entries h]

end FileTree

end Pagewright
