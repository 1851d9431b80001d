import Pagewright.Host.DocumentStore

/-!
Media libraries, which take the images of a project. The library kept here copies every file into a
directory under a new number and the name of the image.
-/

namespace Pagewright.Host

/-- A media library with a state. -/
structure MediaLibrary (σ : Type) where
  name : String
  add : (file : Path) → (name : Value) → σ → Except Failure String × σ

/-- A directory of media files. -/
structure MediaDirectory where
  root : Path

namespace MediaDirectory

/-- The media directory below a data directory. -/
def below (data : Path) : MediaDirectory := ⟨data / "media"⟩

/-- The part of a file name before its first hyphen. -/
def leadingPart (name : String) : String :=
  String.ofList (name.toList.takeWhile (· != '-'))

/-- The next number. -/
def nextId (d : MediaDirectory) (files : FileTree) : Except Fault String := do
  let found ← files.children d.root
  let numbers ← found.filterMapM fun entry =>
    DocumentDirectory.numberOf? (leadingPart entry.1.name)
  return toString (DocumentDirectory.largest numbers + 1)

/-- Where a file of a name is kept under a number. -/
def placeOf (d : MediaDirectory) (id : String) (name : Value) : Except Fault Path :=
  match name with
  | .str name => .ok (d.root / (id ++ "-" ++ (Path.ofText name).name))
  | v => .error (.wrongType s!"expected str, bytes or os.PathLike object, not {v.kindName}")

/-- Files with a copy of a file, and its number. -/
def copy (d : MediaDirectory) (file : Path) (name : Value) (files : FileTree) :
    Except Fault (String × FileTree) := do
  let files ← files.makeDirectories d.root
  let id ← d.nextId files
  return (id, ← files.copy file (← d.placeOf id name))

/-- A new media file; a refusal of the file system is reported as one of the library. -/
def add (d : MediaDirectory) (file : Path) (name : Value) (files : FileTree) :
    Except Failure String × FileTree :=
  match files.isFile file with
  | .error fault => (.error (.fault fault), files)
  | .ok false =>
    (.error (.collaborator s!"Media file not found: {file.text}" "directory" none []), files)
  | .ok true => match d.copy file name files with
    | .ok (id, files) => (.ok id, files)
    | .error fault =>
      let failure : Failure := if fault.isFile then
          .collaborator s!"Could not import '{name.text}'" "directory" (some fault) []
        else .fault fault
      (.error failure, files)

/-- The directory as a media library. -/
def library (d : MediaDirectory) : MediaLibrary FileTree := ⟨"directory", d.add⟩

/-- The names of all media files in order. -/
def list (d : MediaDirectory) (files : FileTree) : Except Fault (List String) := do
  if !(← files.isDirectory d.root) then return []
  let names := ((← files.children d.root).filter (·.2.isFile)).map (·.1.name)
  return names.mergeSort fun a b => a ≤ b

end MediaDirectory

end Pagewright.Host
