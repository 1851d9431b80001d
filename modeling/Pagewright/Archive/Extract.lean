import Pagewright.Archive.Format
import Pagewright.Files.Tree

/-!
Unpacking an archive into a directory. A member whose name leads out of the directory is skipped. Any
other member is written below the directory at its name without empty components and dots, so that
nothing outside the directory changes. Of members with one place the last one counts.
-/

namespace Pagewright.Archive

/-- The absolute place of a path, double dots being taken back without a look at the files. -/
def placeOf (files : FileTree) (p : Path) : Place :=
  Path.normalize ((if p.isAbsolute then [] else files.current) ++ p.parts)

/-- Whether a member name, seen from a directory, leads to the directory or below it. -/
def staysInside (files : FileTree) (directory : Path) (name : String) : Bool :=
  (placeOf files directory).isPrefixOf (placeOf files (directory / name))

/-- The components of a member name that count when it is written. -/
def nameParts (name : String) : List String :=
  ((Text.splitOn '/' name.toList).map String.ofList).filter fun part =>
    part != "" && part != "." && part != ".."

/-- Where a member is written. -/
def targetOf (directory : Path) (m : Member) : Path :=
  ⟨directory.slashes, directory.parts ++ nameParts m.name⟩

/-- Whether something stands at a path; a path that cannot be looked at counts as free. -/
def taken (files : FileTree) (p : Path) : Bool :=
  match files.exists? p with
  | .ok found => found
  | .error _ => false

/-- Files with a directory and what is missing above it, from the top down; `fuel` bounds the number of
levels. -/
def makeMissing : Nat → FileTree → Path → Except Fault FileTree
  | 0, files, p => files.makeDirectory p
  | fuel + 1, files, p => do
    let files ← if taken files p.parent then .ok files else makeMissing fuel files p.parent
    files.makeDirectory p

/-- Files with a member that is a directory. -/
def writeDirectory (files : FileTree) (target : Path) : Except Fault FileTree :=
  match files.isDirectory target with
  | .ok true => .ok files
  | _ => files.makeDirectory target

/-- Files with a member below a directory. -/
def writeMember (files : FileTree) (directory : Path) (m : Member) : Except String FileTree := do
  let target := targetOf directory m
  let upper := if nameParts m.name == [] then directory else target.parent
  let files ← (if taken files upper then .ok files
    else makeMissing upper.parts.length files upper).mapError Fault.message
  if m.isDirectory then (writeDirectory files target).mapError Fault.message
  else
    let opened ← (files.write target (.bytes ByteArray.empty)).mapError Fault.message
    let data ← m.data
    (opened.write target (.bytes data)).mapError Fault.message

/-- Files with the members of an archive below a directory. -/
def extractMembers (files : FileTree) (directory : Path) (members : List Member) :
    Except String FileTree :=
  members.foldlM (fun files m =>
    if staysInside files directory m.name then writeMember files directory m else .ok files) files

/-- Files with an archive unpacked into a directory. -/
def extract (files : FileTree) (directory : Path) (data : ByteArray) : Except String FileTree := do
  extractMembers files directory (← unpack data)

end Pagewright.Archive
