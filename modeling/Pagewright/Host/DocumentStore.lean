import Pagewright.Failure
import Pagewright.Files.Tree

/-!
Document stores, which take the finished pages. A store is an operation on a state that gives the id of
the new document or refuses. The store that comes with the library keeps every document as a JSON file
named by its number; a new document gets the number after the largest one.
-/

namespace Pagewright.Host

/-- A document to be stored. -/
structure NewDocument where
  title : Value
  content : List Value
  type : Value
  pageSettings : Table Value
  status : String

/-- A document store with a state. -/
structure DocumentStore (σ : Type) where
  name : String
  create : NewDocument → σ → Except Failure String × σ

/-- The version of the library, which stored documents carry. -/
def libraryVersion : String := "2.0.0"

/-- A directory of documents. -/
structure DocumentDirectory where
  root : Path
  /-- The time that new documents carry. -/
  stamp : String

namespace DocumentDirectory

/-- The document directory below a data directory. -/
def below (data : Path) (stamp : String) : DocumentDirectory := ⟨data / "documents", stamp⟩

def fileOf (d : DocumentDirectory) (id : String) : Path := d.root / (id ++ ".json")

/-- A document in its stored form. -/
def stored (d : DocumentDirectory) (document : NewDocument) : Value :=
  .object ([("title", document.title), ("type", document.type), ("status", .str document.status),
    ("edit_mode", .str "builder"), ("source", .str "lovable"), ("version", .str libraryVersion),
    ("created", .str d.stamp), ("content", .list document.content)]
    ++ (if document.pageSettings.isEmpty then [] else [("page_settings", .object document.pageSettings)]))

/-- The number that a text of digits writes, if it is one. -/
def numberOf? (text : String) : Except Fault (Option Int) :=
  if !text.isEmpty && text.toList.all Text.isDigitLike then some <$> (Value.str text).toInt
  else .ok none

/-- The largest number in use. -/
def largest (numbers : List Int) : Int :=
  match numbers with
  | [] => 0
  | first :: rest => rest.foldl max first

/-- The id of the next document. -/
def nextId (d : DocumentDirectory) (files : FileTree) : Except Fault String := do
  let found ← files.childrenEnding d.root ".json"
  let numbers ← found.filterMapM fun path => numberOf? path.stem
  return toString (largest numbers + 1)

/-- Files with a new document, and its id. -/
def write (d : DocumentDirectory) (document : NewDocument) (files : FileTree) :
    Except Fault (String × FileTree) := do
  let files ← files.makeDirectories d.root
  let id ← d.nextId files
  let content := Content.document (.json (.indented 2)) (d.stored document)
  return (id, ← files.write (d.fileOf id) content)

/-- A new document; a refusal of the file system is reported as one of the store. -/
def create (d : DocumentDirectory) (document : NewDocument) (files : FileTree) :
    Except Failure String × FileTree :=
  match d.write document files with
  | .ok (id, files) => (.ok id, files)
  | .error fault =>
    let failure : Failure := if fault.isFile then
        .collaborator s!"Could not write document '{document.title.text}'" "json" (some fault) []
      else .fault fault
    (.error failure, files)

/-- The directory as a document store. -/
def store (d : DocumentDirectory) : DocumentStore FileTree := ⟨"json", d.create⟩

/-- A stored document. -/
def read (d : DocumentDirectory) (files : FileTree) (id : String) : Except Failure Value := do
  let path := d.fileOf id
  if !(← files.isFile path) then throw (.notFound "document" id [])
  return ← (← files.read path).json

/-- The entry of a document in a list. -/
def listEntry (files : FileTree) (path : Path) : Except Fault Value := do
  let data ← (← files.read path).json
  let title ← data.findD "title" (.str "")
  let type ← data.findD "type" (.str "")
  return .object [("id", .str path.stem), ("title", title), ("type", type)]

/-- All stored documents by number; those without a number come first. -/
def list (d : DocumentDirectory) (files : FileTree) : Except Failure (List Value) := do
  let found := (← files.childrenEnding d.root ".json").mergeSort Path.le
  let numbered ← found.mapM fun path => do return (((← numberOf? path.stem).getD 0), path)
  let ordered := numbered.mergeSort fun a b => a.1 ≤ b.1
  ordered.mapM fun (_, path) => do return ← listEntry files path

end DocumentDirectory

end Pagewright.Host
