import Pagewright.Failure
import Pagewright.Files.Tree
import Pagewright.Project.Codec

/-!
Custom fields. A field source gives the value of a field for a content item; a field description tells
its name, label and type. Of the providers that come with the library one knows no fields; the other one
reads a YAML file with the field values of every content item and the fields of every content type. It keeps
what it has read.
-/

namespace Pagewright.Fields

/-- A custom field of a content type. -/
structure FieldInfo where
  name : String
  label : String
  type : String

/-- A field in its stored form; a field without label is labelled by its name. -/
def FieldInfo.toValue (info : FieldInfo) : Value :=
  .object [("name", .str info.name), ("label", .str (if info.label.isEmpty then info.name else info.label)),
    ("type", .str info.type)]

def FieldInfo.read (data : Value) : Except Fault FieldInfo := do
  let name ← data.member "name"
  let label ← data.findD "label" (.str "")
  return ⟨name.text, label.text, (← data.findD "type" (.str "text")).text⟩

/-- Where the values of custom fields come from. -/
structure FieldSource where
  name : String
  /-- The value of a field for a content item. -/
  value : (field context : String) → Except Failure Value

/-- The source that knows no fields. -/
def FieldSource.none : FieldSource := ⟨"null", fun _ _ => .ok .null⟩

/-- The namespaces of placeholders whose values come from field sources. -/
def namespaces : List String := ["acf", "jet", "mb"]

inductive Provider where
  | none
  /-- Fields in a file, with its value once it has been read. -/
  | file (path : Path) (data : Option Value)

namespace Provider

def name : Provider → String
  | .none => "null"
  | .file .. => "meta"

/-- The value of a field file; a missing or blank one is an empty object. -/
def readFile (files : FileTree) (path : Path) : Except Failure Value := do
  if !(← files.isFile path) then return .object []
  let text ← (← files.read path).yaml.mapError fun
    | .notYaml message => .malformedInput .grammar path.text (.decoder message)
    | fault => .fault fault
  return text.orElse (.object [])

/-- The field data of a provider. -/
def data (files : FileTree) : Provider → Except Failure Value
  | .none => .ok (.object [])
  | .file _ (some data) => .ok data
  | .file path Option.none => readFile files path

/-- A provider that has read its file, if the file can be read. -/
def loaded (files : FileTree) (provider : Provider) : Provider :=
  match provider with
  | .none => .none
  | .file path known => match provider.data files with
    | .ok data => .file path (some data)
    | .error _ => .file path known

/-- The fields of a content item; those of an unknown one are none. -/
def contextOf (data : Value) (context : String) : Except Fault Value := do
  let contexts ← (← data.findD "contexts" .null).orElse (.object []) |>.fieldsFor "items"
  return ((contexts.get? context).map fun v => v.orElse (.object [])).getD (.object [])

/-- The value of a field for a content item. -/
def value (files : FileTree) (provider : Provider) (field context : String) :
    Except Failure Value :=
  match provider with
  | .none => .ok .null
  | provider => do
    let data ← provider.data files
    let fields ← contextOf data context
    return ← fields.findD field .null

/-- The texts of a list in order; anything but text cannot be put in order. -/
def sortedTexts (items : List Value) : Except Fault (List String) := do
  let texts ← items.mapM fun
    | .str s => .ok s
    | _ => .error (.wrongType "'<' not supported between instances")
  return texts.mergeSort fun a b => a ≤ b

/-- The fields of a content type. -/
def listFields (files : FileTree) (provider : Provider) (contentType : String) :
    Except Failure (List FieldInfo) :=
  match provider with
  | .none => .ok []
  | provider => do
    let data ← provider.data files
    let types := (← data.findD "content_types" .null).orElse (.object [])
    match ← Project.namedField types contentType with
    | some entries => (← (entries.orElse (.list [])).items).mapM fun entry => FieldInfo.read entry
    | Option.none => throw (.notFound "content type" contentType (← sortedTexts (← types.items)))

/-- A provider as the source of its values. -/
def source (files : FileTree) (provider : Provider) : FieldSource :=
  ⟨provider.name, provider.value files⟩

end Provider

end Pagewright.Fields
