import Pagewright.Failure
import Pagewright.Files.Tree

/-!
Signatures of functionalities: the patterns by which a functionality is spotted in a project and the
candidates that can replace it. A table of signatures is read entry by entry; an entry that is malformed
is passed over and does not touch the others.
-/

namespace Pagewright.Detection

/-- A component that can replace a functionality. -/
structure Candidate where
  slug : String
  name : Value
  provider : Value
  /-- Whether the candidate comes with the page builder or is a plugin. -/
  type : Value
  pricing : Value
  /-- How well the candidate fits, usually from 0 to 100. -/
  compatibility : Int
  features : List Value
  method : Value
  /-- Whether the host has the candidate; known only when it is asked for. -/
  installed : Bool
  /-- Whether the candidate is switched on; known only when it is asked for. -/
  active : Bool

def genericConversion : String := "generic_conversion"

namespace Candidate

def isNative (c : Candidate) : Bool := c.type.isText "native"

/-- A candidate with its state on the host. -/
def withStatus (c : Candidate) (installed active : Bool) : Candidate := { c with installed, active }

def toValue (c : Candidate) : Value :=
  .object [("slug", .str c.slug), ("name", c.name), ("provider", c.provider), ("type", c.type),
    ("pricing", c.pricing), ("compatibility", .int c.compatibility), ("features", .list c.features),
    ("conversion_method", c.method), ("installed", .bool c.installed), ("active", .bool c.active)]

/-- A candidate from its stored form, which has no state. -/
def read (data : Value) : Except Fault Candidate := do
  let slug ← data.member "slug"
  let slugText ← slug.written
  let fields ← data.fieldsFor "get"
  let field (key : String) (default : Value) : Value := (fields.get? key).getD default
  let compatibility ← (field "compatibility" (.int 0)).toInt
  let features ← ((field "features" .null).orElse (.list [])).items
  return ⟨slugText, field "name" slug, field "provider" (.str ""), field "type" (.str "plugin"),
    field "pricing" (.str "free"), compatibility, features,
    (field "conversion_method" .null).orElse (.str genericConversion), false, false⟩

end Candidate

/-- A functionality: how it is spotted and what can replace it. -/
structure Signature where
  key : String
  name : Value
  patterns : List String
  solutions : List Candidate

/-- Signatures by key, in table order. -/
abbrev Signatures := Table Signature

/-- The patterns of an entry as texts, absent ones left out. -/
def patternsOf (v : Value) : Except Fault (List String) := do
  ((← (v.orElse (.list [])).items).filter Value.isTruthy).mapM Value.written

/-- The solutions of an entry that are objects with a slug. -/
def namedSolutions (v : Value) : List Value :=
  match v with
  | .list items => items.filter fun item =>
    match item with
    | .object fields => ((Table.get? fields "slug").getD .null).isTruthy
    | _ => false
  | _ => []

/-- The signature that an entry of a table describes. -/
def Signature.read (key : String) (fields : Table Value) : Except Fault Signature := do
  let field (name : String) : Value := (fields.get? name).getD .null
  let patterns ← patternsOf (field "detector_patterns")
  let solutions ← (namedSolutions (field "recommended_solutions")).mapM Candidate.read
  return ⟨key, (fields.get? "name").getD (.str key), patterns, solutions⟩

/-- An entry of a table, if it is well formed; a number beyond all bounds is refused. -/
def readEntry (key : String) (v : Value) : Except Fault (Option Signature) :=
  match v with
  | .object fields => match Signature.read key fields with
    | .ok entry => .ok (some entry)
    | .error (.overflow message) => .error (.overflow message)
    | .error _ => .ok none
  | _ => .ok none

def tableKey : String := "functionality_mappings"

/-- The signatures of the entries of a table. -/
def readEntries : List (String × Value) → Except Fault Signatures
  | [] => .ok []
  | (key, v) :: rest => do
    let entry ← readEntry key v
    let others ← readEntries rest
    return (entry.map fun signature => (key, signature)).toList ++ others

/-- The signatures of a decoded table; anything of another shape has none. -/
def parseSignatures (data : Value) : Except Fault Signatures :=
  match data with
  | .object fields => match (Table.get? fields tableKey).getD .null with
    | .object entries => readEntries entries
    | _ => .ok []
  | _ => .ok []

/-- Whether a file is read as JSON. -/
def isJsonFile (path : Path) : Bool := path.lowerSuffix == ".json"

/-- The decoded table of a signature file; no key may occur twice in it. -/
def decodeTable (content : Content) (path : Path) : Except Fault Value := do
  match content with
  | .document .yaml v => return v
  | content =>
    let text ← content.text
    if isJsonFile path then Content.jsonOf true text else Content.yamlOf true text

/-- The signatures of a file; a missing file has none. -/
def loadSignatures (files : FileTree) (path : Path) : Except Failure Signatures := do
  if !(← files.isFile path) then return []
  match (files.read path).bind (decodeTable · path) with
  | .ok data => parseSignatures data
  | .error (.notYaml message) => throw (.malformedInput .grammar path.name (.decoder message))
  | .error fault =>
    throw (if fault.isBadValue || fault.isTooDeep then .undecodable fault path.name
      else .fault fault)

end Pagewright.Detection
