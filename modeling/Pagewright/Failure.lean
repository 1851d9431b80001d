import Pagewright.Value.Display

/-!
Failures. A reported failure has a message for people, a context of details and an exit code; all
others are faults. The kinds of reported failure say which part refused: the archive, the input text, a
name that is looked up, a collaborator or the settings.
-/

namespace Pagewright

/-- Why an input text cannot be decoded. -/
inductive InputClass where
  | depth
  | controlCharacter
  | grammar
  | encoding
  | unknown
  /-- A classification given from outside under a word of its own. -/
  | other (word : String)
deriving Repr, DecidableEq

namespace InputClass

def word : InputClass → String
  | .depth => "depth"
  | .controlCharacter => "control-character"
  | .grammar => "syntax"
  | .encoding => "encoding"
  | .unknown => "unknown"
  | .other word => word

/-- The classification with a given word. -/
def ofWord (word : String) : InputClass :=
  match [depth, controlCharacter, grammar, encoding, unknown].find? (·.word == word) with
  | some known => known
  | none => .other word

def message : InputClass → String
  | .depth => "Maximum stack depth exceeded"
  | .controlCharacter => "Unexpected control character found"
  | .grammar => "Syntax error, malformed JSON"
  | .encoding => "Malformed UTF-8 characters"
  | .unknown => "Unknown JSON error"
  | .other _ => "Unknown JSON error"

/-- The classification of a fault met while decoding. -/
def ofFault : Fault → InputClass
  | .tooDeep => .depth
  | .notJson (.depth _) => .depth
  | .undecodable .. => .encoding
  | .notJson (.controlCharacter _) => .controlCharacter
  | .notJson (.grammar _) => .grammar
  | _ => .unknown

end InputClass

/-- Where the detail of a decoding failure comes from. -/
inductive Detail where
  /-- Words of this library. -/
  | stated (text : String)
  /-- Words of the decoder that refused. -/
  | decoder (text : String)
deriving Repr, DecidableEq

def Detail.text : Detail → String
  | .stated text => text
  | .decoder text => text

/-- Failures of the library and its collaborators. -/
inductive Failure where
  | general (message : String) (context : Table Value)
  | archiveNotFound (path : String)
  | validation (message reason : String) (missing : List String) (context : Table Value)
  | extraction (message archive : String)
  | malformedInput (kind : InputClass) (source : String) (detail : Detail)
  | notFound (kind name : String) (available : List String)
  | collaborator (message name : String) (cause : Option Fault) (context : Table Value)
  | config (message : String) (context : Table Value)
  /-- A failure that is not reported in words of its own. -/
  | fault (reason : Fault)

instance : Coe Fault Failure := ⟨.fault⟩

namespace Failure

/-- Whether a failure is reported in words of its own. -/
def isReported : Failure → Bool
  | .fault _ => false
  | _ => true

/-- What a failure says. -/
def message : Failure → String
  | .general message _ => message
  | .archiveNotFound path => s!"Archive not found: {path}"
  | .validation message .. => message
  | .extraction message _ => message
  | .malformedInput kind source _ =>
    if source.isEmpty then kind.message else s!"{kind.message} in {source}"
  | .notFound kind name available =>
    let listed := if available.isEmpty then "" else ". Available: " ++ ", ".intercalate available
    s!"Unknown {kind} '{name}'" ++ listed
  | .collaborator message .. => message
  | .config message _ => message
  | .fault inner => inner.message

/-- The details of a reported failure. -/
def context : Failure → Table Value
  | .general _ context => context
  | .archiveNotFound path => [("archive", .str path)]
  | .validation _ reason missing context =>
    Table.update [("reason", .str reason), ("missing", .texts missing)] context
  | .extraction _ archive => [("archive", .str archive)]
  | .malformedInput kind source detail =>
    [("classification", .str kind.word), ("source", .str source), ("detail", .str detail.text)]
  | .notFound kind name _ => [("kind", .str kind), ("name", .str name)]
  | .collaborator _ name cause context =>
    let own : Table Value := [("collaborator", .str name)]
    Table.update (own ++ (cause.map fun inner => ("cause", Value.str inner.displayed)).toList) context
  | .config _ context => context
  | .fault _ => []

/-- The exit code of a command that ends with a failure. -/
def exitCode : Failure → Nat
  | .validation .. => 2
  | _ => 1

/-- The failure to decode a text from a source. -/
def undecodable (reason : Fault) (source : String) : Failure :=
  .malformedInput (InputClass.ofFault reason) source (.decoder reason.message)

end Failure

/-- A fault in place of a result counts as a failure. -/
instance : MonadLift (Except Fault) (Except Failure) where
  monadLift r := r.mapError Failure.fault

end Pagewright
