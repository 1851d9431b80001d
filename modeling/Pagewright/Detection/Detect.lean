import Pagewright.Detection.Signature
import Pagewright.Project.Codec

/-!
Detection of functionalities. Every pattern of a signature is looked for, case apart, in the sources of
a project and then in the names of its dependencies. A functionality with at least one hit is detected;
its hits are kept as evidence with a piece of the text around the match.
-/

namespace Pagewright.Detection

/-- One hit of a pattern, in a source or in the name of a dependency. -/
structure Occurrence where
  pattern : Value
  context : Value
  file : Value
  dependency : Value

namespace Occurrence

/-- Where a hit was found. -/
def source (o : Occurrence) : Value :=
  if o.file.isNull then o.dependency.orElse (.str "") else o.file

def toValue (o : Occurrence) : Value :=
  .object ([("pattern", o.pattern)]
    ++ (if o.file.isNull then [] else [("file", o.file), ("context", o.context)])
    ++ (if o.dependency.isNull then [] else [("dependency", o.dependency)]))

def read (data : Value) : Except Fault Occurrence := do
  let pattern ← data.member "pattern"
  let context ← data.findD "context" (.str "")
  let file ← data.findD "file" .null
  return ⟨pattern, context, file, ← data.findD "dependency" .null⟩

end Occurrence

end Detection

/-- A functionality found in a project, with its evidence. -/
structure Detection where
  key : Value
  name : Value
  occurrences : List Detection.Occurrence
  solutions : List Detection.Candidate

namespace Detection

def count (d : Detection) : Nat := d.occurrences.length

def toValue (d : Detection) : Value :=
  .object [("key", d.key), ("name", d.name), ("count", .count d.count),
    ("occurrences", .list (d.occurrences.map Occurrence.toValue)),
    ("recommended_solutions", .list (d.solutions.map Candidate.toValue))]

def read (data : Value) : Except Fault Detection := do
  let key ← data.member "key"
  let name ← data.findD "name" key
  let occurrences ← (← (← data.findD "occurrences" (.list [])).items).mapM Occurrence.read
  let solutions ← (← (← data.findD "recommended_solutions" (.list [])).items).mapM Candidate.read
  return ⟨key, name, occurrences, solutions⟩

/-- The number of characters shown before a match. -/
def contextBefore : Nat := 100

/-- The number of characters shown in all. -/
def contextWindow : Nat := 200

/-- The piece of a text around the first match of a pattern. The place of the match is counted in the
lower-case form of the text. -/
def contextAround (content pattern : List Char) : List Char :=
  match Text.position? (Text.lower pattern) (Text.lower content) with
  | none => []
  | some position => Text.trim ((content.drop (position - contextBefore)).take contextWindow)

/-- A source with its text in lower case. -/
structure Lowered where
  name : Value
  content : List Char
  lowered : List Char

/-- A source ready for the search; its content has to be a text. -/
def Lowered.of (file : Project.SourceFile) : Except Fault Lowered :=
  match file.content with
  | .str s => .ok ⟨file.name, s.toList, Text.lower s.toList⟩
  | v => .error (v.lacks "lower")

/-- The hits of patterns in one source. -/
def sourceHits (patterns : List String) (file : Lowered) : List Occurrence :=
  (patterns.filter fun pattern => Text.occurs (Text.lower pattern.toList) file.lowered).map
    fun pattern => ⟨.str pattern,
      .str (String.ofList (contextAround file.content pattern.toList)), file.name, .null⟩

/-- The hits of patterns in the name of a dependency. -/
def dependencyHits (patterns : List String) (dependency : String) : List Occurrence :=
  (patterns.filter fun pattern =>
    Text.occurs (Text.lower pattern.toList) (Text.lower dependency.toList)).map
    fun pattern => ⟨.str pattern, .str "", .null, .str dependency⟩

/-- The detection of one functionality, if there is a hit. -/
def detect? (files : List Lowered) (dependencies : List String) (signature : Signature) :
    Option Detection :=
  match files.flatMap (sourceHits signature.patterns)
      ++ dependencies.flatMap (dependencyHits signature.patterns) with
  | [] => none
  | hits => some ⟨.str signature.key, signature.name, hits, signature.solutions⟩

/-- The functionalities found in a project, in table order. -/
def detect (signatures : Signatures) (project : Project) : Except Fault (Table Detection) := do
  let files ← project.sources.mapM Lowered.of
  let dependencies := project.manifest.all.keys
  return signatures.filterMap fun (key, signature) =>
    (detect? files dependencies signature).map fun detection => (key, detection)

/-- A summary of detections. -/
def summary (detections : Table Detection) : Value :=
  let line (d : Detection) : Value :=
    .object [("name", d.name), ("count", .count d.count),
      ("solutions_available", .count d.solutions.length)]
  .object [("total_functionalities", .count detections.length),
    ("functionalities", .object (detections.mapValues line))]

end Detection

end Pagewright
