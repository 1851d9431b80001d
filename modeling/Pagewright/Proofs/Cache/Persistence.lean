import Pagewright.Cache.Store
import Pagewright.Proofs.Files.Places
import Pagewright.Proofs.Project.Analysis

/-!
The stored form of a cached analysis is faithful. Encoders leave out the state of a candidate on the host
and the context of a hit without a file; readers replace missing methods and names. What the analysis of a
directory and the detection with a parsed table produce is read back as it was.
-/
namespace Pagewright.Detection

/-- What reading a candidate back depends on: a method that is not replaced, and no state on the host. -/
structure Candidate.Persistent (c : Candidate) : Prop where
  method : c.method.isTruthy = true
  installed : c.installed = false
  active : c.active = false

theorem Candidate.read_toValue (c : Candidate) (persistent : c.Persistent) :
    Candidate.read c.toValue = .ok c := by
  obtain ⟨slug,name,provider,type,pricing,compatibility,features,method,_,_⟩ := c
  obtain ⟨kept,rfl,rfl⟩ := persistent
  have items : ((Value.list features).orElse (.list [])).items = .ok features := by
    cases features <;> rfl
  show (do
    let features ← ((Value.list features).orElse (.list [])).items
    return ⟨slug,name,provider,type,pricing,compatibility,features,
      method.orElse (.str genericConversion),false,false⟩) = Except.ok (_ : Candidate)
  rw [items,Value.orElse,if_pos kept]
  rfl

theorem Candidate.read_persistent (data : Value) (c : Candidate) (ok : Candidate.read data = .ok c) :
    c.Persistent := by
  obtain ⟨slug,_,ok⟩ := except_bind_success _ _ _ ok
  obtain ⟨slugText,_,ok⟩ := except_bind_success _ _ _ ok
  obtain ⟨fields,_,ok⟩ := except_bind_success _ _ _ ok
  obtain ⟨compatibility,_,ok⟩ := except_bind_success _ _ _ ok
  obtain ⟨features,_,ok⟩ := except_bind_success _ _ _ ok
  cases ok
  exact ⟨Project.orElse_truthy _ _ (by decide),rfl,rfl⟩

def Signature.Persistent (signature : Signature) : Prop := ∀ c ∈ signature.solutions, c.Persistent

theorem readEntry_persistent (key : String) (v : Value) (signature : Signature)
    (ok : readEntry key v = .ok (some signature)) : signature.Persistent := by
  unfold readEntry at ok
  split at ok
  next fields =>
    split at ok
    next entry read =>
      cases ok
      obtain ⟨patterns,_,read⟩ := except_bind_success _ _ _ read
      obtain ⟨solutions,solved,read⟩ := except_bind_success _ _ _ read
      cases read
      intro c member
      obtain ⟨item,_,read⟩ := except_mapM_member _ _ _ solved c member
      exact Candidate.read_persistent item c read
    next => cases ok
    next => cases ok
  next => cases ok

theorem readEntries_persistent (entries : List (String × Value)) (signatures : Signatures)
    (ok : readEntries entries = .ok signatures) :
    ∀ entry ∈ signatures, entry.2.Persistent := by
  induction entries generalizing signatures with
  | nil =>
    cases ok
    exact fun _ member => nomatch member
  | cons entry entries ih =>
    obtain ⟨key,v⟩ := entry
    obtain ⟨first,read,ok⟩ := except_bind_success _ _ _ ok
    obtain ⟨others,rest,ok⟩ := except_bind_success _ _ _ ok
    cases ok
    intro found member
    obtain member | member := List.mem_append.mp member
    · cases first with
      | none => cases member
      | some signature =>
        cases List.mem_singleton.mp member
        exact readEntry_persistent key v signature read
    · exact ih others rest found member

theorem parseSignatures_persistent (data : Value) (signatures : Signatures)
    (parsed : parseSignatures data = .ok signatures) : ∀ entry ∈ signatures, entry.2.Persistent := by
  unfold parseSignatures at parsed
  split at parsed
  · split at parsed
    · exact readEntries_persistent _ signatures parsed
    · cases parsed
      exact fun _ member => nomatch member
  · cases parsed
    exact fun _ member => nomatch member

/-- A hit whose context is stored: it stands in a file, or has no context. -/
def Occurrence.Persistent (o : Occurrence) : Prop := o.file.isNull = true → o.context = .str ""

theorem Occurrence.read_toValue (o : Occurrence) (persistent : o.Persistent) :
    Occurrence.read o.toValue = .ok o := by
  obtain ⟨pattern,context,file,dependency⟩ := o
  unfold Occurrence.Persistent at persistent
  cases file <;> cases dependency <;> first | rfl | (cases persistent rfl; rfl)

end Detection

namespace Detection

/-- A detection that is read back as it is. -/
structure Persistent (d : Detection) : Prop where
  occurrences : ∀ o ∈ d.occurrences, o.Persistent
  solutions : ∀ c ∈ d.solutions, c.Persistent

theorem read_toValue (d : Detection) (persistent : d.Persistent) : Detection.read d.toValue = .ok d := by
  have occurrences := except_mapM_map_self _ Occurrence.read d.occurrences fun o member =>
    o.read_toValue (persistent.occurrences o member)
  have solutions := except_mapM_map_self _ Candidate.read d.solutions fun c member =>
    c.read_toValue (persistent.solutions c member)
  show (do
    let occurrences ← (d.occurrences.map Occurrence.toValue).mapM Occurrence.read
    let solutions ← (d.solutions.map Candidate.toValue).mapM Candidate.read
    return ⟨d.key,d.name,occurrences,solutions⟩) = Except.ok d
  rw [occurrences,solutions]
  rfl

theorem sourceHits_persistent (patterns : List String) (file : Lowered) (named : file.name.isNull = false)
    (o : Occurrence) (member : o ∈ sourceHits patterns file) : o.Persistent := by
  obtain ⟨pattern,_,rfl⟩ := List.mem_map.mp member
  intro absent
  cases named.symm.trans absent

theorem dependencyHits_persistent (patterns : List String) (dependency : String) (o : Occurrence)
    (member : o ∈ dependencyHits patterns dependency) : o.Persistent := by
  obtain ⟨pattern,_,rfl⟩ := List.mem_map.mp member
  exact fun _ => rfl

theorem detect?_persistent (files : List Lowered) (dependencies : List String) (signature : Signature)
    (named : ∀ file ∈ files, file.name.isNull = false) (solved : signature.Persistent) (d : Detection)
    (found : detect? files dependencies signature = some d) : d.Persistent := by
  unfold detect? at found
  split at found
  · cases found
  · cases found
    refine ⟨fun o member => ?_,solved⟩
    obtain member | member := List.mem_append.mp member
    · obtain ⟨file,inside,hit⟩ := List.mem_flatMap.mp member
      exact sourceHits_persistent _ file (named file inside) o hit
    · obtain ⟨dependency,_,hit⟩ := List.mem_flatMap.mp member
      exact dependencyHits_persistent _ dependency o hit

/-- Sources with texts can be searched, and keep their names. -/
theorem detect_analyzed (files : FileTree) (root : Path) (project : Project)
    (analyzed : project.Analyzed files root) (signatures : Signatures)
    (solved : ∀ entry ∈ signatures, entry.2.Persistent) :
    ∃ detections, detect signatures project = .ok detections ∧
      ∀ entry ∈ detections, entry.2.Persistent := by
  obtain ⟨lowered,searched⟩ := except_mapM_total Lowered.of project.sources fun file member => by
    obtain ⟨path,content,rfl⟩ := analyzed.sources file member
    exact ⟨_,rfl⟩
  have named (file : Lowered) (member : file ∈ lowered) : file.name.isNull = false := by
    obtain ⟨source,inside,read⟩ := except_mapM_member _ _ _ searched file member
    obtain ⟨path,content,rfl⟩ := analyzed.sources source inside
    cases read
    rfl
  refine ⟨_,by unfold detect; rw [searched]; rfl,fun entry member => ?_⟩
  obtain ⟨⟨key,signature⟩,inside,found⟩ := List.mem_filterMap.mp member
  obtain ⟨d,detected,rfl⟩ := Option.map_eq_some_iff.mp found
  exact detect?_persistent _ _ signature named (solved _ inside) d detected

end Pagewright.Detection

namespace Pagewright.Cache

theorem readDetections_toValue (detections : Table Detection)
    (persistent : ∀ entry ∈ detections, entry.2.Persistent) :
    ((detections.mapValues Detection.toValue).mapM fun (key,v) => do
      return (key,← Detection.read v) : Except Failure (Table Detection)) = .ok detections := by
  refine except_mapM_map_self (fun entry : String × Detection => (entry.1,entry.2.toValue)) _ _ ?_
  intro entry member
  obtain ⟨key,d⟩ := entry
  show (do return (key,← Detection.read d.toValue) : Except Failure (String × Detection)) = .ok (key,d)
  rw [d.read_toValue (persistent _ member)]
  rfl

theorem Entry.read_toValue (user : Value) (created : Float) (project : Project)
    (detections : Table Detection) (persistent : project.Persistent)
    (evidence : ∀ entry ∈ detections, entry.2.Persistent) :
    Entry.read (Entry.toValue ⟨user,.float created,project,detections⟩) =
      .ok ⟨user,.float created,project,detections⟩ := by
  have table : ((Value.object (detections.mapValues Detection.toValue)).orElse (.object [])).fieldsFor
      "items" = .ok (detections.mapValues Detection.toValue) := by
    cases detections <;> rfl
  show (do
    let project ← Project.read (project.toValue true)
    let table ← liftM (((Value.object (detections.mapValues Detection.toValue)).orElse
      (.object [])).fieldsFor "items")
    let detections ← table.mapM fun (key,v) => do return (key,← Detection.read v)
    return ⟨user,.float created,project,detections⟩ : Except Failure Entry) = .ok _
  rw [project.read_toValue persistent,table]
  show (do
    let detections ← (detections.mapValues Detection.toValue).mapM fun (key,v) => do
      return (key,← Detection.read v)
    return ⟨user,.float created,project,detections⟩ : Except Failure Entry) = .ok _
  rw [readDetections_toValue detections evidence]
  rfl

/-- The project in a directory, the detections in it and a cached analysis of both are read back from
their stored form as they were, whatever the manifest, the description and the table hold. -/
theorem stored_analysis_faithful (files : FileTree) (text : String) (project : Project) (data : Value)
    (signatures : Detection.Signatures)
    (analyzed : Project.analyzeDirectory files (Path.ofText text) = .ok project)
    (parsed : Detection.parseSignatures data = .ok signatures) :
    Project.read (project.toValue true) = .ok project ∧
      ∃ detections, Detection.detect signatures project = .ok detections ∧
        (∀ entry ∈ detections, Detection.read entry.2.toValue = .ok entry.2) ∧
        ∀ (user : Value) (created : Float),
          Entry.read (Entry.toValue ⟨user,.float created,project,detections⟩) =
            .ok ⟨user,.float created,project,detections⟩ := by
  have found := Project.analyzeDirectory_success files _ project analyzed
  have persistent := found.persistent (Path.written_ofText text)
  obtain ⟨detections,detected,evidence⟩ := Detection.detect_analyzed files _ project found signatures
    (Detection.parseSignatures_persistent data signatures parsed)
  exact ⟨project.read_toValue persistent,detections,detected,
    fun entry member => entry.2.read_toValue (evidence entry member),
    fun user created => Entry.read_toValue user created project detections persistent evidence⟩

/-- A site with one page, a manifest with odd values and a description with a falsy name. -/
def oddSite : FileTree :=
  ⟨[(["site"],.directory),(["site","src"],.directory),(["site","src","pages"],.directory),
    (["site","src","pages","Home.tsx"],.file (.ofText "<form>")),
    (["site","package.json"],.file (.document (.json .spaced)
      (.object [("name",.null),("dependencies",.object [("zod",.int 3)]),
        ("dev_dependencies",.object [("vite",.list [.null])])]))),
    (["site","project-structure.json"],.file (.document (.json .spaced)
      (.object [("proyecto",.object [("nombre",.int 0),("objetivo",.list [.bool true]),
        ("tecnologias",.list [.null,.int 1])])])))],[]⟩

def oddProject : Project :=
  ⟨.str "Lovable Project",.str "",
    [⟨.str "Home",.str "Home.tsx",.str "/site/src/pages/Home.tsx",.str "<form>",6⟩],[],
    ⟨"","",[("zod","3")],[("vite","[None]")]⟩,⟨[],[],[]⟩,
    ⟨.str "unknown",.bool true,.bool false,.bool true,.bool false⟩,
    ⟨.str "",.str "",.list [.bool true],.str "",.texts ["None","1"],.object []⟩,
    some (Path.ofText "/site")⟩

open FileTree in
theorem analyzeDirectory_oddSite :
    Project.analyzeDirectory oddSite (Path.ofText "/site") = .ok oddProject := by
  have details : Project.readDescription oddSite (Path.ofText "/site") = .ok oddProject.details := by
    simp only [Project.readDescription,isFile,look,locate_chars,FileTree.read]
    rfl
  have pages : Project.detectPages oddSite (Path.ofText "/site") = .ok oddProject.pages := by
    have directory : oddSite.isDirectory (Path.ofText "/site" / "src" / "pages") = .ok true := by
      simp only [isDirectory,look,locate_chars]
      rfl
    have children : oddSite.children (Path.ofText "/site" / "src" / "pages") =
        .ok [(Path.ofText "/site/src/pages/Home.tsx",.file (.ofText "<form>"))] := by
      simp only [children,locate_chars]
      rfl
    simp only [Project.detectPages,directory,children,bind,Except.bind,List.mergeSort_singleton]
    rfl
  have components : Project.detectComponents oddSite (Path.ofText "/site") = .ok [] := by
    simp only [Project.detectComponents,descendants,locate_chars]
    rfl
  have manifest : Project.readManifest oddSite (Path.ofText "/site") = .ok oddProject.manifest := by
    simp only [Project.readManifest,Project.loadJson,isFile,look,locate_chars,FileTree.read]
    rfl
  have assets : Project.detectAssets oddSite (Path.ofText "/site") = .ok .none := by
    simp only [Project.detectAssets,Project.stylesheet?,descendants,isFile,look,locate_chars]
    rfl
  have build : Project.readBuildInfo oddSite (Path.ofText "/site") = .ok oddProject.build := by
    simp only [Project.readBuildInfo,Project.detectBuildTool,isDirectory,isFile,look,locate_chars]
    rfl
  simp only [Project.analyzeDirectory,details,pages,components,manifest,assets,build]
  rfl

/-- A table whose entry has no name, and a solution with a number as slug and a text of features. -/
def oddTable : Value :=
  .object [("functionality_mappings",.object [("forms",.object [("name",.null),
    ("detector_patterns",.list [.str "FORM"]),
    ("recommended_solutions",.list [.object [("slug",.int 7),("features",.str "ab")]])])])]

theorem stored_analysis_of_oddSite : ∃ signatures,
    Project.analyzeDirectory oddSite (Path.ofText "/site") = .ok oddProject ∧
      Detection.parseSignatures oddTable = .ok signatures ∧
      Project.read (oddProject.toValue true) = .ok oddProject ∧
      ∃ detections, Detection.detect signatures oddProject = .ok detections ∧
        (∀ entry ∈ detections, Detection.read entry.2.toValue = .ok entry.2) ∧
        ∀ (user : Value) (created : Float),
          Entry.read (Entry.toValue ⟨user,.float created,oddProject,detections⟩) =
            .ok ⟨user,.float created,oddProject,detections⟩ :=
  ⟨_,analyzeDirectory_oddSite,rfl,
    stored_analysis_faithful oddSite "/site" oddProject oddTable _ analyzeDirectory_oddSite rfl⟩

end Pagewright.Cache
