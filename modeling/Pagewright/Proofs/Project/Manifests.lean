import Pagewright.Proofs.Files.Elsewhere
import Pagewright.Proofs.Project.Alike

/-! What stops the analysis of a directory is its manifest alone, and what the description says is taken over entry by
entry. -/
namespace Pagewright.Project
open FileTree

/-- What stands under a key of a manifest. -/
def manifestField (fields : Table Value) (key : String) : Value := (fields.get? key).getD .null

/-- What stands under the first of some keys that holds anything, or an object without entries. -/
def listedUnder (fields : Table Value) : List String → Value
  | [] => .object []
  | key :: keys => (manifestField fields key).orElse (listedUnder fields keys)

/-- The keys of the tables of a manifest, each with those that are looked at in its place. -/
def dependencyKeys : List String := ["dependencies"]

def devDependencyKeys : List String := ["devDependencies","dev_dependencies"]

/-- Why the content of a manifest is refused. -/
inductive ManifestRefusal (content : Content) : Failure → Prop where
  | undecodable (fault : Fault) (broken : content.json = .error fault) :
    ManifestRefusal content (.undecodable fault manifestFile)
  | dependencies (fields : Table Value) (decoded : content.json = .ok (.object fields))
      (noTable : (listedUnder fields dependencyKeys).isObject = false) :
    ManifestRefusal content (.malformedInput .grammar manifestFile (.stated "'dependencies' must be an object"))
  | devDependencies (fields : Table Value) (decoded : content.json = .ok (.object fields))
      (table : (listedUnder fields dependencyKeys).isObject = true)
      (noTable : (listedUnder fields devDependencyKeys).isObject = false) :
    ManifestRefusal content (.malformedInput .grammar manifestFile (.stated "'devDependencies' must be an object"))

theorem orElse_assoc (first second third : Value) :
    (first.orElse second).orElse third = first.orElse (second.orElse third) := by
  unfold Value.orElse
  by_cases holds : first.isTruthy = true
  · simp only [holds,if_true]
  · simp only [holds,if_false,Bool.false_eq_true]

section Tables

variable (key source : String) (table : Value)

theorem dependencyTable_accepted (listed : (table.orElse (.object [])).isObject = true) :
    ∃ entries, dependencyTable key source table = .ok entries := by
  unfold dependencyTable
  cases stands : table.orElse (.object []) with
  | object fields => exact ⟨_,rfl⟩
  | _ => rw [stands] at listed; cases listed

theorem dependencyTable_refused (noTable : (table.orElse (.object [])).isObject = false) :
    dependencyTable key source table =
      .error (.malformedInput .grammar source (.stated s!"'{key}' must be an object")) := by
  unfold dependencyTable
  cases stands : table.orElse (.object []) with
  | object fields => rw [stands] at noTable; cases noTable
  | _ => rfl

end Tables

theorem Manifest.read_object (fields : Table Value) (source : String) : Manifest.read (.object fields) source =
    (dependencyTable "dependencies" source (manifestField fields "dependencies") >>= fun dependencies =>
      dependencyTable "devDependencies" source
        ((manifestField fields "devDependencies").orElse (manifestField fields "dev_dependencies")) >>= fun devDependencies =>
          pure ⟨((manifestField fields "name").orElse (.str "")).text,
            ((manifestField fields "version").orElse (.str "")).text,dependencies,devDependencies⟩) := by
  rfl

/-- A manifest with entries is refused for its first table that is none, and for nothing else. -/
theorem Manifest.read_refusal (content : Content) (fields : Table Value) (decoded : content.json = .ok (.object fields))
    (failure : Failure) :
    Manifest.read (.object fields) manifestFile = .error failure ↔ ManifestRefusal content failure := by
  have dev : listedUnder fields devDependencyKeys =
      ((manifestField fields "devDependencies").orElse (manifestField fields "dev_dependencies")).orElse (.object []) :=
    (orElse_assoc _ _ _).symm
  rw [Manifest.read_object]
  constructor
  · intro refused
    cases table : (listedUnder fields dependencyKeys).isObject with
    | false =>
      rw [dependencyTable_refused "dependencies" manifestFile (manifestField fields "dependencies") table] at refused
      cases refused
      exact .dependencies fields decoded table
    | true =>
      obtain ⟨dependencies,read⟩ :=
        dependencyTable_accepted "dependencies" manifestFile (manifestField fields "dependencies") table
      rw [read] at refused
      cases table' : (listedUnder fields devDependencyKeys).isObject with
      | false =>
        rw [dev] at table'
        change dependencyTable _ _ _ >>= _ = _ at refused
        rw [dependencyTable_refused "devDependencies" manifestFile _ table'] at refused
        cases refused
        exact .devDependencies fields decoded table (dev ▸ table')
      | true =>
        rw [dev] at table'
        obtain ⟨devDependencies,read'⟩ := dependencyTable_accepted "devDependencies" manifestFile _ table'
        change dependencyTable _ _ _ >>= _ = _ at refused
        rw [read'] at refused
        cases refused
  · intro refused
    cases refused with
    | undecodable fault broken => rw [decoded] at broken; cases broken
    | dependencies fields' decoded' noTable =>
      cases decoded.symm.trans decoded'
      rw [dependencyTable_refused "dependencies" manifestFile (manifestField fields "dependencies") noTable]
      rfl
    | devDependencies fields' decoded' table noTable =>
      cases decoded.symm.trans decoded'
      obtain ⟨dependencies,read⟩ :=
        dependencyTable_accepted "dependencies" manifestFile (manifestField fields "dependencies") table
      rw [read,dependencyTable_refused "devDependencies" manifestFile _ (dev ▸ noTable)]
      rfl

/-- The manifest that the content of a file holds. -/
def decodeManifest (content : Content) : Except Failure Manifest :=
  match content.json with
  | .ok (.object fields) => Manifest.read (.object fields) manifestFile
  | .ok _ => .ok .empty
  | .error fault => .error (.undecodable fault manifestFile)

theorem decodeManifest_refusal (content : Content) (failure : Failure) :
    decodeManifest content = .error failure ↔ ManifestRefusal content failure := by
  unfold decodeManifest
  split
  next fields decoded => exact Manifest.read_refusal content fields decoded failure
  next data noObject decoded =>
    refine ⟨fun refused => by (cases refused),fun refused => ?_⟩
    cases refused with
    | undecodable _ broken => cases decoded.symm.trans broken
    | dependencies fields decoded' _ => exact absurd (Except.ok.inj (decoded.symm.trans decoded')) (noObject fields)
    | devDependencies fields decoded' _ _ => exact absurd (Except.ok.inj (decoded.symm.trans decoded')) (noObject fields)
  next fault broken =>
    refine ⟨fun refused => ?_,fun refused => ?_⟩
    · cases refused
      exact .undecodable fault broken
    · cases refused with
      | undecodable _ broken' => cases broken.symm.trans broken'; rfl
      | dependencies _ decoded _ => cases broken.symm.trans decoded
      | devDependencies _ decoded _ _ => cases broken.symm.trans decoded

/-- A part of a project that comes from one entry of its description. -/
structure DescribedPart where
  key : String
  reading : Value → Value
  part : Project → Value

/-- A text of a description, or the empty one in place of nothing. -/
def readText (v : Value) : Value := v.orElse (.str "")

def readTechnologies (v : Value) : Value :=
  match v with
  | .list items => .texts (items.map Value.text)
  | _ => .list []

def readDesign (v : Value) : Value :=
  match v with
  | .object design => .object design
  | _ => .object []

def describedParts : List DescribedPart :=
  [⟨"nombre",fun v => (readText v).orElse (.str defaultName),fun project => project.name⟩,
    ⟨"nombre",readText,fun project => project.details.name⟩,
    ⟨"descripcion",readText,fun project => project.description⟩,
    ⟨"descripcion",readText,fun project => project.details.description⟩,
    ⟨"objetivo",readText,fun project => project.details.objective⟩,
    ⟨"publico_objetivo",readText,fun project => project.details.audience⟩,
    ⟨"tecnologias",readTechnologies,fun project => project.details.technologies⟩,
    ⟨"diseño",readDesign,fun project => project.details.design⟩]

/-- A project without what it takes from its description. -/
def undescribed (project : Project) : Project :=
  { project with name := .null, description := .null, details := .empty }

/-- The entries of the description that a decoded file holds. -/
def describedFields (data : Value) : Table Value :=
  match data with
  | .object top => match Table.get? top "proyecto" with
    | some (.object fields) => fields
    | _ => []
  | _ => []

/-- The entries of a description, by what stands in its place: only a file that decodes has any. -/
def describedEntries (standing : Option Entry) : Table Value :=
  match standing with
  | some (.file content) => match content.json with
    | .ok data => describedFields data
    | .error _ => []
  | _ => []

def describedField (entries : Table Value) (key : String) : Value := (entries.get? key).getD .null

def describedBy (entries : Table Value) : Description :=
  ⟨readText (describedField entries "nombre"),readText (describedField entries "descripcion"),
    readText (describedField entries "objetivo"),readText (describedField entries "publico_objetivo"),
    readTechnologies (describedField entries "tecnologias"),readDesign (describedField entries "diseño")⟩

theorem descriptionOf_fields (data : Value) : descriptionOf data = describedBy (describedFields data) := by
  unfold descriptionOf describedFields
  cases data with
  | object top =>
    dsimp only
    cases Table.get? top "proyecto" with
    | none => rfl
    | some described => cases described <;> rfl
  | _ => rfl

section Answers

variable (t : FileTree) (root : Path) (leads : t.LeadsToDirectory root)
include leads

theorem readDescription_answers : readDescription t root =
    .ok (describedBy (describedEntries (t.find? (t.entryPlace root descriptionFile)))) := by
  have within : Within descriptionFile := by decide
  unfold readDescription
  dsimp only
  rw [t.isFile_entry root within (by decide) leads]
  cases standing : t.find? (t.entryPlace root descriptionFile) with
  | none => rfl
  | some entry =>
    cases entry with
    | directory => rfl
    | file content =>
      rw [t.read_entry root within (by decide) leads content standing]
      show (match content.json with | .ok data => _ | .error _ => _) =
        Except.ok (describedBy (match content.json with | .ok data => _ | .error _ => _))
      cases content.json with
      | error fault => rfl
      | ok data => exact congrArg Except.ok (descriptionOf_fields data)

theorem detectPages_answers : ∃ pages, detectPages t root = .ok pages := by
  have within : Within "src/pages" := by decide
  have path : root / "src" / "pages" = root / "src/pages" :=
    Within.nested (by decide) (by decide) within (by decide) root
  obtain ⟨standing,asked⟩ := t.isDirectory_within root within leads
  unfold detectPages
  dsimp only
  rw [path,asked]
  cases standing with
  | false => exact ⟨[],rfl⟩
  | true =>
    obtain ⟨found,listed⟩ := t.children_standing _ asked
    rw [listed]
    exact ⟨_,rfl⟩

theorem detectComponents_answers : ∃ components, detectComponents t root = .ok components := by
  have within : Within "src/components" := by decide
  have path : root / "src" / "components" = root / "src/components" :=
    Within.nested (by decide) (by decide) within (by decide) root
  obtain ⟨found,listed⟩ := t.descendants_within root within leads
  unfold detectComponents
  rw [path,listed]
  exact ⟨_,rfl⟩

theorem stylesheet?_answers (name : String) (within : Within name) : ∃ sheet, stylesheet? t (root / name) = .ok sheet := by
  obtain ⟨standing,asked⟩ := t.isFile_within root within leads
  unfold stylesheet?
  rw [asked]
  cases standing with
  | false => exact ⟨none,rfl⟩
  | true =>
    obtain ⟨content,read⟩ := t.isFile_success _ asked
    rw [read]
    exact ⟨_,rfl⟩

theorem detectAssets_answers : ∃ assets, detectAssets t root = .ok assets := by
  have directories : ∀ name ∈ assetDirectories, Within name := by decide
  have sheets : ∀ name ∈ stylesheets, Within name := by decide
  refine answers_of_refusedBy _ (refusedBy_bind _ _ ?_ fun found => refusedBy_bind _ _ ?_ fun css => refusedBy_ok _)
  · exact refusedBy_flatMapM _ _ fun name member =>
      refusedBy_answers _ (t.descendants_within root (directories name member) leads)
  · exact refusedBy_filterMapM _ _ fun name member =>
      refusedBy_answers _ (stylesheet?_answers t root leads name (sheets name member))

theorem readBuildInfo_answers : ∃ build, readBuildInfo t root = .ok build := by
  have tools : ∀ tool ∈ buildTools, ∀ name ∈ tool.2, Within name := by decide
  have file (name : String) (within : Within name) : RefusedBy (fun _ => False) (t.isFile (root / name)) :=
    refusedBy_answers _ (t.isFile_within root within leads)
  have directory (name : String) (within : Within name) : RefusedBy (fun _ => False) (t.isDirectory (root / name)) :=
    refusedBy_answers _ (t.isDirectory_within root within leads)
  refine answers_of_refusedBy _ (refusedBy_bind _ _ ?_ fun tool => ?_)
  · refine refusedBy_bind _ _ (refusedBy_findM? _ _ fun tool member => ?_) fun found => refusedBy_ok _
    exact refusedBy_anyM _ _ fun name inside => file name (tools tool member name inside)
  · refine refusedBy_bind _ _ (directory "src" (by decide)) fun _ => ?_
    refine refusedBy_bind _ _ (directory "public" (by decide)) fun _ => ?_
    refine refusedBy_bind _ _ (file manifestFile (by decide)) fun _ => ?_
    exact refusedBy_bind _ _ (file "index.html" (by decide)) fun _ => refusedBy_ok _

/-- The manifest decides how the analysis of a directory ends. -/
theorem analyzeDirectory_manifest : ∃ pages components assets build, analyzeDirectory t root =
    (readManifest t root).map fun manifest =>
      let details := describedBy (describedEntries (t.find? (t.entryPlace root descriptionFile)))
      ⟨details.name.orElse (.str defaultName),details.description,pages,components,manifest,assets,build,details,
        some root⟩ := by
  obtain ⟨pages,paged⟩ := detectPages_answers t root leads
  obtain ⟨components,composed⟩ := detectComponents_answers t root leads
  obtain ⟨assets,stocked⟩ := detectAssets_answers t root leads
  obtain ⟨build,built⟩ := readBuildInfo_answers t root leads
  refine ⟨pages,components,assets,build,?_⟩
  unfold analyzeDirectory
  rw [readDescription_answers t root leads,paged,composed,stocked,built]
  cases readManifest t root <;> rfl

theorem readManifest_refusal (failure : Failure) : readManifest t root = .error failure ↔
    ∃ content, t.find? (t.entryPlace root manifestFile) = some (.file content) ∧ ManifestRefusal content failure := by
  have within : Within manifestFile := by decide
  have name : (root / manifestFile).name = manifestFile := by
    rw [within.path,Path.name,List.getLast?_append_of_ne_nil _ within.named]
    rfl
  unfold readManifest loadJson
  dsimp only
  rw [t.isFile_entry root within (by decide) leads]
  cases standing : t.find? (t.entryPlace root manifestFile) with
  | none => exact ⟨fun refused => by (cases refused),fun ⟨_,stands,_⟩ => by (cases stands)⟩
  | some entry =>
    cases entry with
    | directory => exact ⟨fun refused => by (cases refused),fun ⟨_,stands,_⟩ => by (cases stands)⟩
    | file content =>
      have only : (∃ other, some (Entry.file content) = some (.file other) ∧ ManifestRefusal other failure) ↔
          ManifestRefusal content failure :=
        ⟨fun ⟨_,stands,refused⟩ => by cases stands; exact refused,fun refused => ⟨content,rfl,refused⟩⟩
      rw [only,← decodeManifest_refusal,t.read_entry root within (by decide) leads content standing,name]
      show ((match content.json with | .ok v => pure v | .error fault => throw _ : Except Failure Value) >>= _) = _ ↔
        (match content.json with | .ok (.object fields) => _ | .ok _ => _ | .error fault => _) = _
      cases content.json with
      | error fault => rfl
      | ok data => cases data <;> rfl

end Answers

section Putting

variable (t : FileTree) (root : Path) (leads : t.LeadsToDirectory root) (content : Content)
  (noDirectory : t.find? (t.entryPlace root descriptionFile) ≠ some .directory)

/-- A directory with another description. -/
abbrev withDescription : FileTree := t.put (t.entryPlace root descriptionFile) (.file content)

include leads noDirectory

theorem detectPages_described : detectPages (withDescription t root content) root = detectPages t root := by
  have past : Past descriptionFile "src/pages" := by decide
  have path : root / "src" / "pages" = root / "src/pages" :=
    Within.nested (by decide) (by decide) past.1 (by decide) root
  unfold detectPages
  dsimp only
  rw [path,t.isDirectory_past root _ _ past leads noDirectory,t.children_past root _ _ past leads noDirectory]

theorem detectComponents_described : detectComponents (withDescription t root content) root = detectComponents t root := by
  have past : Past descriptionFile "src/components" := by decide
  have path : root / "src" / "components" = root / "src/components" :=
    Within.nested (by decide) (by decide) past.1 (by decide) root
  unfold detectComponents
  rw [path,t.descendants_past root _ _ past leads noDirectory]

theorem readManifest_described : readManifest (withDescription t root content) root = readManifest t root := by
  have past : Past descriptionFile manifestFile := by decide
  unfold readManifest loadJson
  dsimp only
  rw [t.isFile_past root _ _ past leads noDirectory,t.read_past root _ _ past leads noDirectory]

theorem detectAssets_described : detectAssets (withDescription t root content) root = detectAssets t root := by
  have directories : ∀ name ∈ assetDirectories, Past descriptionFile name := by decide
  have sheets : ∀ name ∈ stylesheets, Past descriptionFile name := by decide
  unfold detectAssets
  rw [flatMapM_congr (fun name => (withDescription t root content).descendants (root / name))
      (fun name => t.descendants (root / name)) assetDirectories fun name member =>
        t.descendants_past root _ _ (directories name member) leads noDirectory,
    filterMapM_congr (fun name => stylesheet? (withDescription t root content) (root / name))
      (fun name => stylesheet? t (root / name)) stylesheets fun name member => by
        unfold stylesheet?
        rw [t.isFile_past root _ _ (sheets name member) leads noDirectory,
          t.read_past root _ _ (sheets name member) leads noDirectory]]

theorem readBuildInfo_described : readBuildInfo (withDescription t root content) root = readBuildInfo t root := by
  have tools : ∀ tool ∈ buildTools, ∀ name ∈ tool.2, Past descriptionFile name := by decide
  have source : Past descriptionFile "src" := by decide
  have assets : Past descriptionFile "public" := by decide
  have manifest : Past descriptionFile manifestFile := by decide
  have index : Past descriptionFile "index.html" := by decide
  unfold readBuildInfo detectBuildTool
  rw [t.isDirectory_past root _ _ source leads noDirectory,t.isDirectory_past root _ _ assets leads noDirectory,
    t.isFile_past root _ _ manifest leads noDirectory,t.isFile_past root _ _ index leads noDirectory,
    findM?_congr (fun tool => tool.2.anyM fun name => (withDescription t root content).isFile (root / name))
      (fun tool => tool.2.anyM fun name => t.isFile (root / name)) buildTools fun tool member =>
        anyM_congr _ _ _ fun name inside => t.isFile_past root _ _ (tools tool member name inside) leads noDirectory]

/-- Whatever the description of a project says, the rest of the project is the same. -/
theorem analyzeDirectory_undescribed : (analyzeDirectory (withDescription t root content) root).map undescribed =
    (analyzeDirectory t root).map undescribed := by
  have leads' : (withDescription t root content).LeadsToDirectory root := leads_put t root _ _ (by simp) noDirectory leads
  unfold analyzeDirectory
  rw [readDescription_answers _ root leads',readDescription_answers t root leads,
    detectPages_described t root leads content noDirectory,detectComponents_described t root leads content noDirectory,
    readManifest_described t root leads content noDirectory,detectAssets_described t root leads content noDirectory,
    readBuildInfo_described t root leads content noDirectory]
  cases detectPages t root <;> cases detectComponents t root <;> cases readManifest t root <;>
    cases detectAssets t root <;> cases readBuildInfo t root <;> rfl

end Putting

/-- The analysis of a directory fails for its manifest alone: for one that does not decode, or for its first table of
dependencies that is no object. The description changes nothing but the parts that it describes, and each of these comes
from its own entry. -/
theorem analyzeDirectory_decoding (t : FileTree) (root : Path) (leads : t.LeadsToDirectory root) :
    (∀ failure, analyzeDirectory t root = .error failure ↔
      ∃ content, t.find? (t.entryPlace root manifestFile) = some (.file content) ∧ ManifestRefusal content failure) ∧
    (∀ failure, analyzeDirectory t root = .error failure →
      ∃ kind detail, failure = .malformedInput kind manifestFile detail) ∧
    (∀ content, t.find? (t.entryPlace root descriptionFile) ≠ some .directory →
      (analyzeDirectory (withDescription t root content) root).map undescribed =
        (analyzeDirectory t root).map undescribed) ∧
    ∀ project, analyzeDirectory t root = .ok project → ∀ described ∈ describedParts,
      described.part project = described.reading
        (describedField (describedEntries (t.find? (t.entryPlace root descriptionFile))) described.key) := by
  obtain ⟨pages,components,assets,build,analyzed⟩ := analyzeDirectory_manifest t root leads
  have refusal (failure : Failure) : analyzeDirectory t root = .error failure ↔
      ∃ content, t.find? (t.entryPlace root manifestFile) = some (.file content) ∧ ManifestRefusal content failure := by
    rw [analyzed,← readManifest_refusal t root leads]
    cases readManifest t root with
    | error _ => exact ⟨congrArg _ ∘ Except.error.inj,congrArg _ ∘ Except.error.inj⟩
    | ok _ => exact ⟨fun refused => by (cases refused),fun refused => by (cases refused)⟩
  refine ⟨refusal,fun failure failed => ?_,fun content noDirectory =>
    analyzeDirectory_undescribed t root leads content noDirectory,fun project ok => ?_⟩
  · obtain ⟨content,_,refused⟩ := (refusal failure).mp failed
    cases refused with
    | undecodable fault _ => exact ⟨_,_,rfl⟩
    | dependencies _ _ _ => exact ⟨_,_,rfl⟩
    | devDependencies _ _ _ _ => exact ⟨_,_,rfl⟩
  · rw [analyzed] at ok
    generalize readManifest t root = manifest at ok
    cases manifest with
    | error _ => cases ok
    | ok manifest =>
      cases ok
      intro described member
      simp only [describedParts,List.mem_cons,List.not_mem_nil,or_false] at member
      rcases member with rfl | rfl | rfl | rfl | rfl | rfl | rfl | rfl <;> rfl

/-- A directory with a manifest and with a description of which one entry is a number in place of a list. -/
def describedSite (manifest : String) : FileTree :=
  ⟨[(["package.json"],.file (.ofText manifest)),
    (["project-structure.json"],.file (.ofText "\x7b\"proyecto\": \x7b\"nombre\": \"Sol\", \"tecnologias\": 3\x7d\x7d"))],[]⟩

theorem describedSite_decoding : (describedSite "\x7b\"dependencies\": [1]\x7d").LeadsToDirectory ⟨1,[]⟩ ∧
    analyzeDirectory (describedSite "\x7b\"dependencies\": [1]\x7d") ⟨1,[]⟩ =
      .error (.malformedInput .grammar "package.json" (.stated "'dependencies' must be an object")) ∧
    ∃ project, analyzeDirectory (describedSite "[1]") ⟨1,[]⟩ = .ok project ∧ project.name = .str "Sol" ∧
      project.details.technologies = .list [] := by
  have leads (manifest : String) : (describedSite manifest).LeadsToDirectory ⟨1,[]⟩ := ⟨rfl,rfl⟩
  obtain ⟨fails,_,_,_⟩ := analyzeDirectory_decoding (describedSite "\x7b\"dependencies\": [1]\x7d") ⟨1,[]⟩ (leads _)
  obtain ⟨passes,_,_,parts⟩ := analyzeDirectory_decoding (describedSite "[1]") ⟨1,[]⟩ (leads _)
  refine ⟨leads _,?_,?_⟩
  · exact (fails _).mpr ⟨_,rfl,.dependencies [("dependencies",.list [.int 1])] rfl rfl⟩
  · cases analyzed : analyzeDirectory (describedSite "[1]") ⟨1,[]⟩ with
    | error failure =>
      obtain ⟨content,standing,refused⟩ := (passes failure).mp analyzed
      have decoded : content.json = .ok (.list [.int 1]) := by
        cases standing
        rfl
      cases refused with
      | undecodable _ broken => cases decoded.symm.trans broken
      | dependencies _ decoded' _ => cases decoded.symm.trans decoded'
      | devDependencies _ decoded' _ _ => cases decoded.symm.trans decoded'
    | ok project =>
      refine ⟨project,rfl,?_,?_⟩
      · exact (parts project analyzed ⟨_,_,_⟩ List.mem_cons_self).trans rfl
      · exact (parts project analyzed ⟨"tecnologias",readTechnologies,fun project => project.details.technologies⟩
          (by simp [describedParts])).trans rfl

end Pagewright.Project
