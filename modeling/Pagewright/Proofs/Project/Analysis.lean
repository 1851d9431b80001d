import Pagewright.Project.Analyze
import Pagewright.Proofs.Except
import Pagewright.Proofs.Files.Texts

/-! What an analysis that goes through has found: the parts of the project, one after another, and texts
in the fields of its sources. Written as a document value and read again the project is the same. A reader replaces
falsy values, takes versions as texts and knows a second key for a table; none of this changes what an analysis has
produced. -/
namespace Pagewright.Project

section Finding

variable (files : FileTree) (root : Path)

structure Analyzed (project : Project) : Prop where
  details : readDescription files root = .ok project.details
  pages : detectPages files root = .ok project.pages
  components : detectComponents files root = .ok project.components
  manifest : readManifest files root = .ok project.manifest
  assets : detectAssets files root = .ok project.assets
  build : readBuildInfo files root = .ok project.build
  name : project.name = project.details.name.orElse (.str defaultName)
  root : project.root = some root

theorem analyzeDirectory_success (project : Project)
    (analyzed : analyzeDirectory files root = .ok project) : Analyzed files root project := by
  obtain ⟨details,described,analyzed⟩ := except_bind_success _ _ _ analyzed
  obtain ⟨pages,paged,analyzed⟩ := except_bind_success _ _ _ analyzed
  obtain ⟨components,composed,analyzed⟩ := except_bind_success _ _ _ analyzed
  obtain ⟨manifest,declared,analyzed⟩ := except_bind_success _ _ _ analyzed
  obtain ⟨assets,stocked,analyzed⟩ := except_bind_success _ _ _ analyzed
  obtain ⟨build,built,analyzed⟩ := except_bind_success _ _ _ analyzed
  cases analyzed
  exact ⟨lift_success _ _ described,lift_success _ _ paged,lift_success _ _ composed,declared,
    lift_success _ _ stocked,lift_success _ _ built,rfl,rfl⟩

theorem source?_text (found : Path × Entry) (file : SourceFile) (kept : source? found = some file) :
    ∃ path content, file = sourceFile path content := by
  unfold source? at kept
  split at kept
  · split at kept
    · exact ⟨_,_,(Option.some.inj kept).symm⟩
    · cases kept
  · cases kept

theorem detectPages_texts (pages : List SourceFile) (ok : detectPages files root = .ok pages)
    (file : SourceFile) (member : file ∈ pages) : ∃ path content, file = sourceFile path content := by
  obtain ⟨directory,_,ok⟩ := except_bind_success _ _ _ ok
  cases directory with
  | false =>
    cases ok
    cases member
  | true =>
    obtain ⟨found,_,ok⟩ := except_bind_success _ _ _ ok
    cases ok
    obtain ⟨entry,_,kept⟩ := List.mem_filterMap.mp member
    exact source?_text entry file kept

theorem detectComponents_texts (components : List SourceFile)
    (ok : detectComponents files root = .ok components) (file : SourceFile) (member : file ∈ components) :
    ∃ path content, file = sourceFile path content := by
  obtain ⟨found,_,ok⟩ := except_bind_success _ _ _ ok
  cases ok
  obtain ⟨entry,_,kept⟩ := List.mem_filterMap.mp member
  exact source?_text entry file kept

theorem Analyzed.sources {files : FileTree} {root : Path} {project : Project}
    (analyzed : Analyzed files root project) (file : SourceFile) (member : file ∈ project.sources) :
    ∃ path content, file = sourceFile path content := by
  obtain member | member := List.mem_append.mp member
  · exact detectPages_texts files root _ analyzed.pages file member
  · exact detectComponents_texts files root _ analyzed.components file member

end Finding

theorem SourceFile.read_toValue (file : SourceFile) : SourceFile.read (file.toValue true) = .ok file := rfl

theorem AssetFile.read_toValue (asset : AssetFile) : AssetFile.read asset.toValue = .ok asset := rfl

theorem BuildInfo.read_toValue (info : BuildInfo) : BuildInfo.read info.toValue = .ok info := rfl

theorem Description.read_toValue (d : Description) : Description.read d.toValue = .ok d := rfl

theorem Assets.read_toValue (assets : Assets) : Assets.read assets.toValue = .ok assets := by
  have back (files : List AssetFile) : (files.map AssetFile.toValue).mapM AssetFile.read = .ok files :=
    except_mapM_map_self _ _ _ fun file _ => file.read_toValue
  show (do
    let images ← (assets.images.map AssetFile.toValue).mapM AssetFile.read
    let fonts ← (assets.fonts.map AssetFile.toValue).mapM AssetFile.read
    let css ← (assets.css.map AssetFile.toValue).mapM AssetFile.read
    return ⟨images,fonts,css⟩) = Except.ok assets
  rw [back,back,back]
  rfl

theorem textTable_text (table : Table String) :
    Table.mapValues Value.text (table.mapValues Value.str) = table := by
  simp [Table.mapValues,Value.text,Function.comp_def]

/-- A table of texts, or an absent one in place of an empty one, is read as it was. -/
theorem dependencyTable_textTable (key source : String) (table : Table String) (v : Value)
    (written : v = textTable table ∨ table = [] ∧ v = .null) :
    dependencyTable key source v = .ok table := by
  obtain rfl | ⟨rfl,rfl⟩ := written
  · cases table with
    | nil => rfl
    | cons entry rest => exact congrArg Except.ok (textTable_text (entry :: rest))
  · rfl

theorem text_orElse (s : String) : ((Value.str s).orElse (.str "")).text = s := by
  by_cases empty : s = ""
  · subst empty
    rfl
  · simp [Value.orElse,Value.isTruthy,empty,Value.text]

theorem Manifest.read_toValue (m : Manifest) (source : String) : Manifest.read m.toValue source = .ok m := by
  have dev : (textTable m.devDependencies).orElse .null = textTable m.devDependencies ∨
      m.devDependencies = [] ∧ (textTable m.devDependencies).orElse .null = .null := by
    cases m.devDependencies with
    | nil => exact .inr ⟨rfl,rfl⟩
    | cons entry rest => exact .inl rfl
  show (do
    let dependencies ← dependencyTable "dependencies" source (textTable m.dependencies)
    let devDependencies ← dependencyTable "devDependencies" source
      ((textTable m.devDependencies).orElse .null)
    return ⟨((Value.str m.name).orElse (.str "")).text,((Value.str m.version).orElse (.str "")).text,
      dependencies,devDependencies⟩) = Except.ok m
  rw [dependencyTable_textTable _ _ _ _ (.inl rfl),dependencyTable_textTable _ _ _ _ dev,text_orElse,
    text_orElse]
  rfl

/-- What reading a project back depends on: a name that is not replaced, and a root that its text
writes. -/
structure Persistent (project : Project) : Prop where
  named : project.name.isTruthy = true
  rooted : ∀ root, project.root = some root → root.Written

theorem text_ne_empty (p : Path) (written : p.Written) : p.text ≠ "" := by
  intro empty
  have back := p.ofText_text written
  rw [empty] at back
  subst back
  revert empty
  decide

theorem readPath?_text (root : Option Path) (written : ∀ path, root = some path → path.Written) :
    readPath? (Value.ofText? (root.map Path.text)) = .ok root := by
  cases root with
  | none => rfl
  | some path =>
    have proper := text_ne_empty path (written path rfl)
    have truthy : (Value.str path.text).isTruthy = true := by
      simpa [Value.isTruthy] using proper
    show (if !(Value.str path.text).isTruthy then Except.ok none
      else .ok (some (Path.ofText path.text))) = _
    rw [truthy,Path.ofText_text path (written path rfl)]
    rfl

theorem read_toValue (project : Project) (persistent : project.Persistent) :
    Project.read (project.toValue true) = .ok project := by
  have sources (files : List SourceFile) :
      (files.map (·.toValue true)).mapM SourceFile.read = .ok files :=
    except_mapM_map_self _ _ _ fun file _ => file.read_toValue
  show (do
    let pages ← liftM ((project.pages.map (·.toValue true)).mapM SourceFile.read)
    let components ← liftM ((project.components.map (·.toValue true)).mapM SourceFile.read)
    let manifest ← Manifest.read project.manifest.toValue "package.json"
    let assets ← liftM (Assets.read project.assets.toValue)
    let build ← liftM (BuildInfo.read project.build.toValue)
    let details ← liftM (Description.read project.details.toValue)
    let root ← liftM (readPath? (Value.ofText? (project.root.map Path.text)))
    return ⟨project.name.orElse (.str defaultName),project.description,pages,components,manifest,
      assets,build,details,root⟩ : Except Failure Project) = .ok project
  rw [sources,sources,Manifest.read_toValue,Assets.read_toValue,BuildInfo.read_toValue,
    Description.read_toValue,readPath?_text _ persistent.rooted,Value.orElse,if_pos persistent.named]
  rfl

/-- Whatever else a project that is read back has, it has the assets that were written. -/
theorem read_assets (project other : Project) (ok : Project.read (project.toValue true) = .ok other) :
    other.assets = project.assets := by
  obtain ⟨root,_,ok⟩ := except_bind_success _ _ _ ok
  obtain ⟨name,_,ok⟩ := except_bind_success _ _ _ ok
  obtain ⟨description,_,ok⟩ := except_bind_success _ _ _ ok
  obtain ⟨pages,_,ok⟩ := except_bind_success _ _ _ ok
  obtain ⟨components,_,ok⟩ := except_bind_success _ _ _ ok
  obtain ⟨written,_,ok⟩ := except_bind_success _ _ _ ok
  obtain ⟨manifest,_,ok⟩ := except_bind_success _ _ _ ok
  obtain ⟨stock,found,ok⟩ := except_bind_success _ _ _ ok
  obtain ⟨assets,read,ok⟩ := except_bind_success _ _ _ ok
  obtain ⟨writtenBuild,_,ok⟩ := except_bind_success _ _ _ ok
  obtain ⟨build,_,ok⟩ := except_bind_success _ _ _ ok
  obtain ⟨writtenDetails,_,ok⟩ := except_bind_success _ _ _ ok
  obtain ⟨details,_,ok⟩ := except_bind_success _ _ _ ok
  obtain ⟨path,_,ok⟩ := except_bind_success _ _ _ ok
  cases ok
  have same : project.assets.toValue = stock := Except.ok.inj (lift_success _ _ found)
  have back := lift_success _ _ read
  rw [← same,Assets.read_toValue] at back
  exact (Except.ok.inj back).symm

theorem orElse_truthy (v other : Value) (truthy : other.isTruthy = true) :
    (v.orElse other).isTruthy = true := by
  unfold Value.orElse
  split <;> assumption

theorem Analyzed.persistent {files : FileTree} {root : Path} {project : Project}
    (analyzed : Analyzed files root project) (written : root.Written) : project.Persistent := by
  refine ⟨?_,fun path known => ?_⟩
  · rw [analyzed.name]
    exact orElse_truthy _ _ (by decide)
  · cases analyzed.root.symm.trans known
    exact written

end Pagewright.Project
