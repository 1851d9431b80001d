import Pagewright.Proofs.Files.Alike
import Pagewright.Proofs.Project.Analysis

/-! The analysis depends on what stands in a directory alone: wherever the directory is, and in whatever order the files
in it are listed, the analysis gives the same project but for the paths, or is refused with the same failure. -/
namespace Pagewright

section Agreement

variable {ε α β γ δ : Type}

/-- Computations agree step by step: where the first steps do, the others have to for results that agree. -/
theorem except_map_bind_congr (first first' : Except ε α) (next next' : α → Except ε β) (seen : α → γ) (shown : β → δ)
    (one : first.map seen = first'.map seen)
    (two : ∀ a a', seen a = seen a' → (next a).map shown = (next' a').map shown) :
    (first >>= next).map shown = (first' >>= next').map shown := by
  cases first with
  | error reason =>
    cases first' with
    | error reason' => cases one; rfl
    | ok a' => cases one
  | ok a =>
    cases first' with
    | error reason' => cases one
    | ok a' => exact two a a' (Except.ok.inj one)

theorem except_map_lift (r r' : Except Fault α) (seen : α → γ) (same : r.map seen = r'.map seen) :
    (liftM r : Except Failure α).map seen = (liftM r' : Except Failure α).map seen := by
  cases r with
  | error fault =>
    cases r' with
    | error fault' => cases same; rfl
    | ok a' => cases same
  | ok a =>
    cases r' with
    | error fault' => cases same
    | ok a' => exact congrArg Except.ok (Except.ok.inj same)

/-- What is kept of a list depends on what counts of its items. -/
theorem filterMap_map_congr (key : α → δ) (keep : α → Option β) (shown : β → γ)
    (counts : ∀ a a', key a = key a' → (keep a).map shown = (keep a').map shown) (items items' : List α)
    (same : items.map key = items'.map key) :
    (items.filterMap keep).map shown = (items'.filterMap keep).map shown := by
  induction items generalizing items' with
  | nil =>
    cases List.map_eq_nil_iff.mp same.symm
    rfl
  | cons a items ih =>
    cases items' with
    | nil => cases same
    | cons a' items' =>
      obtain ⟨first,rest⟩ := List.cons.inj same
      have here := counts a a' first
      have later := ih items' rest
      rw [List.filterMap_cons,List.filterMap_cons]
      cases kept : keep a <;> cases kept' : keep a' <;> rw [kept,kept'] at here
      · exact later
      · cases here
      · cases here
      · rw [List.map_cons,List.map_cons,later,Option.some.inj here]

theorem except_flatMapM_map_congr (f f' : α → Except ε (List β)) (seen : β → γ) (items : List α)
    (same : ∀ item ∈ items, (f item).map (List.map seen) = (f' item).map (List.map seen)) :
    (items.flatMapM f).map (List.map seen) = (items.flatMapM f').map (List.map seen) := by
  induction items with
  | nil => rfl
  | cons item items ih =>
    have later := ih fun other member => same other (List.mem_cons_of_mem item member)
    rw [List.flatMapM_cons,List.flatMapM_cons]
    refine except_map_bind_congr _ _ _ _ _ _ (same item List.mem_cons_self) fun first first' one => ?_
    refine except_map_bind_congr _ _ _ _ _ _ later fun rest rest' two => congrArg Except.ok ?_
    rw [List.map_append,List.map_append,one,two]

theorem except_filterMapM_map_congr (f f' : α → Except ε (Option β)) (seen : β → γ) (items : List α)
    (same : ∀ item ∈ items, (f item).map (Option.map seen) = (f' item).map (Option.map seen)) :
    (items.filterMapM f).map (List.map seen) = (items.filterMapM f').map (List.map seen) := by
  induction items with
  | nil => rfl
  | cons item items ih =>
    have later := ih fun other member => same other (List.mem_cons_of_mem item member)
    rw [List.filterMapM_cons,List.filterMapM_cons]
    refine except_map_bind_congr _ _ _ _ _ _ (same item List.mem_cons_self) fun first first' one => ?_
    match first,first' with
    | none,none => exact later
    | none,some _ => cases one
    | some _,none => cases one
    | some b,some b' =>
      refine except_map_bind_congr _ _ _ _ _ _ later fun rest rest' two => congrArg Except.ok ?_
      rw [List.map_cons,List.map_cons,Option.some.inj one,two]

theorem anyM_congr (f f' : α → Except ε Bool) (items : List α) (same : ∀ item ∈ items, f item = f' item) :
    items.anyM f = items.anyM f' := by
  induction items with
  | nil => rfl
  | cons item items ih =>
    rw [List.anyM,List.anyM,same item List.mem_cons_self,ih fun other member => same other (List.mem_cons_of_mem item member)]

theorem findM?_congr {α : Type} (f f' : α → Except ε Bool) (items : List α) (same : ∀ item ∈ items, f item = f' item) :
    items.findM? f = items.findM? f' := by
  induction items with
  | nil => rfl
  | cons item items ih =>
    rw [List.findM?,List.findM?,same item List.mem_cons_self,ih fun other member => same other (List.mem_cons_of_mem item member)]

theorem flatMapM_congr (f f' : α → Except ε (List β)) (items : List α) (same : ∀ item ∈ items, f item = f' item) :
    items.flatMapM f = items.flatMapM f' := by
  induction items with
  | nil => rfl
  | cons item items ih =>
    rw [List.flatMapM_cons,List.flatMapM_cons,same item List.mem_cons_self,
      ih fun other member => same other (List.mem_cons_of_mem item member)]

theorem filterMapM_congr (f f' : α → Except ε (Option β)) (items : List α) (same : ∀ item ∈ items, f item = f' item) :
    items.filterMapM f = items.filterMapM f' := by
  induction items with
  | nil => rfl
  | cons item items ih =>
    rw [List.filterMapM_cons,List.filterMapM_cons,same item List.mem_cons_self,
      ih fun other member => same other (List.mem_cons_of_mem item member)]

end Agreement

namespace Project
open FileTree

/-- A source without its path. -/
def SourceFile.unplaced (file : SourceFile) : SourceFile := { file with path := .null }

/-- An asset without its path. -/
def AssetFile.unplaced (asset : AssetFile) : AssetFile := { asset with path := .null }

def Assets.unplaced (assets : Assets) : Assets :=
  ⟨assets.images.map AssetFile.unplaced,assets.fonts.map AssetFile.unplaced,assets.css.map AssetFile.unplaced⟩

end Project

/-- A project without its root and without the paths of its files. -/
def Project.unplaced (project : Project) : Project :=
  { project with
    pages := project.pages.map Project.SourceFile.unplaced
    components := project.components.map Project.SourceFile.unplaced
    assets := project.assets.unplaced
    root := none }

namespace Project
open FileTree

theorem source?_named (found found' : Path × Entry) (same : named found = named found') :
    (source? found).map SourceFile.unplaced = (source? found').map SourceFile.unplaced := by
  obtain ⟨path,entry⟩ := found
  obtain ⟨path',entry'⟩ := found'
  obtain ⟨name,rfl⟩ := Prod.mk.inj same
  cases entry with
  | directory => rfl
  | file content =>
    have suffix : path.suffix = path'.suffix := by rw [Path.suffix,Path.suffix,name]
    have stem : path.stem = path'.stem := by rw [Path.stem,Path.stem,name]
    simp only [source?,suffix]
    split
    · simp [sourceFile,SourceFile.unplaced,stem,name]
    · rfl

theorem assetOf?_named (types : List String) (found found' : Path × Entry) (same : named found = named found') :
    (assetOf? types found).map AssetFile.unplaced = (assetOf? types found').map AssetFile.unplaced := by
  obtain ⟨path,entry⟩ := found
  obtain ⟨path',entry'⟩ := found'
  obtain ⟨name,rfl⟩ := Prod.mk.inj same
  cases entry with
  | directory => rfl
  | file content =>
    have type : path.fileType = path'.fileType := by
      rw [Path.fileType,Path.fileType,Path.lowerSuffix,Path.lowerSuffix,Path.suffix,Path.suffix,name]
    simp only [assetOf?,type]
    split
    · simp [AssetFile.unplaced,name]
    · rfl

section Parts

variable {t t' : FileTree} {p p' : Path} (alike : Alike t t' p p')
include alike

theorem detectPages_alike : (detectPages t p).map (List.map SourceFile.unplaced) =
    (detectPages t' p').map (List.map SourceFile.unplaced) := by
  have within : Within "src/pages" := by decide
  have path (p : Path) : p / "src" / "pages" = p / "src/pages" :=
    Within.nested (by decide) (by decide) within (by decide) p
  have standing := alike.isDirectory within
  unfold detectPages
  dsimp only
  rw [path,path,← standing]
  cases asked : t.isDirectory (p / "src/pages") with
  | error fault => rfl
  | ok stands =>
    cases stands with
    | false => rfl
    | true =>
      show (t.children _ >>= _).map _ = (t'.children _ >>= _).map _
      refine except_map_bind_congr _ _ _ _ _ _ (alike.children within asked) fun found found' same => ?_
      exact congrArg Except.ok (filterMap_map_congr named source? _ source?_named _ _ same)

theorem detectComponents_alike : (detectComponents t p).map (List.map SourceFile.unplaced) =
    (detectComponents t' p').map (List.map SourceFile.unplaced) := by
  have within : Within "src/components" := by decide
  have path (p : Path) : p / "src" / "components" = p / "src/components" :=
    Within.nested (by decide) (by decide) within (by decide) p
  unfold detectComponents
  rw [path,path]
  refine except_map_bind_congr _ _ _ _ _ _ (alike.descendants within) fun found found' same => ?_
  exact congrArg Except.ok (filterMap_map_congr named source? _ source?_named _ _ same)

theorem readManifest_alike : readManifest t p = readManifest t' p' := by
  have within : Within manifestFile := by decide
  have name : (p / manifestFile).name = (p' / manifestFile).name := within.name_path p p'
  unfold readManifest loadJson
  dsimp only
  rcases alike.file within with ⟨asked,asked'⟩ | ⟨content,asked,asked',read,read'⟩
  · rw [asked,asked']
    rfl
  · rw [asked,asked',read,read',name]

theorem readDescription_alike : readDescription t p = readDescription t' p' := by
  have within : Within descriptionFile := by decide
  unfold readDescription
  dsimp only
  rcases alike.file within with ⟨asked,asked'⟩ | ⟨content,asked,asked',read,read'⟩
  · rw [asked,asked']
    rfl
  · rw [asked,asked',read,read']

theorem stylesheet?_alike (name : String) (within : Within name) :
    (stylesheet? t (p / name)).map (Option.map AssetFile.unplaced) =
      (stylesheet? t' (p' / name)).map (Option.map AssetFile.unplaced) := by
  have same := within.name_path p p'
  unfold stylesheet?
  rcases alike.file within with ⟨asked,asked'⟩ | ⟨content,asked,asked',read,read'⟩
  · rw [asked,asked']
    rfl
  · rw [asked,asked',read,read']
    simp only [bind,Except.bind,pure,Except.pure,Except.map,Option.map,AssetFile.unplaced,same]
    rfl

theorem detectBuildTool_alike : detectBuildTool t p = detectBuildTool t' p' := by
  have within : ∀ tool ∈ buildTools, ∀ name ∈ tool.2, Within name := by decide
  have same := findM?_congr (fun tool => tool.2.anyM fun name => t.isFile (p / name))
    (fun tool => tool.2.anyM fun name => t'.isFile (p' / name)) buildTools fun tool member =>
      anyM_congr _ _ _ fun name inside => alike.isFile (within tool member name inside)
  unfold detectBuildTool
  rw [same]

theorem readBuildInfo_alike : readBuildInfo t p = readBuildInfo t' p' := by
  have source : Within "src" := by decide
  have assets : Within "public" := by decide
  have manifest : Within manifestFile := by decide
  have index : Within "index.html" := by decide
  unfold readBuildInfo
  rw [detectBuildTool_alike alike,alike.isDirectory source,alike.isDirectory assets,alike.isFile manifest,
    alike.isFile index]

theorem detectAssets_alike : (detectAssets t p).map Assets.unplaced = (detectAssets t' p').map Assets.unplaced := by
  have directories : ∀ name ∈ assetDirectories, Within name := by decide
  have sheets : ∀ name ∈ stylesheets, Within name := by decide
  refine except_map_bind_congr _ _ _ _ (List.map named) _
    (except_flatMapM_map_congr _ _ _ _ fun name member => alike.descendants (directories name member))
    fun found found' same => ?_
  refine except_map_bind_congr _ _ _ _ (List.map AssetFile.unplaced) _
    (except_filterMapM_map_congr _ _ _ _ fun name member => stylesheet?_alike alike name (sheets name member))
    fun css css' styled => congrArg Except.ok ?_
  have kept (types : List String) := filterMap_map_congr named (assetOf? types) _ (assetOf?_named types) _ _ same
  unfold Assets.unplaced
  dsimp only
  rw [kept,kept,styled]

/-- The analysis does not depend on where a project is, nor on the order in which its files are listed. -/
theorem analyzeDirectory_alike :
    (analyzeDirectory t p).map Project.unplaced = (analyzeDirectory t' p').map Project.unplaced := by
  unfold analyzeDirectory
  rw [readDescription_alike alike,readManifest_alike alike,readBuildInfo_alike alike]
  refine except_map_bind_congr _ _ _ _ id _ rfl fun details _ same => ?_
  cases same
  refine except_map_bind_congr _ _ _ _ _ _ (except_map_lift _ _ _ (detectPages_alike alike)) fun pages pages' paged => ?_
  refine except_map_bind_congr _ _ _ _ _ _ (except_map_lift _ _ _ (detectComponents_alike alike))
    fun components components' composed => ?_
  refine except_map_bind_congr _ _ _ _ id _ rfl fun manifest _ same => ?_
  cases same
  refine except_map_bind_congr _ _ _ _ _ _ (except_map_lift _ _ _ (detectAssets_alike alike)) fun assets assets' stocked => ?_
  refine except_map_bind_congr _ _ _ _ id _ rfl fun build _ same => congrArg Except.ok ?_
  cases same
  unfold Project.unplaced
  dsimp only
  rw [paged,composed,stocked]

end Parts

end Project

end Pagewright
