import Pagewright.Proofs.Import.FailSoft
import Pagewright.Proofs.Project.Acceptance

/-! What an upload leaves behind. The directory into which the archive was unpacked is gone in any case. An
upload that fails has changed no file, unless it failed while the analysis was stored; then the files below
the place of the user's images can differ, and no others. -/
namespace Pagewright

namespace Import
open Cache FileTree Project

namespace Importer

variable {ρ : Type} (i : Importer ρ) (archive : Path) (user filename : String)

/-- A project looked through and kept for a user. -/
def keeping (warnings : List String) (project : Project) : Work Upload := do
  let detections ← Work.ofExcept ((Detection.detect i.signatures project).mapError .fault)
  let entry ← i.cache.put user project detections
  return ⟨entry.project,detections,warnings⟩

/-- The directory below which archives are unpacked. -/
def unpackingBase (w : Workspace) : Path :=
  match (Settings.temporaryDirectory?.run.run w).1 with
  | .ok root => root.getD w.temporary
  | .error _ => w.temporary

/-- How an upload ends: refused before anything was unpacked, or with what is done with the archive. -/
inductive Uploaded (w : Workspace) : Except Failure Upload → Workspace → Prop
  | refused (failure : Failure) (settings : Option Settings.Resolved) :
      Uploaded w (.error failure) { w with settings }
  | closed (settings : Option Settings.Resolved) (warnings : List String) (outcome : Except Failure Upload)
      (left : Workspace) :
      Closing { w with settings } (unpackingBase w) (i.keeping user warnings) archive outcome left →
      Uploaded w outcome left

/-- Once the archive has passed its checks, the directory is made below the base that the settings give. -/
theorem upload_closed (w : Workspace) (now : Settings.Resolved) (warnings : List String)
    (same : Settings.temporaryDirectory?.run.run w =
      Settings.temporaryDirectory?.run.run { w with settings := some now }) :
    i.Uploaded archive user w
      ((withArchive archive (i.keeping user warnings)).run.run { w with settings := some now }).1
      ((withArchive archive (i.keeping user warnings)).run.run { w with settings := some now }).2 := by
  have looks : (Settings.temporaryDirectory?.run.run { w with settings := some now }).2 =
      { w with settings := some now } := Settings.path?_looks _ now _ rfl
  rcases located : Settings.temporaryDirectory?.run.run { w with settings := some now } with ⟨failure | root,w₁⟩
  · rw [located] at looks
    subst looks
    unfold withArchive opened
    rw [run_bind,located]
    exact .refused failure (some now)
  · rw [located] at looks
    subst looks
    have base : unpackingBase w = root.getD w.temporary := by
      unfold unpackingBase
      rw [same,located]
    have closing := withArchive_closing _ root (i.keeping user warnings) archive _ located
    exact .closed (some now) warnings _ _ (base ▸ closing)

theorem upload_uploaded (w : Workspace) : i.Uploaded archive user w
    ((i.upload archive user filename).run.run w).1 ((i.upload archive user filename).run.run w).2 := by
  unfold upload
  rw [run_bind]
  rcases Settings.maxArchiveBytes_cases w with ⟨now,left,same⟩ | ⟨failure,failed⟩
  · rcases ran : Settings.maxArchiveBytes.run.run w with ⟨failure | limit,w₁⟩
    · rw [ran] at left
      subst left
      exact .refused failure (some now)
    · rw [ran] at left
      subst left
      dsimp only
      rw [run_bind,run_get]
      dsimp only
      cases validated : Archive.Rules.validate { Archive.Rules.standard with maxSize := limit }
        w.files archive filename with
      | error failure => exact .refused failure (some now)
      | ok report =>
        exact upload_closed i archive user w now report.warnings (same _)
  · rw [failed]
    exact .refused failure w.settings

theorem keeping_cases (warnings : List String) (project : Project) (w left : Workspace)
    (outcome : Except Failure Upload)
    (ran : (i.keeping user warnings project).run.run w = (outcome,left)) :
    (∃ failure, outcome = .error failure ∧ left = w) ∨
      ∃ detections, Detection.detect i.signatures project = .ok detections ∧
        outcome = ((i.cache.put user project detections).result w).map
          (fun entry => ⟨entry.project,detections,warnings⟩) ∧
        left = (i.cache.put user project detections).after w := by
  unfold keeping at ran
  cases found : Detection.detect i.signatures project with
  | error fault =>
    rw [found] at ran
    cases ran
    exact .inl ⟨_,rfl,rfl⟩
  | ok detections =>
    right
    rw [found] at ran
    refine ⟨detections,rfl,?_⟩
    have ran : (do
        let entry ← i.cache.put user project detections
        return (⟨entry.project,detections,warnings⟩ : Upload) : Work Upload).run.run w = (outcome,left) := ran
    rw [run_bind] at ran
    unfold Work.result Work.after
    rcases put : (i.cache.put user project detections).run.run w with ⟨_ | entry,w₁⟩
    · rw [put] at ran
      cases ran
      exact ⟨rfl,rfl⟩
    · rw [put] at ran
      cases ran
      exact ⟨rfl,rfl⟩

/-- The name of a new directory is not that of a file of the cache. -/
theorem directory_not_own (s : Cache.Store) (current above : Place) (n : Nat) :
    ¬ s.OwnFile current user (above ++ [directoryName n]) := by
  rintro (entry | ⟨name,⟨position,image,rfl⟩,copy⟩)
  · have names := (List.append_inj' entry rfl).2
    have dot : '.' ∈ (directoryName n).toList := by
      rw [(List.cons.inj names).1,fileName,String.toList_append]
      exact List.mem_append_right _ (by decide)
    rcases mem_directoryName n _ dot with never | never <;> exact absurd never (by decide)
  · have names := (List.append_inj' copy rfl).2
    obtain ⟨c,rest,chars,digit⟩ := copyName_first position image
    rw [← (List.cons.inj names).1,directoryName_chars] at chars
    cases chars
    exact absurd digit (by decide)

/-- What an upload leaves, whether it goes through or fails. -/
structure Contained (w w' : Workspace) (outcome : Except Failure Upload) : Prop where
  directories : ∀ place, w'.files.find? place = some .directory →
    w.files.find? place = some .directory ∨ OnPath w.files.current (unpackingBase w) place ∨
      OnPath w.files.current (i.cache.imagesOf user) place
  files : ∀ place content, w'.files.find? place = some (.file content) →
    w.files.find? place = some (.file content) ∨ i.cache.OwnFile w.files.current user place
  failed : ∀ failure, outcome = .error failure →
    (∀ place, w'.files.contentAt? place = w.files.contentAt? place) ∨
      (∃ project detections before, (i.cache.put user project detections).result before = .error failure) ∧
        ∀ place, isBelow (home (i.cache.base w.files.current) (userKey user)) place = false →
          w'.files.contentAt? place = w.files.contentAt? place

variable {i archive user} {w : Workspace}

section Leaving

variable {n : Nat} {files t left : FileTree} (drawn : Drawn w (unpackingBase w) n files)
  (before : w.files.WellFormed) (straight : ".." ∉ (unpackingBase w).parts)
  (unpacked : Archive.Inside (destination w.files.current (unpackingBase w) ++ [directoryName n]) files t)
include drawn before straight unpacked

theorem directories_left {written made lost : Place → Prop} (used : Changes written made lost t left)
    (clear : ¬ written (destination w.files.current (unpackingBase w) ++ [directoryName n]))
    (place : Place)
    (standing : (left.removeTree ((unpackingBase w).child (directoryName n))).find? place = some .directory)
    (opens : left.find? place = some .directory → t.find? place = some .directory ∨
      OnPath w.files.current (i.cache.imagesOf user) place) :
    w.files.find? place = some .directory ∨ OnPath w.files.current (unpackingBase w) place ∨
      OnPath w.files.current (i.cache.imagesOf user) place := by
  rcases opens ((thinned_removeTree left _).stands place _ standing) with directory | images
  · have outside : ¬ destination w.files.current (unpackingBase w) ++ [directoryName n] <+: place := by
      intro inside
      rw [drawn.gone before straight unpacked used clear place inside] at standing
      cases standing
    rcases unpacked.directories place directory with early | below
    · obtain ⟨opened,changes,made,_⟩ := drawn.made
      rcases (makeDirectory_changes _ _ _ made).directories place early with earlier | here
      · exact (changes.directories place earlier).imp_right .inl
      · rw [changes.current,destination_directory] at here
        exact absurd (here ▸ List.prefix_refl _) outside
    · obtain ⟨name,rest,rfl⟩ := (isBelow_iff _ _).mp below
      exact absurd (List.prefix_append _ _) outside
  · exact .inr (.inr images)

theorem files_left {written made lost : Place → Prop} (used : Changes written made lost t left)
    (clear : ¬ written (destination w.files.current (unpackingBase w) ++ [directoryName n]))
    (place : Place) (content : Content)
    (standing : (left.removeTree ((unpackingBase w).child (directoryName n))).find? place = some (.file content)) :
    w.files.find? place = some (.file content) ∨ written place := by
  refine (used.files place content ((thinned_removeTree left _).stands place _ standing)).imp_left fun file => ?_
  rcases unpacked.files place content file with early | below
  · rw [← contentAt?_eq_some,← drawn.contents,contentAt?_eq_some]
    exact early
  · obtain ⟨name,rest,rfl⟩ := (isBelow_iff _ _).mp below
    rw [drawn.gone before straight unpacked used clear _ (List.prefix_append _ _)] at standing
    cases standing

/-- Where the project is not stored, the directory is removed and every file is as before. -/
theorem contained_unused (w' : Workspace) (failure : Failure)
    (same : w'.files = t.removeTree ((unpackingBase w).child (directoryName n))) :
    Contained i user w w' (.error failure) := by
  have used : Changes nowhere nowhere nowhere t t := Changes.refl t
  constructor
  case directories =>
    intro place standing
    rw [same] at standing
    exact directories_left drawn before straight unpacked used (fun never => never) place standing .inl
  case files =>
    intro place content standing
    rw [same] at standing
    exact .inl ((files_left drawn before straight unpacked used (fun never => never) place content
      standing).resolve_right fun never => never)
  case failed =>
    intro _ _
    left
    intro place
    rw [same]
    exact drawn.kept before straight unpacked used (fun never => never) place (fun never => never)
      (fun never => never)

/-- Storing changes the files of the user alone, and where it fails, only the images. -/
theorem contained_stored (w₁ w' : Workspace) (stored : w₁.files = t) (direct : i.cache.Direct w.files.current)
    (clock : i.cache.ClockOnly) (noDots : userKey user ≠ "..") (project : Project) (detections : Table Detection)
    (f : Cache.Entry → Upload)
    (same : w'.files = ((i.cache.put user project detections).after w₁).files.removeTree
      ((unpackingBase w).child (directoryName n))) :
    Contained i user w w' (((i.cache.put user project detections).result w₁).map f) := by
  subst stored
  have current : w₁.files.current = w.files.current := unpacked.current.trans drawn.current
  have wellFormed := unpacked.wellFormed (drawn.wellFormed before)
  have used := i.cache.perform_changes ⟨user,.put ⟨i.cache.clock,clock⟩ project detections⟩ w₁
    (current ▸ direct) wellFormed fun dots => absurd dots noDots
  have opens := (i.cache.put_opens user w₁.files project detections clock).holds w₁ (i.cache.opens_refl user _)
  have ending := (i.cache.put_ensures user project detections w₁ (current ▸ direct) wellFormed
    (fun dots => absurd dots noDots) clock).holds
  change i.cache.OwnChanges user w₁.files ((i.cache.put user project detections).after w₁).files at used
  generalize ((i.cache.put user project detections).after w₁).files = left at used opens ending same
  rw [Cache.Store.OwnChanges,current] at used
  have opened := opens.directories
  rw [current] at opened
  have clear := directory_not_own user i.cache w.files.current (destination w.files.current (unpackingBase w)) n
  constructor
  case directories =>
    intro place standing
    rw [same] at standing
    exact directories_left drawn before straight unpacked used clear place standing (opened place)
  case files =>
    intro place content standing
    rw [same] at standing
    exact files_left drawn before straight unpacked used clear place content standing
  case failed =>
    intro failure failed
    cases result : (i.cache.put user project detections).result w₁ with
    | ok entry => rw [result] at failed; cases failed
    | error reason =>
      rw [result] at failed ending
      cases failed
      obtain ⟨staged,staging,rfl⟩ := ending
      rw [Cache.Store.StagingChanges,current] at staging
      refine .inr ⟨⟨project,detections,w₁,result⟩,fun place outside => ?_⟩
      rw [same]
      refine drawn.kept before straight unpacked staging ?_ place ?_ (by simp [outside])
      · exact fun copy => clear (.inr copy)
      · rintro ⟨name,_,rfl⟩
        rw [isBelow_append _ _ (by simp)] at outside
        cases outside

end Leaving

/-- A place for a new directory that was free is free again. -/
theorem Contained.directory_free {w' : Workspace} {outcome : Except Failure Upload}
    (contained : Contained i user w w' outcome) (straight : ".." ∉ (unpackingBase w).parts) (n : Nat)
    (apart : ¬ OnPath w.files.current (i.cache.imagesOf user)
      (destination w.files.current (unpackingBase w) ++ [directoryName n]))
    (missing : w.files.find? (destination w.files.current (unpackingBase w) ++ [directoryName n]) = none) :
    w'.files.find? (destination w.files.current (unpackingBase w) ++ [directoryName n]) = none := by
  refine Option.eq_none_iff_forall_ne_some.mpr fun entry standing => ?_
  cases entry with
  | file content =>
    rcases contained.files _ content standing with early | own
    · cases early.symm.trans missing
    · exact directory_not_own user i.cache _ _ n own
  | directory =>
    rcases contained.directories _ standing with early | onPath | images
    · cases early.symm.trans missing
    · exact directory_not_onPath _ _ straight n onPath
    · exact apart images

theorem contained_same (w w' : Workspace) (outcome : Except Failure Upload) (same : w'.files = w.files) :
    Contained i user w w' outcome := by
  constructor
  · exact fun place standing => .inl (same ▸ standing)
  · exact fun place content standing => .inl (same ▸ standing)
  · exact fun _ _ => .inl fun place => by rw [same]

variable (i archive user w)

section Parcel

/-- A member whose name holds all that an archive has to hold. -/
def parcelMember : Archive.Member := ⟨"src/assets/public/package.json.png",.ok ByteArray.empty⟩

def parcel : ByteArray := Archive.pack [(parcelMember.name,ByteArray.empty)]

theorem parcel_unpacked : Archive.isArchive parcel = true ∧ parcel.size = 166 ∧
    Archive.unpack parcel = .ok [parcelMember] :=
  ⟨by decide +kernel,by decide +kernel,Archive.unpack_pack _ (by decide) (by decide) (by decide)⟩

def parcelTree : FileTree :=
  ⟨[(["tmp"],.directory),(["cache"],.directory),(["cache","assets"],.directory),
    (["a.zip"],.file (.bytes parcel))],[]⟩

def parcelWorkspace : Workspace :=
  { Workspace.start parcelTree [] ⟨1,["tmp"]⟩ 0.0 with settings := some ⟨[],none,none⟩ }

def parcelRules : Archive.Rules := { Archive.Rules.standard with maxSize := 50 * Settings.bytesPerMegabyte }

theorem parcel_valid : ∃ report, parcelRules.validate parcelTree ⟨1,["a.zip"]⟩ "" = .ok report ∧
    report.warnings = [] := by
  obtain ⟨archive,size,unpacked⟩ := parcel_unpacked
  have file : parcelTree.isFile ⟨1,["a.zip"]⟩ = .ok true := by
    simp only [isFile,look,locate_chars]
    rfl
  have read : parcelTree.read ⟨1,["a.zip"]⟩ = .ok (.bytes parcel) := by
    simp only [FileTree.read,locate_chars]
    rfl
  have small : parcelRules.checkSize (Content.bytes parcel).data.size = .ok () := by
    rw [show (Content.bytes parcel).data.size = 166 from size]
    rfl
  have named : Archive.openNames parcel "a.zip" = .ok [parcelMember.name] := by
    unfold Archive.openNames
    rw [archive,unpacked]
    rfl
  have clean : parcelRules.checkTypes [parcelMember.name] ++ Archive.checkSecurity [parcelMember.name] = [] := by
    decide +kernel
  exact ⟨_,Archive.Rules.validate_done _ _ _ "" _ _ _ file read small named rfl,clean⟩

def parcelImage : Path := ⟨1,["tmp","l2wp-00000001","src","assets","public","package.json.png"]⟩

/-- The tree with the parcel unpacked. -/
def unwrappedTree : FileTree :=
  ⟨parcelTree.entries ++ [(["tmp","l2wp-00000001"],.directory),(["tmp","l2wp-00000001","src"],.directory),
    (["tmp","l2wp-00000001","src","assets"],.directory),
    (["tmp","l2wp-00000001","src","assets","public"],.directory),
    (parcelImage.parts,.file (.bytes ByteArray.empty))],[]⟩

def parcelPath : Path := ⟨1,["tmp","l2wp-00000001"]⟩

/-- The tree with the directory for the parcel. -/
def wrappedTree : FileTree := ⟨parcelTree.entries ++ [(["tmp","l2wp-00000001"],.directory)],[]⟩

def openedParcel : FileTree :=
  ⟨parcelTree.entries ++ [(["tmp","l2wp-00000001"],.directory),(["tmp","l2wp-00000001","src"],.directory),
    (["tmp","l2wp-00000001","src","assets"],.directory),
    (["tmp","l2wp-00000001","src","assets","public"],.directory)],[]⟩

theorem parcel_extracted : Archive.extractMembers wrappedTree parcelPath [parcelMember] = .ok unwrappedTree := by
  have inside : Archive.staysInside wrappedTree parcelPath parcelMember.name = true := by decide +kernel
  have parts : Archive.nameParts parcelMember.name = ["src","assets","public","package.json.png"] := by
    decide +kernel
  have target : Archive.targetOf parcelPath parcelMember = parcelImage := by
    unfold Archive.targetOf
    rw [parts]
    rfl
  have file : parcelMember.isDirectory = false := by decide +kernel
  have missing : Archive.taken wrappedTree parcelImage.parent = false := by
    simp only [Archive.taken,exists?,look,locate_chars]
    rfl
  have made : Archive.makeMissing 5 wrappedTree parcelImage.parent = .ok openedParcel := by
    simp only [Archive.makeMissing,Archive.taken,exists?,look,makeDirectory,locate_chars]
    rfl
  have written : openedParcel.write parcelImage (.bytes ByteArray.empty) = .ok unwrappedTree := by
    simp only [FileTree.write,locate_chars]
    rfl
  have again : unwrappedTree.write parcelImage (.bytes ByteArray.empty) = .ok unwrappedTree := by
    simp only [FileTree.write,locate_chars]
    rfl
  have member : Archive.writeMember wrappedTree parcelPath parcelMember = .ok unwrappedTree :=
    Archive.writeMember_run _ _ _ _ parcelImage ByteArray.empty openedParcel unwrappedTree file rfl
      (by rw [parts]; exact List.cons_ne_nil _ _) target (by rw [missing,if_neg Bool.false_ne_true]; exact made)
      written again
  unfold Archive.extractMembers
  rw [List.foldlM_cons,if_pos inside,member]
  rfl

def parcelProject : Project where
  name := .str "Lovable Project"
  description := .str ""
  pages := []
  components := []
  manifest := .empty
  assets := ⟨[⟨.str "package.json.png",.str parcelImage.text,0,.str "png",.str ""⟩],[],[]⟩
  build := ⟨.str "unknown",.bool true,.bool false,.bool false,.bool false⟩
  details := .empty
  root := some parcelPath

theorem parcel_located : locateRoot unwrappedTree parcelPath = .ok parcelPath := by
  have found : hasProjectFiles unwrappedTree parcelPath = .ok true := by
    simp only [hasProjectFiles,isFile,isDirectory,look,locate_chars]
    rfl
  unfold locateRoot
  rw [found]
  rfl

/-- What stands below the directory of assets. -/
def parcelAssets : List (Path × Entry) :=
  [(⟨1,["tmp","l2wp-00000001","src","assets","public"]⟩,.directory),(parcelImage,.file (.bytes ByteArray.empty))]

theorem parcel_analyzed : analyzeDirectory unwrappedTree parcelPath = .ok parcelProject := by
  have details : readDescription unwrappedTree parcelPath = .ok .empty := by
    simp only [readDescription,isFile,look,locate_chars,FileTree.read]
    rfl
  have pages : detectPages unwrappedTree parcelPath = .ok [] := by
    simp only [detectPages,isDirectory,look,locate_chars]
    rfl
  have components : detectComponents unwrappedTree parcelPath = .ok [] := by
    simp only [detectComponents,descendants,locate_chars]
    rfl
  have manifest : readManifest unwrappedTree parcelPath = .ok .empty := by
    simp only [readManifest,loadJson,isFile,look,locate_chars,FileTree.read]
    rfl
  have below : unwrappedTree.descendants (parcelPath / "src/assets") = .ok parcelAssets := by
    have sorted : List.mergeSort parcelAssets (fun a b => Path.le a.1 b.1) = parcelAssets :=
      List.mergeSort_of_pairwise (List.pairwise_pair.mpr (by decide +kernel))
    simp only [descendants,locate_chars]
    exact congrArg Except.ok sorted
  have none : unwrappedTree.descendants (parcelPath / "public") = .ok [] := by
    simp only [descendants,locate_chars]
    rfl
  have assets : detectAssets unwrappedTree parcelPath = .ok parcelProject.assets := by
    have css : stylesheets.filterMapM (fun name => stylesheet? unwrappedTree (parcelPath / name)) = .ok [] := by
      simp only [stylesheet?,isFile,look,locate_chars]
      rfl
    unfold detectAssets
    show (do
      let found ← (do
        let first ← unwrappedTree.descendants (parcelPath / "public")
        let second ← unwrappedTree.descendants (parcelPath / "src/assets")
        return first ++ (second ++ []))
      let css ← stylesheets.filterMapM (fun name => stylesheet? unwrappedTree (parcelPath / name))
      return ⟨found.filterMap (assetOf? imageTypes),found.filterMap (assetOf? fontTypes),css⟩ :
        Except Fault Assets) = _
    rw [none,below,css]
    rfl
  have build : readBuildInfo unwrappedTree parcelPath = .ok parcelProject.build := by
    simp only [readBuildInfo,detectBuildTool,isDirectory,isFile,look,locate_chars]
    rfl
  simp only [analyzeDirectory,details,pages,components,manifest,assets,build]
  rfl

def unwrapped : Workspace := { parcelWorkspace with files := unwrappedTree, drawnDirectories := 1 }

theorem parcel_opened : (Analyzer.new none).analyze ⟨1,["a.zip"]⟩ parcelWorkspace =
    (.ok parcelProject,⟨none,some parcelPath,some parcelPath,true,1⟩,unwrapped) := by
  have file : parcelTree.isFile ⟨1,["a.zip"]⟩ = .ok true := by
    simp only [isFile,look,locate_chars]
    rfl
  have read : wrappedTree.read ⟨1,["a.zip"]⟩ = .ok (.bytes parcel) := by
    simp only [FileTree.read,locate_chars]
    rfl
  have made : parcelTree.makeDirectory parcelPath = .ok wrappedTree := by
    simp only [makeDirectory,locate_chars]
    rfl
  have extracted : Archive.extract wrappedTree parcelPath parcel = .ok unwrappedTree := by
    unfold Archive.extract
    rw [parcel_unpacked.2.2]
    exact parcel_extracted
  unfold Analyzer.analyze
  rw [show parcelWorkspace.files = parcelTree from rfl,file]
  dsimp only
  rw [extract_first parcelWorkspace _ parcelPath wrappedTree unwrappedTree (.bytes parcel) (by decide) made read extracted]
  dsimp only
  rw [parcel_located]
  dsimp only [Analyzer.analyzeIn]
  rw [parcel_analyzed]
  rfl

theorem parcel_temporary : Settings.temporaryDirectory?.run.run parcelWorkspace = (.ok none,parcelWorkspace) := by
  unfold Settings.temporaryDirectory? Settings.path?
  rw [run_bind,Settings.get_known _ ⟨[],none,none⟩ _ _ rfl]
  rfl

/-- With the parcel, an upload comes down to keeping the project in it. -/
theorem parcel_uploading (user : String) : (rootImporter.upload ⟨1,["a.zip"]⟩ user "").run.run parcelWorkspace =
    let ran := (rootImporter.keeping user [] parcelProject).run.run unwrapped
    (ran.1,{ ran.2 with files := ran.2.files.removeTree parcelPath }) := by
  have settings : parcelWorkspace.settings = some ⟨[],none,none⟩ := rfl
  have limit : Settings.maxArchiveBytes.run.run parcelWorkspace =
      (.ok (50 * Settings.bytesPerMegabyte),parcelWorkspace) := by
    unfold Settings.maxArchiveBytes
    rw [run_bind,Settings.get_known _ _ _ _ settings]
    rfl
  obtain ⟨report,valid,clean⟩ := parcel_valid
  change Archive.Rules.validate { Archive.Rules.standard with maxSize := 50 * Settings.bytesPerMegabyte }
    parcelTree _ _ = _ at valid
  unfold Importer.upload
  rw [run_bind,limit]
  dsimp only
  rw [run_bind,run_get]
  dsimp only
  rw [show parcelWorkspace.files = parcelTree from rfl,valid]
  show (withArchive _ (rootImporter.keeping user report.warnings)).run.run parcelWorkspace = _
  rw [withArchive,opened_run _ _ _ _ _ parcel_temporary]
  dsimp only
  rw [parcel_opened,clean]
  rfl

theorem unwrapped_opened : unwrapped.files.makeDirectories rootStore.directory = .ok unwrappedTree :=
  makeDirectoriesWithin_standing unwrappedTree _ _
    ⟨locate_child _ ⟨1,[]⟩ "cache" ⟨rfl,rfl⟩ ⟨by decide,by decide,by decide⟩,rfl⟩

def parcelCopy : String := "0000-package.json.png"

section User

variable (user : String)

def homeTree : FileTree := unwrappedTree.put ["cache","assets",userKey user] .directory

/-- The tree with the image of the parcel copied for a user. -/
def copiedTree : FileTree :=
  (homeTree user).put (["cache","assets",userKey user] ++ [parcelCopy]) (.file (.bytes ByteArray.empty))

def stagedProject : Project :=
  { parcelProject with assets := { parcelProject.assets with
    images := [⟨.str "package.json.png",.str (rootStore.imagesOf user / parcelCopy).text,0,.str "png",.str ""⟩] } }

variable (plain : Plain (userKey user)) (proper : ¬ Special (userKey user))
include plain proper

omit plain in
theorem parcel_images : rootStore.imagesOf user = ⟨1,["cache","assets"] ++ [userKey user]⟩ := by
  have parts : keyParts (userKey user) = [userKey user] :=
    if_neg fun special => proper (special.imp_right .inl)
  rw [Store.imagesOf_eq,parts]
  rfl

theorem parcel_place : unwrappedTree.locate (rootStore.imagesOf user) = .ok ["cache","assets",userKey user] := by
  have cache : unwrappedTree.LeadsToDirectory ⟨1,["cache"]⟩ :=
    ⟨locate_child _ ⟨1,[]⟩ "cache" ⟨rfl,rfl⟩ ⟨by decide,by decide,by decide⟩,rfl⟩
  have assets : unwrappedTree.LeadsToDirectory ⟨1,["cache","assets"]⟩ :=
    ⟨locate_child _ ⟨1,["cache"]⟩ "assets" cache ⟨by decide,by decide,by decide⟩,rfl⟩
  rw [parcel_images user proper]
  exact locate_child _ ⟨1,["cache","assets"]⟩ (userKey user) assets plain

theorem parcel_cleared : unwrappedTree.removeTree (rootStore.imagesOf user) = unwrappedTree := by
  unfold removeTree
  rw [parcel_place user plain proper]
  rfl

theorem parcel_copied : unwrappedTree.makeDirectories (rootStore.imagesOf user) = .ok (homeTree user) ∧
    (homeTree user).copy parcelImage (rootStore.imagesOf user / parcelCopy) = .ok (copiedTree user) := by
  have making := makeDirectories_free unwrappedTree _ _ (by rw [parcel_images user proper]; simp)
    (parcel_place user plain proper) rfl
  obtain ⟨_,leads⟩ := makeDirectories_success _ (homeTree user) _ making
  have read : (homeTree user).read parcelImage = .ok (.bytes ByteArray.empty) := by
    simp only [FileTree.read,locate_chars]
    rfl
  have target : destination (homeTree user).current (rootStore.imagesOf user) = ["cache","assets",userKey user] := by
    rw [parcel_images user proper,destination_child _ ⟨1,["cache","assets"]⟩ _ plain]
    rfl
  have free : (homeTree user).find? (["cache","assets",userKey user] ++ [parcelCopy]) ≠ some .directory := by
    rw [homeTree,find?_put_of_ne _ _ (by simp)]
    exact fun standing => by cases standing
  have place := locate_child (homeTree user) _ parcelCopy leads ⟨by decide,by decide,by decide⟩
  rw [target,← Path.append_name _ _ (by decide)] at place
  exact ⟨making,copy_read _ _ _ _ _ read (write_free _ _ _ _ place free)⟩

theorem parcel_staged : (rootStore.stage user parcelProject).run.run unwrapped =
    (.ok (stagedProject user),{ unwrapped with files := copiedTree user }) := by
  obtain ⟨making,copied⟩ := parcel_copied user plain proper
  have path : Store.imagePath parcelProject.assets.images[0] = .ok parcelImage := by decide +kernel
  have present : unwrappedTree.isFile parcelImage = .ok true := by
    simp only [isFile,look,locate_chars]
    rfl
  have image := Store.stageImage_run (rootStore.imagesOf user) parcelImage 0 parcelProject.assets.images[0] unwrapped
    _ _ path present making copied
  have cleared : { unwrapped with files := unwrapped.files.removeTree (rootStore.imagesOf user) } = unwrapped :=
    congrArg (fun files => { unwrapped with files }) (parcel_cleared user plain proper)
  have all : (Store.stageAll (rootStore.imagesOf user) parcelProject.assets.images).run.run unwrapped =
      (.ok (stagedProject user).assets.images,{ unwrapped with files := copiedTree user }) := by
    unfold Store.stageAll
    rw [show parcelProject.assets.images.zipIdx = [(parcelProject.assets.images[0],0)] from rfl,List.mapM_cons,
      run_bind,image]
    rfl
  unfold Store.stage
  rw [run_bind,Work.modify_run]
  dsimp only
  rw [cleared,run_bind,all]
  rfl

end User

@[irreducible]
def longUser : String := String.ofList (List.replicate 251 'u')

theorem longUser_key : userKey longUser = longUser := by
  have letters : ∀ c ∈ longUser.toList, isPlainChar c = true := by
    unfold longUser
    intro c member
    rw [String.toList_ofList] at member
    cases List.eq_of_mem_replicate member
    decide
  exact userKey_plain longUser letters

theorem longUser_fits : Fits longUser ∧ ¬ Fits (fileName longUser) := by
  unfold fileName
  rw [longUser_key]
  decide +kernel

theorem write_longUser (t : FileTree) (content : Content) :
    ∃ fault, t.write (rootStore.fileOf longUser) content = .error fault :=
  t.write_long _ content (fileName longUser) (by rw [Store.fileOf_eq]; simp) longUser_fits.2

theorem longUser_plain : Plain (userKey longUser) ∧ ¬ Special (userKey longUser) := by
  have fits := longUser_fits.1
  have long : 3 ≤ longUser.length := by
    unfold longUser
    rw [String.length_ofList,List.length_replicate]
    omega
  have noSpecial : ¬ Special longUser := by
    rintro (same | same | same) <;> rw [same] at long <;> revert long <;> decide
  rw [← longUser_key] at noSpecial fits
  exact ⟨plain_userKey _ (fun dots => noSpecial (.inr (.inr dots))) fits,noSpecial⟩

def refusedParcel : Workspace := { unwrapped with files := (copiedTree longUser).removeTree parcelPath }

/-- The user id is too long for the name of a cache file, but not for that of a directory. -/
theorem parcel_refused : ∃ failure,
    (rootImporter.upload ⟨1,["a.zip"]⟩ longUser "").run.run parcelWorkspace = (.error failure,refusedParcel) := by
  obtain ⟨plain,proper⟩ := longUser_plain
  obtain ⟨failure,refused⟩ := rootStore.put_refused longUser unwrapped parcelProject (stagedProject longUser) [] _ _
    unwrappedTree (.float 0.0) unwrapped_opened (parcel_staged longUser plain proper) rfl (write_longUser _)
  refine ⟨failure,?_⟩
  have kept : (rootImporter.keeping longUser [] parcelProject).run.run unwrapped =
      (.error failure,{ unwrapped with files := copiedTree longUser }) := by
    show (do
      let entry ← rootStore.put longUser parcelProject []
      return (⟨entry.project,[],[]⟩ : Upload) : Work Upload).run.run unwrapped = _
    rw [run_bind,refused]
  rw [parcel_uploading]
  dsimp only
  rw [kept]
  rfl

theorem parcelTree_wellFormed : parcelTree.WellFormed := by
  refine wellFormed_of_entries _ ?_
  rw [show parcelTree.entries = [(["tmp"],.directory),(["cache"],.directory),(["cache","assets"],.directory),
    (["a.zip"],.file (.bytes parcel))] from rfl]
  simp only [List.forall_mem_cons,List.not_mem_nil,false_implies,implies_true,and_true]
  refine ⟨⟨rfl,?_⟩,⟨rfl,?_⟩,⟨rfl,?_⟩,rfl,?_⟩
  all_goals
    intro name last
    cases last
    decide

theorem parcel_base : unpackingBase parcelWorkspace = ⟨1,["tmp"]⟩ := by
  unfold unpackingBase
  rw [parcel_temporary]
  rfl

end Parcel

end Importer

end Import

end Pagewright
