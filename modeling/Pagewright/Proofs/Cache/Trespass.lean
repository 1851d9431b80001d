import Pagewright.Proofs.Cache.Progress
import Pagewright.Proofs.Cache.Requests

/-! Runs in an empty cache: one stores a picture, one a project without any. A copy of the picture stands
until a user with a special key deletes, and the entry is given to everyone with its cache file. -/
namespace Pagewright.Cache
open FileTree

def pictureText : String := "/picture"

def noPicture : Project.AssetFile := ⟨.str "",.str "",0,.str "",.str ""⟩

def picture (name : Value) : Project.AssetFile := ⟨name,.str pictureText,0,.str "",.str ""⟩

/-- A project whose image at a position has a file. -/
def withPicture (position : Nat) (name : Value) : Project where
  name := .str ""
  description := .str ""
  pages := []
  components := []
  manifest := .empty
  assets := { Project.Assets.none with
    images := List.replicate position noPicture ++ [picture name] }
  build := .unknown
  details := .empty
  root := none

/-- A cache in a directory of the root. -/
def rootStore : Store := ⟨⟨1,["cache"]⟩,.float 1.0,pure (.float 0.0)⟩

def pictureTree (content : Content) : FileTree := ⟨[(["picture"],.file content)],[]⟩

def openedTree (content : Content) : FileTree :=
  ⟨[(["picture"],.file content),(["cache"],.directory)],[]⟩

def pictureWorkspace (content : Content) : Workspace :=
  .start (pictureTree content) [] ⟨1,["tmp"]⟩ 0.0

theorem root_leads (t : FileTree) : t.LeadsToDirectory ⟨1,[]⟩ := ⟨rfl,rfl⟩

theorem pictureTree_wellFormed (content : Content) : (pictureTree content).WellFormedAt [] := by
  refine ⟨rfl,wellFormed_put .empty ?_ [] "picture" (.file content) rfl (by decide) ?_⟩
  · intro place name entry found
    simp [find?,empty] at found
  · intro found
    cases found

theorem open_cache (content : Content) :
    (pictureTree content).makeDirectories rootStore.directory = .ok (openedTree content) := by
  have located := locate_child (pictureTree content) ⟨1,[]⟩ "cache" (root_leads _)
    ⟨by decide,by decide,by decide⟩
  exact makeDirectories_free _ _ _ (by simp) located rfl

theorem cache_leads (content : Content) : (openedTree content).LeadsToDirectory rootStore.directory :=
  ⟨locate_child (openedTree content) ⟨1,[]⟩ "cache" (root_leads _) ⟨by decide,by decide,by decide⟩,rfl⟩

theorem clear_opened (content : Content) (user : String) :
    (openedTree content).removeTree (rootStore.imagesOf user) = openedTree content := by
  have noNull : ∀ name ∈ "assets" :: keyParts (userKey user), Char.ofNat 0 ∉ name.toList := by
    intro name member
    by_cases dots : userKey user = ".."
    · rw [dots] at member
      rcases List.mem_cons.mp member with rfl | inside
      · decide
      · rw [List.mem_singleton.mp inside]
        decide
    · exact (Store.keyParts_plain user name member dots).2
  have located := locate_append (openedTree content) rootStore.directory (cache_leads content) _ noNull
  rw [← rootStore.imagesOf_eq] at located
  unfold removeTree
  rw [located]
  cases keyParts (userKey user) with
  | nil => rfl
  | cons key rest => rfl

theorem rootStore_direct : rootStore.Direct [] := rootStore.direct_of_noDots [] (by decide)

theorem base_at (t : FileTree) (before : t.WellFormedAt []) : rootStore.base t.current = ["cache"] := by
  rw [before.current]
  decide

theorem picture_path (name : Value) : Store.imagePath (picture name) = .ok ⟨1,["picture"]⟩ := by
  have path : Path.ofText pictureText = ⟨1,["picture"]⟩ := by decide
  rw [← path]
  rfl

theorem picture_located (t : FileTree) : t.locate ⟨1,["picture"]⟩ = .ok ["picture"] :=
  locate_child t ⟨1,[]⟩ "picture" (root_leads t) ⟨by decide,by decide,by decide⟩

theorem openedTree_wellFormed (content : Content) : (openedTree content).WellFormedAt [] :=
  (makeDirectories_success _ _ _ (open_cache content)).1.wellFormedAt (pictureTree_wellFormed content)

theorem fresh_of_free (t : FileTree) (before : t.WellFormedAt [])
    (free : ∀ first rest, t.find? (["cache"] ++ first :: rest) = none) : rootStore.Fresh t := by
  intro place below
  rw [base_at t before] at below
  obtain ⟨first,rest,rfl⟩ := (isBelow_iff _ _).mp below
  exact free first rest

theorem pictureTree_fresh (content : Content) : rootStore.Fresh (pictureTree content) :=
  fresh_of_free _ (pictureTree_wellFormed content) fun _ _ => rfl

theorem openedTree_fresh (content : Content) : rootStore.Fresh (openedTree content) :=
  fresh_of_free _ (openedTree_wellFormed content) fun _ _ => rfl

/-- Staging a project in an empty cache copies its picture. -/
theorem stage_copies (user : String) (position : Nat) (name : Value) (content : Content)
    (plain : Plain (Store.copyName position (picture name)))
    (noSlash : '/' ∉ (Store.copyName position (picture name)).toList)
    (making : ∃ made, (openedTree content).makeDirectories (rootStore.imagesOf user) = .ok made)
    (w : Workspace) (files : w.files = openedTree content) :
    ((rootStore.stage user (withPicture position name)).after w).files.find?
      (home ["cache"] (userKey user) ++ [Store.copyName position (picture name)]) =
        some (.file content) := by
  have cleared : { w with files := w.files.removeTree (rootStore.imagesOf user) } = w := by
    rw [files,clear_opened,← files]
  have absent : w.files.isFile ⟨0,[]⟩ = .ok false := by rw [files]; rfl
  have present : w.files.isFile ⟨1,["picture"]⟩ = .ok true := by
    rw [files]
    exact isFile_standing _ _ _ content (picture_located _) rfl
  obtain ⟨made,making⟩ := making
  obtain ⟨changes,_⟩ := makeDirectories_success _ _ _ making
  have opened := changes.wellFormedAt (openedTree_wellFormed content)
  have found : made.read ⟨1,["picture"]⟩ = .ok content := by
    refine read_standing _ _ _ content (picture_located _) ?_
    rcases changes.kept ["picture"] content rfl with kept | never | never
    · exact kept
    · exact never.elim
    · exact never.elim
  have bare : Bare (rootStore.base made.current) (userKey user) made := by
    rw [opened.current]
    refine bare_later (rootStore.bare_of_fresh _ (openedTree_fresh content) _)
      (changes.weaken (fun _ => id) ?_ (fun _ => id))
    exact fun place onPath => rootStore.onPath_imagesOf [] user rootStore_direct place onPath
  have copies := rootStore.stageImage_copies user ⟨1,["picture"]⟩ position (picture name) content w made
    (picture_path name) present (by rw [files]; exact making) found bare plain noSlash
  rw [base_at made opened] at copies
  unfold Store.stage
  rw [(Work.bind_done _ _ w () (Work.modify_result _ _)).2,Work.modify_after,cleared,
    Work.bind_pure_after]
  unfold Store.stageAll withPicture
  rw [List.zipIdx_append,Work.mapM_append_after]
  · simp only [List.length_replicate,Nat.zero_add,List.zipIdx_cons,List.zipIdx_nil,List.mapM_cons,
      List.mapM_nil,pure_bind,Work.bind_pure_after]
    exact copies
  · rintro ⟨image,index⟩ member
    have same : image = noPicture := by
      have inside := List.fst_mem_of_mem_zipIdx member
      exact List.eq_of_mem_replicate inside
    subst same
    exact ⟨_,Store.stageImage_missing _ ⟨0,[]⟩ _ _ w (by rfl) absent⟩

theorem images_open (content : Content) (user : String) (fits : Fits (userKey user)) :
    ∃ made, (openedTree content).makeDirectories (rootStore.imagesOf user) = .ok made := by
  have assets : Plain "assets" := ⟨by decide,by decide,by decide⟩
  rw [Store.imagesOf_eq]
  by_cases dots : userKey user = ".."
  · rw [dots]
    exact makeDirectories_back _ _ (cache_leads content) "assets" assets rfl
  · refine makeDirectories_below _ _ (cache_leads content) _ ?_ ?_
    · intro name member
      rcases List.mem_cons.mp member with rfl | key
      · exact assets
      · unfold keyParts at key
        split at key
        · cases key
        · rw [List.mem_singleton.mp key]
          exact plain_userKey user dots fits
    · intro start _ old standing
      cases start <;> cases standing

def rootClock : Clock := .showing (.float 0.0)

def storedPicture (user : String) (position : Nat) (name : Value) (content : Content) : Workspace :=
  rootStore.perform ⟨user,.put rootClock (withPicture position name) []⟩ (pictureWorkspace content)

/-- A copy of the picture stands in the cache. -/
theorem storedPicture_copy (user : String) (position : Nat) (name : Value) (content : Content)
    (plain : Plain (Store.copyName position (picture name)))
    (noSlash : '/' ∉ (Store.copyName position (picture name)).toList)
    (fits : Fits (userKey user)) :
    (storedPicture user position name content).files.find?
        (home ["cache"] (userKey user) ++ [Store.copyName position (picture name)]) =
          some (.file content) := by
  have stages := fun w files =>
    stage_copies user position name content plain noSlash (images_open content user fits) w files
  suffices puts : Work.Ensures (rootStore.put user (withPicture position name) [])
      (pictureWorkspace content) fun _ files =>
        files.find? (home ["cache"] (userKey user) ++ [Store.copyName position (picture name)]) =
          some (.file content) from puts.holds
  unfold Store.put
  refine Work.ensures_change_ok _ _ _ _ _ (open_cache content) ?_
  have staged := stages { pictureWorkspace content with files := openedTree content } rfl
  refine Work.ensures_bind _ _ _ _ (fun _ _ => staged) fun project _ => ?_
  have clock : rootStore.ClockOnly := rootClock.filesKept
  refine Work.ensures_bind _ _ _ _ (fun _ _ => by rw [clock]; exact staged) fun now _ => ?_
  refine Work.ensures_change _ _ _ _ (fun _ => by rw [clock]; exact staged) fun files writing => ?_
  rw [clock] at writing
  refine Work.ensures_pure _ _ _ ?_
  have changes := write_changes _ _ _ _ (by rw [Store.fileOf_eq]; simp) writing
  rcases changes.kept _ content staged with kept | entry | never
  · exact kept
  · have opened := (rootStore.stage_wellFormed [] user (withPicture position name)).holds
      { pictureWorkspace content with files := openedTree content } (openedTree_wellFormed content)
    rw [Store.destination_fileOf,base_at _ opened] at entry
    exact absurd ⟨_,⟨_,_,rfl⟩,entry.symm⟩ (entry_not_copy ["cache"] user)
  · exact never.elim

/-- Where something stands below the cache, the cache stands. -/
theorem cache_stands (t : FileTree) (before : t.WellFormedAt []) (first : String) (rest : Place)
    (entry : Pagewright.Entry) (standing : t.find? (["cache"] ++ first :: rest) = some entry) :
    t.LeadsToDirectory rootStore.directory := by
  obtain ⟨current,wellFormed⟩ := before
  have cache := (stands_in t wellFormed ["cache"] first rest _ standing).1
  have located := locate_child t ⟨1,[]⟩ "cache" (root_leads t) ⟨by decide,by decide,by decide⟩
  exact ⟨located,cache⟩

theorem rootStore_leads (t : FileTree) (before : t.WellFormedAt []) (key copy : String) (content : Content)
    (standing : t.find? (home ["cache"] key ++ [copy]) = some (.file content)) :
    t.LeadsToDirectory rootStore.directory := by
  obtain ⟨first,rest,split⟩ := home_snoc ["cache"] key copy
  rw [split] at standing
  exact cache_stands t before first rest _ standing

def plainProject : Project where
  name := .str "P"
  description := .str ""
  pages := []
  components := []
  manifest := .empty
  assets := .none
  build := .unknown
  details := .empty
  root := none

def plainEntry (user : String) : Entry := ⟨.str user,.float 0.0,plainProject,[]⟩

theorem read_plainEntry (user : String) : Entry.read (plainEntry user).toValue = .ok (plainEntry user) := rfl

theorem plainEntry_lasting (user : String) :
    Store.isExpired (.float 0.0) rootStore.lifetime (plainEntry user).created = .ok false := rfl

def storedPlain (user : String) (content : Content) : Workspace :=
  rootStore.perform ⟨user,.put rootClock plainProject []⟩ (pictureWorkspace content)

theorem stage_plain (user : String) (content : Content) (w : Workspace)
    (files : w.files = openedTree content) :
    (rootStore.stage user plainProject).result w = .ok plainProject ∧
      (rootStore.stage user plainProject).after w = w := by
  have cleared : { w with files := w.files.removeTree (rootStore.imagesOf user) } = w := by
    rw [files,clear_opened,← files]
  have none : Store.stageAll (rootStore.imagesOf user) plainProject.assets.images = pure [] := rfl
  obtain ⟨result,left⟩ := Work.bind_done (modify fun w : Workspace =>
    { w with files := w.files.removeTree (rootStore.imagesOf user) }) (fun _ => do
      let images ← Store.stageAll (rootStore.imagesOf user) plainProject.assets.images
      return { plainProject with assets := { plainProject.assets with images } }) w ()
    (Work.modify_result _ _)
  rw [Work.modify_after,cleared,none,pure_bind] at result left
  exact ⟨result.trans (Work.pure_result _ _),left.trans (Work.pure_after _ _)⟩

theorem storedPlain_entry (user : String) (content : Content) (fits : Fits (fileName user)) :
    (storedPlain user content).files = (openedTree content).put (["cache"] ++ [fileName user])
      (.file (.document (.json .spaced) (plainEntry user).toValue)) := by
  have located := rootStore.entry_located user (openedTree content) (cache_leads content) fits
  rw [base_at _ (openedTree_wellFormed content)] at located
  have free : (openedTree content).find? (["cache"] ++ [fileName user]) ≠ some .directory :=
    fun standing => by cases standing
  have written := write_free _ _ _ (.document (.json .spaced) (plainEntry user).toValue) located free
  suffices puts : Work.Ensures (rootStore.put user plainProject []) (pictureWorkspace content)
      fun _ files => files = (openedTree content).put (["cache"] ++ [fileName user])
        (.file (.document (.json .spaced) (plainEntry user).toValue)) from puts.holds
  unfold Store.put
  refine Work.ensures_change_ok _ _ _ _ _ (open_cache content) ?_
  obtain ⟨staged,same⟩ := stage_plain user content
    { pictureWorkspace content with files := openedTree content } rfl
  refine Work.ensures_bind _ _ _ _ (fun failure failed => ?_) fun project given => ?_
  · rw [staged] at failed
    cases failed
  rw [staged] at given
  cases given
  rw [same]
  refine Work.ensures_bind _ _ _ _ (fun failure failed => ?_) fun now given => ?_
  · rw [show rootStore.clock = pure (.float 0.0) from rfl,Work.pure_result] at failed
    cases failed
  rw [show rootStore.clock = pure (.float 0.0) from rfl,Work.pure_result] at given
  cases given
  rw [show rootStore.clock = pure (.float 0.0) from rfl,Work.pure_after]
  refine Work.ensures_change_ok _ _ _ _ _ written ?_
  exact Work.ensures_pure _ _ _ rfl

/-- An entry in the cache file of a user is what the user gets, whoever stored it. -/
theorem get_plain (user owner : String) (w : Workspace) (before : w.files.WellFormedAt [])
    (standing : w.files.find? (["cache"] ++ [fileName user]) =
      some (.file (.document (.json .spaced) (plainEntry owner).toValue))) :
    (rootStore.get user).result w = .ok (some (plainEntry owner)) := by
  have fits := (before.wellFormed _ _ _ standing).2
  have leads := cache_stands w.files before _ _ _ standing
  rw [← base_at w.files before] at standing
  exact rootStore.get_finds user w _ _ _ _ leads fits standing rfl (read_plainEntry owner)
    (Work.pure_result _ _) (plainEntry_lasting owner)

section Runs

variable (other : String) (position : Nat) (name : Value) (content : Content)

theorem storedPicture_wellFormed : (storedPicture other position name content).files.WellFormedAt [] :=
  rootStore.perform_wellFormed _ [] _ (pictureTree_wellFormed content)

theorem storedPicture_changes :
    rootStore.OwnChanges other (pictureTree content) (storedPicture other position name content).files := by
  have files : (pictureWorkspace content).files = pictureTree content := rfl
  have changes := rootStore.perform_changes ⟨other,.put rootClock (withPicture position name) []⟩
    (pictureWorkspace content)
  rw [files] at changes
  exact changes rootStore_direct (pictureTree_wellFormed content).wellFormed
    fun _ => rootStore.bare_of_fresh _ (pictureTree_fresh content) _

theorem storedPicture_missing (user : String) (different : userKey user ≠ userKey other)
    (noDots : userKey other ≠ "..") (noAssets : fileName user ≠ "assets") :
    (storedPicture other position name content).files.find? (["cache"] ++ [fileName user]) = none := by
  have changes := storedPicture_changes other position name content
  unfold Store.OwnChanges Store.OwnFile at changes
  rw [base_at _ (pictureTree_wellFormed content)] at changes
  have free : (pictureTree content).find? (["cache"] ++ [fileName user]) = none := rfl
  cases standing : (storedPicture other position name content).files.find?
      (["cache"] ++ [fileName user]) with
  | none => rfl
  | some entry =>
    cases entry with
    | file old =>
      rcases changes.files _ old standing with before | own | ⟨copy,_,same⟩
      · rw [free] at before
        cases before
      · exact absurd (fileName_inj _ _ (child_inj _ _ _ own)) different
      · have root := (List.append_inj' same rfl).1
        exact absurd (dots_of_home _ _ root.symm) noDots
    | directory =>
      rcases changes.directories _ standing with before | made
      · rw [free] at before
        cases before
      · exact absurd (made_in_cache _ _ _ made) noAssets

/-- Deleting for a special key takes the picture of another user away. -/
theorem special_clears (user : String) (special : Special (userKey user)) (noDots : userKey other ≠ "..")
    (different : userKey user ≠ userKey other) (copy : String)
    (standing : (storedPicture other position name content).files.find?
      (home ["cache"] (userKey other) ++ [copy]) = some (.file content)) :
    ((rootStore.delete user).after (storedPicture other position name content)).files.find?
      (home ["cache"] (userKey other) ++ [copy]) = none := by
  have entryName : Fits (fileName user) ∧ fileName user ≠ "assets" := by
    unfold fileName
    rcases special with key | key | key <;> rw [key] <;> decide
  have missing := storedPicture_missing other position name content user different noDots entryName.2
  obtain ⟨current,wellFormed⟩ := storedPicture_wellFormed other position name content
  generalize storedPicture other position name content = w at *
  have leads := rootStore_leads w.files ⟨current,wellFormed⟩ (userKey other) copy content standing
  have base := base_at w.files ⟨current,wellFormed⟩
  obtain ⟨first,rest,split⟩ := home_snoc_assets ["cache"] (userKey other) copy noDots
  rw [split] at standing ⊢
  have assets := (stands_in _ wellFormed _ first rest _ standing).1
  have below := special_below ["cache"] (userKey user) first rest special
  rw [← base] at missing assets below ⊢
  have located := rootStore.special_located user w.files wellFormed leads special assets
  exact rootStore.delete_clears user w wellFormed leads entryName.1 missing located _ below

end Runs

end Pagewright.Cache
