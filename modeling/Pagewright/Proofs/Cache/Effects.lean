import Pagewright.Proofs.Cache.Names
import Pagewright.Proofs.Files.Changes
import Pagewright.Proofs.Work

/-! What storing, asking and deleting change among the files: the entry of the user, and what stands
where the images of the user are copied to. -/
namespace Pagewright.Cache
open FileTree

def CopyPlace (base : Place) (key : String) (place : Place) : Prop :=
  ∃ name, IsCopyName name ∧ place = home base key ++ [name]

/-- The places at which storing for a key makes directories: on the way to the images. -/
def HomeDirectory (base : Place) (key : String) (place : Place) : Prop :=
  isBelow base place = false ∨ place = base ++ ["assets"] ∨ place = home base key

/-- No directory stands in the place of a copy. -/
def Bare (base : Place) (key : String) (t : FileTree) : Prop :=
  ∀ name, IsCopyName name → t.find? (home base key ++ [name]) ≠ some .directory

theorem home_snoc (base : Place) (key name : String) :
    ∃ first rest, home base key ++ [name] = base ++ first :: rest := by
  unfold home
  split
  · exact ⟨"assets",[name],by simp⟩
  · split
    · exact ⟨name,[],rfl⟩
    · exact ⟨"assets",[key,name],by simp⟩

theorem home_parts (base : Place) (key : String) (noDots : key ≠ "..") :
    home base key = base ++ "assets" :: keyParts key := by
  by_cases special : key = "" ∨ key = "."
  · simp [home,keyParts,special]
  · simp [home,keyParts,special,noDots]

theorem home_snoc_assets (base : Place) (key name : String) (noDots : key ≠ "..") :
    ∃ first rest, home base key ++ [name] = (base ++ ["assets"]) ++ first :: rest := by
  rw [home_parts _ _ noDots]
  cases keyParts key with
  | nil => exact ⟨name,[],by simp⟩
  | cons first rest => exact ⟨first,rest ++ [name],by simp⟩

theorem copyPlace_below (base : Place) (key : String) (place : Place)
    (copy : CopyPlace base key place) : isBelow base place = true := by
  obtain ⟨name,_,rfl⟩ := copy
  obtain ⟨first,rest,split⟩ := home_snoc base key name
  exact (isBelow_iff _ _).mpr ⟨first,rest,split⟩

theorem copyPlace_not_made (base : Place) (key : String) (place : Place)
    (copy : CopyPlace base key place) (made : HomeDirectory base key place) : False := by
  rcases made with outside | assets | root
  · rw [copyPlace_below base key place copy] at outside
    cases outside
  · obtain ⟨name,proper,rfl⟩ := copy
    unfold home at assets
    split at assets
    · simp at assets
    · split at assets
      · exact (copyName_proper name proper).2.2.2 (by simpa using assets)
      · simp at assets
  · obtain ⟨name,_,rfl⟩ := copy
    simp at root

/-- In the cache itself, no directory is made but that of all images. -/
theorem made_in_cache (base : Place) (key name : String)
    (made : HomeDirectory base key (base ++ [name])) : name = "assets" := by
  rcases made with outside | assets | images
  · rw [isBelow_append _ _ (by simp)] at outside
    cases outside
  · exact child_inj _ _ _ assets
  · unfold home at images
    split at images
    · exact child_inj _ _ _ images
    · split at images <;> simp at images

theorem dots_of_home (base : Place) (key : String) (root : home base key = base) : key = ".." := by
  unfold home at root
  split at root
  · simp at root
  · split at root
    next dots => exact dots
    next => simp at root

/-- No copy of a user stands in the place of the cache file. -/
theorem entry_not_copy (base : Place) (user : String) :
    ¬ CopyPlace base (userKey user) (base ++ [fileName user]) := by
  rintro ⟨name,⟨position,image,copy⟩,same⟩
  obtain ⟨root,last⟩ := List.append_inj' same rfl
  have dots := dots_of_home base (userKey user) root.symm
  obtain ⟨c,rest,chars,digit⟩ := copyName_first position image
  rw [← copy,← (List.cons.inj last).1,fileName,dots] at chars
  cases chars
  exact absurd digit (by decide)

theorem bare_later {base : Place} {key : String} {written lost : Place → Prop} {t t' : FileTree}
    (bare : Bare base key t) (changes : Changes written (HomeDirectory base key) lost t t') :
    Bare base key t' := by
  intro name copy standing
  rcases changes.directories _ standing with before | made
  · exact bare name copy before
  · exact copyPlace_not_made base key _ ⟨name,copy,rfl⟩ made

namespace Store

variable (s : Store)

/-- The path of the cache does not lead through the inside of the cache. One that does has directories
made there, and through a directory in the place of a copy the name of an image can lead anywhere. -/
def Direct (current : Place) : Prop :=
  ∀ place, OnPath current s.directory place → isBelow (s.base current) place = false

theorem direct_of_noDots (current : Place) (noDots : ".." ∉ s.directory.parts) : s.Direct current := by
  rintro place ⟨start,⟨rest,whole⟩,rfl⟩
  have startDots : ".." ∉ start := fun member => noDots (whole ▸ List.mem_append_left rest member)
  unfold base destination
  rw [foldl_enter_names _ _ noDots,foldl_enter_names _ _ startDots,← whole,Bool.eq_false_iff]
  intro below
  obtain ⟨name,more,longer⟩ := (isBelow_iff _ _).mp below
  have lengths := congrArg List.length longer
  simp [Path.isAbsolute] at lengths

variable (current : Place) (user : String)

theorem onPath_imagesOf (direct : s.Direct current) (place : Place)
    (onPath : OnPath current (s.imagesOf user) place) :
    HomeDirectory (s.base current) (userKey user) place := by
  obtain ⟨start,inside,rfl⟩ := onPath
  rw [imagesOf_eq] at inside ⊢
  dsimp only at inside ⊢
  rcases List.prefix_or_prefix_of_prefix inside (List.prefix_append s.directory.parts _) with short | long
  · exact Or.inl (direct _ ⟨start,short,rfl⟩)
  · obtain ⟨more,rfl⟩ := long
    have tail : more <+: "assets" :: keyParts (userKey user) :=
      (List.prefix_append_right_inj _).mp inside
    rw [destination_append]
    cases more with
    | nil =>
      left
      exact direct _ (onPath_self current s.directory)
    | cons first more =>
      obtain ⟨rfl,keyTail⟩ := List.cons_prefix_cons.mp tail
      right
      have assets : enter (s.base current) "assets" = s.base current ++ ["assets"] :=
        enter_name _ _ (by decide)
      cases more with
      | nil => exact Or.inl assets
      | cons key more =>
        right
        have whole : key :: more = keyParts (userKey user) := by
          unfold keyParts at keyTail ⊢
          by_cases special : userKey user = "" ∨ userKey user = "."
          · simp [special] at keyTail
          · rw [if_neg special] at keyTail ⊢
            obtain ⟨same,rest⟩ := List.cons_prefix_cons.mp keyTail
            rw [same,List.prefix_nil.mp rest]
        rw [whole,← destination_imagesOf,imagesOf_eq,destination_append]

theorem keyParts_plain (name : String) (member : name ∈ "assets" :: keyParts (userKey user))
    (noDots : userKey user ≠ "..") : name ≠ ".." ∧ Char.ofNat 0 ∉ name.toList := by
  rcases List.mem_cons.mp member with rfl | key
  · decide
  · unfold keyParts at key
    split at key
    · cases key
    · rw [List.mem_singleton.mp key]
      exact ⟨noDots,fun null => absurd (mem_userKey user _ null) (by decide)⟩

/-- Removing what stands at the place of the images makes room for copies. -/
theorem bare_removed (t : FileTree) (wellFormed : t.WellFormed)
    (leads : t.LeadsToDirectory s.directory)
    (tidy : userKey user = ".." → Bare (s.base t.current) (userKey user) t) :
    Bare (s.base t.current) (userKey user) (t.removeTree (s.imagesOf user)) := by
  intro name copy standing
  cases located : t.locate (s.imagesOf user) with
  | ok place =>
    have same := (locate_place t _ _ located).1
    rw [destination_imagesOf] at same
    have below : isBelow place (home (s.base t.current) (userKey user) ++ [name]) = true := by
      rw [same]
      exact isBelow_append _ _ (by simp)
    rw [removeTree_empties t wellFormed _ _ _ located below] at standing
    cases standing
  | error refusal =>
    have untouched : t.removeTree (s.imagesOf user) = t := by unfold removeTree; rw [located]
    rw [untouched] at standing
    by_cases dots : userKey user = ".."
    · exact tidy dots name copy standing
    · -- The way to a directory in the place of a copy leads through the place of the images.
      have parent := (stands_in t wellFormed _ name [] _ standing).1
      rw [home_parts _ _ dots] at parent
      have found := locate_standing t wellFormed s.directory leads _
        (fun name member => keyParts_plain user name member dots) _ parent
      rw [← imagesOf_eq,located] at found
      cases found

theorem copyTarget_proper (target : Path) (position : Nat) (image : Project.AssetFile) :
    (target / copyName position image).parts ≠ [] := by
  obtain ⟨name,more,path,_⟩ := ofText_copyName position image
  show (target.append (Path.ofText _)).parts ≠ []
  rw [path]
  simp [Path.append,Path.isAbsolute]

theorem writeCopy_changes (t t' : FileTree) (position : Nat) (image : Project.AssetFile) (content : Content)
    (bare : Bare (s.base t.current) (userKey user) t)
    (written : t.write (s.imagesOf user / copyName position image) content = .ok t') :
    Changes (CopyPlace (s.base t.current) (userKey user)) nowhere nowhere t t' := by
  obtain ⟨name,more,path,copy⟩ := ofText_copyName position image
  have target : s.imagesOf user / copyName position image =
      ⟨(s.imagesOf user).slashes,(s.imagesOf user).parts ++ name :: more⟩ := by
    show (s.imagesOf user).append (Path.ofText _) = _
    rw [path]
    rfl
  have start : destination t.current ⟨(s.imagesOf user).slashes,(s.imagesOf user).parts ++ [name]⟩ =
      home (s.base t.current) (userKey user) ++ [name] := by
    rw [destination_append,destination_imagesOf]
    exact enter_name _ _ (copyName_proper name copy).2.2.1
  rw [target] at written
  cases more with
  | nil =>
    have changes := write_changes t t' _ content (by simp) written
    rw [start] at changes
    refine changes.weaken ?_ (fun _ => id) (fun _ => id)
    rintro place rfl
    exact ⟨name,copy,rfl⟩
  | cons next rest =>
    -- A longer path would lead through a directory in the place of a copy.
    obtain ⟨located,_,_⟩ := write_success t t' _ content written
    rw [List.append_cons] at located
    have through := locate_through t _ _ next rest _ located
    rw [start] at through
    exact absurd through (bare name copy)

section Keeping

variable (property : FileTree → Prop) (project : Project)

/-- Copying an image keeps what the making of the directory and the writing of the copy keep. -/
theorem stageImage_keeps (target : Path) (position : Nat) (image : Project.AssetFile)
    (making : ∀ t t', property t → t.makeDirectories target = .ok t' → property t')
    (writing : ∀ t t' content, property t →
      t.write (target / copyName position image) content = .ok t' → property t') :
    Work.Keeps property (stageImage target position image) := by
  unfold stageImage
  refine Work.keeps_bind _ _ _ (Work.keeps_ask _ _) fun source => ?_
  refine Work.keeps_bind _ _ _ (Work.keeps_ask _ _) fun present => ?_
  split
  · exact Work.keeps_pure _ _
  · refine Work.keeps_bind _ _ _ (Work.keeps_change _ _ making) fun _ =>
      Work.keeps_bind _ _ _ (Work.keeps_change _ _ fun t t' before copied => ?_) fun _ => Work.keeps_pure _ _
    obtain ⟨content,_,written⟩ := copy_success t t' _ _ copied
    exact writing t t' content before written

theorem stageAll_keeps (target : Path) (images : List Project.AssetFile)
    (each : ∀ image ∈ images, ∀ position, Work.Keeps property (stageImage target position image)) :
    Work.Keeps property (stageAll target images) := by
  unfold stageAll
  refine Work.keeps_mapM _ _ _ fun item member => ?_
  obtain ⟨image,position⟩ := item
  exact each image (List.fst_mem_of_mem_zipIdx member) position

theorem stage_keeps (removing : ∀ t, property t → property (t.removeTree (s.imagesOf user)))
    (each : ∀ image ∈ project.assets.images, ∀ position,
      Work.Keeps property (stageImage (s.imagesOf user) position image)) :
    Work.Keeps property (s.stage user project) := by
  unfold stage
  refine Work.keeps_bind _ _ _ (Work.keeps_modify _ _ fun w before => ?_) fun _ =>
    Work.keeps_bind _ _ _ (stageAll_keeps _ _ _ each) fun _ => Work.keeps_pure _ _
  dsimp only
  exact removing w.files before

end Keeping

theorem stageImage_changes (t : FileTree) (direct : s.Direct t.current)
    (bare : Bare (s.base t.current) (userKey user) t) (position : Nat) (image : Project.AssetFile) :
    Work.Keeps (Changes (CopyPlace (s.base t.current) (userKey user))
        (HomeDirectory (s.base t.current) (userKey user)) nowhere t)
      (stageImage (s.imagesOf user) position image) := by
  apply stageImage_keeps
  case making =>
    intro first second changes made
    obtain ⟨more,_⟩ := makeDirectories_success first second _ made
    rw [changes.current] at more
    exact changes.trans (more.weaken (fun _ => False.elim)
      (s.onPath_imagesOf t.current user direct) (fun _ => id))
  case writing =>
    intro first second content changes written
    have more := s.writeCopy_changes user first second _ _ content
      (by rw [changes.current]; exact bare_later bare changes) written
    rw [changes.current] at more
    exact changes.trans (more.weaken (fun _ => id) (fun _ => False.elim) (fun _ => id))

/-- The places of files that calls for a user can write: the entry and the copies. -/
def OwnFile (place : Place) : Prop :=
  place = s.base current ++ [fileName user] ∨ CopyPlace (s.base current) (userKey user) place

/-- The places of files that calls for a user can remove: the entry and all that stands where the
images are copied to. -/
def OwnGround (place : Place) : Prop :=
  place = s.base current ++ [fileName user] ∨ isBelow (home (s.base current) (userKey user)) place = true

/-- What calls for a user can remove lies in the cache. -/
theorem ownGround_inside (place : Place) (own : s.OwnGround current user place) : s.base current <+: place := by
  rcases own with rfl | below
  · exact List.prefix_append _ _
  · obtain ⟨name,rest,rfl⟩ := (isBelow_iff _ _).mp below
    refine List.IsPrefix.trans ?_ (List.prefix_append _ _)
    unfold home
    split
    · exact List.prefix_append _ _
    · split
      · exact List.prefix_refl _
      · exact List.prefix_append _ _

def OwnChanges (t t' : FileTree) : Prop :=
  Changes (s.OwnFile t.current user) (HomeDirectory (s.base t.current) (userKey user))
    (s.OwnGround t.current user) t t'

def StagingChanges (t t' : FileTree) : Prop :=
  Changes (CopyPlace (s.base t.current) (userKey user)) (HomeDirectory (s.base t.current) (userKey user))
    (fun place => isBelow (home (s.base t.current) (userKey user)) place = true) t t'

theorem stage_changes (project : Project) (w : Workspace) (direct : s.Direct w.files.current)
    (wellFormed : w.files.WellFormed) (leads : w.files.LeadsToDirectory s.directory)
    (tidy : userKey user = ".." → Bare (s.base w.files.current) (userKey user) w.files) :
    s.StagingChanges user w.files ((s.stage user project).after w).files := by
  have removal := removeTree_changes w.files (s.imagesOf user)
  rw [destination_imagesOf] at removal
  have bare := s.bare_removed user w.files wellFormed leads tidy
  generalize cleared : w.files.removeTree (s.imagesOf user) = bareTree at removal bare
  have same : bareTree.current = w.files.current := removal.current
  rw [← same] at direct bare
  have keeps := Work.keeps_bind _ (stageAll (s.imagesOf user) project.assets.images)
    (fun images => pure { project with assets := { project.assets with images } })
    (stageAll_keeps _ _ _ fun image _ position => s.stageImage_changes user bareTree direct bare position image)
    fun _ => Work.keeps_pure _ _
  have staged := keeps.holds { w with files := bareTree } (Changes.refl bareTree)
  have run := (Work.bind_done (modify fun w => { w with files := w.files.removeTree (s.imagesOf user) })
    (fun _ => stageAll (s.imagesOf user) project.assets.images >>= fun images =>
      pure { project with assets := { project.assets with images } }) w () (Work.modify_result _ _)).2
  rw [Work.modify_after,cleared] at run
  unfold StagingChanges stage
  rw [run]
  rw [same] at staged
  exact (removal.weaken (fun _ => False.elim) (fun _ => False.elim) fun _ => id).trans
    (staged.weaken (fun _ => id) (fun _ => id) fun _ => False.elim)

/-- Reading the clock leaves the files alone. -/
def ClockOnly : Prop := ∀ w, (s.clock.after w).files = w.files

/-- Storing keeps what its steps keep, if the clock leaves the files alone. -/
theorem put_keeps (property : FileTree → Prop) (project : Project) (detections : Table Detection) (clock : s.ClockOnly)
    (making : ∀ t t', property t → t.makeDirectories s.directory = .ok t' → property t')
    (staging : Work.Keeps property (s.stage user project))
    (writing : ∀ t t' content, property t → t.write (s.fileOf user) content = .ok t' → property t') :
    Work.Keeps property (s.put user project detections) := by
  have reads : Work.Keeps property s.clock := ⟨fun w before => by rw [clock w]; exact before⟩
  unfold put
  exact Work.keeps_bind _ _ _ (Work.keeps_change _ _ making) fun _ =>
    Work.keeps_bind _ _ _ staging fun project =>
    Work.keeps_bind _ _ _ reads fun now =>
    Work.keeps_bind _ _ _ (Work.keeps_change _ _ fun t t' => writing t t' _) fun _ => Work.keeps_pure _ _

/-- How storing ends: without an entry, or with one of the user that is written last. -/
def Stored (staged : FileTree) : Except Failure Entry → FileTree → Prop
  | .error _, files => files = staged
  | .ok entry, files => entry.user = .str user ∧
      staged.write (s.fileOf user) (.document (.json .spaced) entry.toValue) = .ok files

theorem put_ensures (project : Project) (detections : Table Detection) (w : Workspace)
    (direct : s.Direct w.files.current) (wellFormed : w.files.WellFormed)
    (tidy : userKey user = ".." → Bare (s.base w.files.current) (userKey user) w.files)
    (clock : s.ClockOnly) :
    Work.Ensures (s.put user project detections) w fun result files =>
      ∃ staged, s.StagingChanges user w.files staged ∧ s.Stored user staged result files := by
  unfold put
  refine Work.ensures_change _ _ _ _ (fun _ => ⟨_,Changes.refl _,rfl⟩) fun made making => ?_
  obtain ⟨first,leads⟩ := makeDirectories_success _ _ _ making
  have opening : s.StagingChanges user w.files made :=
    first.weaken (fun _ => False.elim) (fun place onPath => Or.inl (direct place onPath))
      (fun _ => False.elim)
  have staging := s.stage_changes user project { w with files := made }
    (by rw [show made.current = _ from first.current]; exact direct) (first.wellFormed wellFormed) leads
    (fun dots => by
      rw [show made.current = _ from first.current]
      exact bare_later (tidy dots) opening)
  rw [StagingChanges,show made.current = _ from first.current] at staging
  have staged := opening.trans staging
  refine Work.ensures_bind _ _ _ _ (fun _ _ => ⟨_,staged,rfl⟩) fun project _ => ?_
  refine Work.ensures_bind _ _ _ _ (fun _ _ => ⟨_,staged,clock _⟩) fun now _ => ?_
  refine Work.ensures_change _ _ _ _ (fun _ => ⟨_,staged,clock _⟩) fun files writing => ?_
  rw [clock] at writing
  exact Work.ensures_pure _ _ _ ⟨_,staged,rfl,writing⟩

theorem delete_changes (w : Workspace) :
    Changes nowhere nowhere (s.OwnGround w.files.current user) w.files
      ((s.delete user).after w).files := by
  suffices deletes : Work.Ensures (s.delete user) w fun _ files =>
      Changes nowhere nowhere (s.OwnGround w.files.current user) w.files files from deletes.holds
  unfold delete
  refine Work.ensures_change _ _ _ _ (fun _ => Changes.refl _) fun unlinked removing => ?_
  have first := unlink_changes _ _ _ removing
  have second := removeTree_changes unlinked (s.imagesOf user)
  rw [destination_fileOf] at first
  rw [destination_imagesOf,show unlinked.current = _ from first.current] at second
  refine Work.ensures_modify _ _ _ ?_
  dsimp only
  exact (first.weaken (fun _ => id) (fun _ => id) fun _ => Or.inl).trans
    (second.weaken (fun _ => id) (fun _ => id) fun _ => Or.inr)

/-- How asking ends: with the entry in the file, all files as before, or with something of the user
removed at most. -/
def Answered (files : FileTree) : Except Failure (Option Entry) → FileTree → Prop
  | .ok (some entry), after => after = files ∧ readEntry files (s.fileOf user) = .ok entry
  | _, after => Changes nowhere nowhere (s.OwnGround files.current user) files after

theorem get_ensures (w : Workspace) (clock : s.ClockOnly) :
    Work.Ensures (s.get user) w (s.Answered user w.files) := by
  have dropped : ∀ w' : Workspace, w'.files = w.files →
      Work.Ensures (do s.delete user; return none) w' (s.Answered user w.files) := by
    intro w' same
    have removal := s.delete_changes user w'
    rw [same] at removal
    exact Work.ensures_bind _ _ _ _ (fun _ _ => removal) fun _ _ => Work.ensures_pure _ _ _ removal
  unfold get
  refine Work.ensures_ask _ _ _ _ (fun _ => Changes.refl _) fun present _ => ?_
  cases present with
  | false => exact Work.ensures_pure _ _ _ (Changes.refl _)
  | true =>
    rw [if_neg (by decide)]
    refine Work.ensures_get _ _ _ ?_
    cases found : readEntry w.files (s.fileOf user) with
    | error failure =>
      dsimp only
      split
      · exact dropped w rfl
      · exact Work.ensures_throw _ _ _ (Changes.refl _)
    | ok entry =>
      dsimp only
      have kept : ∀ files, files = w.files →
          Changes nowhere nowhere (s.OwnGround w.files.current user) w.files files := by
        rintro files rfl
        exact Changes.refl _
      refine Work.ensures_bind _ _ _ _ (fun _ _ => kept _ (clock w)) fun now _ => ?_
      refine Work.ensures_ofExcept _ _ _ _ (fun _ _ => kept _ (clock w)) fun expired _ => ?_
      split
      · exact dropped _ (clock w)
      · exact Work.ensures_pure _ _ _ ⟨clock w,found⟩

end Store

end Pagewright.Cache
