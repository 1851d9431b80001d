import Pagewright.Proofs.Archive.Extraction
import Pagewright.Proofs.Cache.Owners
import Pagewright.Proofs.Cache.Progress
import Pagewright.Proofs.Files.Survival
import Pagewright.Proofs.Host.Directories
import Pagewright.Proofs.Project.Analysis

/-! Images that are stored with an analysis. Where every image has a file that is found off the place of the
copies, each of them is copied under a name of its own, and the stored analysis names the copies. -/
namespace Pagewright.Cache
open FileTree

/-- Copies of different positions have different names. -/
theorem copyName_position (position other : Nat) (image image' : Project.AssetFile)
    (same : Store.copyName position image = Store.copyName other image') : position = other := by
  have number (n : Nat) (image : Project.AssetFile) :
      (Store.copyName n image).toList.takeWhile (·.isDigit) = Decimal.padZeros 4 (Nat.toDigits 10 n) := by
    rw [copyName_chars,List.takeWhile_append_of_pos (isDigit_of_mem_padZeros n),
      List.takeWhile_cons_of_neg (by decide),List.append_nil]
  rw [← Decimal.ofDigitChars_padZeros position 4,← Decimal.ofDigitChars_padZeros other 4,← number position image,same,number]

theorem copyName_component (position : Nat) (image : Project.AssetFile) (whole : '/' ∉ image.name.text.toList) :
    Path.IsComponent (Store.copyName position image) := by
  have proper := copyName_proper _ ⟨position,image,rfl⟩
  refine ⟨fun slash => ?_,proper.1,proper.2.1⟩
  rw [copyName_chars] at slash
  rcases List.mem_append.mp slash with number | rest
  · exact absurd (isDigit_of_mem_padZeros position _ number) (by decide)
  · exact whole ((List.mem_cons.mp rest).resolve_left (by decide))

/-- An image whose file is found by a path that does not lead through a ground. -/
structure Sourced (ground : Place → Prop) (t : FileTree) (image : Project.AssetFile) (source : Path)
    (content : Content) : Prop where
  path : Store.imagePath image = .ok source
  component : Path.IsComponent image.name.text
  located : t.locate source = .ok (destination t.current source)
  standing : t.find? (destination t.current source) = some (.file content)
  off : ∀ place, OnPath t.current source place → ¬ ground place

theorem Sourced.later {ground : Place → Prop} {t t' : FileTree} {image : Project.AssetFile} {source : Path}
    {content : Content} (sourced : Sourced ground t image source content) (spares : Spares ground t t') :
    Sourced ground t' image source content where
  path := sourced.path
  component := sourced.component
  located := by
    rw [spares.current]
    exact locate_spared t t' spares source _ sourced.off sourced.located
  standing := by
    rw [spares.current]
    exact spares.stands _ _ (sourced.off _ (onPath_self _ _)) sourced.standing
  off place onPath := sourced.off place (spares.current ▸ onPath)

theorem read_assets (stored entry : Entry) (ok : Entry.read stored.toValue = .ok entry) :
    entry.project.assets = stored.project.assets := by
  obtain ⟨_,_,data,found,read⟩ := read_parts _ entry ok
  have same : stored.project.toValue true = data := Except.ok.inj found
  exact Project.read_assets _ entry.project (same ▸ read)

namespace Store

variable (s : Store) (user : String)

/-- An image that names its copy. -/
def stagedImage (position : Nat) (image : Project.AssetFile) : Project.AssetFile :=
  { image with path := .str (s.imagesOf user / copyName position image).text }

/-- A tree in which an image has its copy. -/
structure Copied (t : FileTree) (position : Nat) (image : Project.AssetFile) (content : Content) : Prop where
  assets : t.find? (s.base t.current ++ ["assets"]) = some .directory
  home : t.find? (home (s.base t.current) (userKey user)) = some .directory
  standing : t.find? (Cache.home (s.base t.current) (userKey user) ++ [copyName position image]) = some (.file content)
  component : Path.IsComponent image.name.text
  clean : Char.ofNat 0 ∉ (copyName position image).toList

/-- The way to the images of a user leads through the directory of all images. -/
theorem assets_of_images (t : FileTree) (leads : t.LeadsToDirectory (s.imagesOf user)) :
    t.find? (s.base t.current ++ ["assets"]) = some .directory := by
  obtain ⟨located,standing⟩ := leads
  have assets : destination t.current ⟨s.directory.slashes,s.directory.parts ++ ["assets"]⟩ =
      s.base t.current ++ ["assets"] := Archive.destination_below _ _ _ (by decide)
  rw [imagesOf_eq] at located standing
  cases parts : keyParts (userKey user) with
  | nil =>
    rw [parts,assets] at standing
    exact standing
  | cons key rest =>
    rw [parts,← List.singleton_append,← List.append_assoc] at located
    rw [← assets]
    exact locate_through t s.directory.slashes _ key rest _ located

theorem home_in_cache (base : Place) (key : String) : base <+: Cache.home base key := by
  unfold Cache.home
  split
  · exact List.prefix_append _ _
  · split
    · exact List.prefix_refl _
    · exact List.prefix_append _ _

theorem images_lead (t : FileTree) (wellFormed : t.WellFormed) (leads : t.LeadsToDirectory s.directory)
    (assets : t.find? (s.base t.current ++ ["assets"]) = some .directory)
    (standing : t.find? (home (s.base t.current) (userKey user)) = some .directory) :
    t.LeadsToDirectory (s.imagesOf user) := by
  refine ⟨?_,by rw [destination_imagesOf]; exact standing⟩
  rw [destination_imagesOf]
  by_cases special : Special (userKey user)
  · exact s.special_located user t wellFormed leads special assets
  · have noDots : userKey user ≠ ".." := fun dots => special (.inr (.inr dots))
    rw [imagesOf_eq]
    rw [home_parts _ _ noDots] at standing ⊢
    exact locate_standing t wellFormed s.directory leads _ (fun name member => keyParts_plain user name member noDots)
      _ standing

theorem destination_copy (current : Place) (position : Nat) (image : Project.AssetFile)
    (whole : '/' ∉ image.name.text.toList) : destination current (s.imagesOf user / copyName position image) =
      home (s.base current) (userKey user) ++ [copyName position image] := by
  rw [destination_name _ _ _ (copyName_component position image whole) (copyName_proper _ ⟨position,image,rfl⟩).2.2.1,
    destination_imagesOf]

theorem Copied.later {t t' : FileTree} {position : Nat} {image : Project.AssetFile} {content : Content}
    {ground : Place → Prop} (copied : s.Copied user t position image content) (spares : Spares ground t t')
    (assets : ¬ ground (s.base t.current ++ ["assets"]))
    (images : ¬ ground (Cache.home (s.base t.current) (userKey user)))
    (own : ¬ ground (Cache.home (s.base t.current) (userKey user) ++ [copyName position image])) :
    s.Copied user t' position image content where
  assets := by rw [spares.current]; exact spares.stands _ _ assets copied.assets
  home := by rw [spares.current]; exact spares.stands _ _ images copied.home
  standing := by rw [spares.current]; exact spares.stands _ _ own copied.standing
  component := copied.component
  clean := copied.clean

/-- A copy is still there where nothing in the cache has changed. -/
theorem Copied.unchanged {t t' : FileTree} {position : Nat} {image : Project.AssetFile} {content : Content}
    (copied : s.Copied user t position image content) (current : t'.current = t.current)
    (same : ∀ place, s.base t.current <+: place → t'.find? place = t.find? place) :
    s.Copied user t' position image content where
  assets := by rw [current,same _ (List.prefix_append _ _)]; exact copied.assets
  home := by rw [current,same _ (home_in_cache _ _)]; exact copied.home
  standing := by
    rw [current,same _ ((home_in_cache _ _).trans (List.prefix_append _ _))]
    exact copied.standing
  component := copied.component
  clean := copied.clean

/-- The places of the images of the user. -/
def InHome (current : Place) (place : Place) : Prop := home (s.base current) (userKey user) <+: place

/-- The places of copies from a position on. -/
def CopyFrom (current : Place) (first : Nat) (place : Place) : Prop :=
  ∃ position image, first ≤ position ∧ place = home (s.base current) (userKey user) ++ [copyName position image]

theorem copyFrom_inHome (current : Place) (first : Nat) (place : Place) (copy : s.CopyFrom user current first place) :
    s.InHome user current place := by
  obtain ⟨position,image,_,rfl⟩ := copy
  exact List.prefix_append _ _

/-- The directories on the way to the copies are no copies. -/
theorem home_not_copy (current : Place) (first : Nat) :
    ¬ s.CopyFrom user current first (s.base current ++ ["assets"]) ∧
      ¬ s.CopyFrom user current first (home (s.base current) (userKey user)) := by
  refine ⟨?_,?_⟩
  · rintro ⟨position,image,_,same⟩
    exact copyPlace_not_made _ _ _ ⟨_,⟨position,image,rfl⟩,same⟩ (.inr (.inl rfl))
  · rintro ⟨position,image,_,same⟩
    exact copyPlace_not_made _ _ _ ⟨_,⟨position,image,rfl⟩,same⟩ (.inr (.inr rfl))

section Staging

variable (w w' : Workspace)

/-- An image that has its file is copied. -/
theorem stageImage_success (position : Nat) (image : Project.AssetFile) (source : Path) (content : Content)
    (staged : Project.AssetFile)
    (sourced : Sourced (s.InHome user w.files.current) w.files image source content)
    (ok : (stageImage (s.imagesOf user) position image).run.run w = (.ok staged,w')) :
    staged = s.stagedImage user position image ∧ w' = { w with files := w'.files } ∧
      Spares (· = home (s.base w.files.current) (userKey user) ++ [copyName position image]) w.files w'.files ∧
      s.Copied user w'.files position image content := by
  have present := isFile_standing w.files source _ content sourced.located sourced.standing
  unfold stageImage at ok
  rw [run_bind,Work.ask_run,sourced.path] at ok
  dsimp only [Except.mapError] at ok
  rw [run_bind,Work.ask_run,present] at ok
  dsimp only [Except.mapError] at ok
  rw [if_neg nofun] at ok
  obtain ⟨_,w₁,making,ok⟩ := run_bind_success _ _ _ _ _ ok
  obtain ⟨_,w₂,copying,ok⟩ := run_bind_success _ _ _ _ _ ok
  obtain ⟨made,makes,rfl⟩ := Work.change_success _ _ _ making
  obtain ⟨copied,copies,rfl⟩ := Work.change_success _ _ _ copying
  cases ok
  obtain ⟨content',read,written⟩ := copy_success made copied source _ copies
  have making' := makeDirectories_spares w.files made _ makes
  have current : made.current = w.files.current := making'.current
  have writing := write_spares made copied _ content' written
  have target := s.destination_copy user made.current position image sourced.component.1
  rw [target] at writing
  have whole : content' = content := by
    have later := sourced.later (making'.weaken fun _ => False.elim)
    rw [read_standing made source _ content later.located later.standing] at read
    exact (Except.ok.inj read).symm
  obtain ⟨located,standing⟩ := write_leads made copied _ content' written
  obtain ⟨_,leads⟩ := makeDirectories_success _ _ _ makes
  have noCopy := s.home_not_copy user made.current position
  refine ⟨rfl,rfl,?_,?_⟩
  · rw [current] at writing
    exact (making'.weaken fun _ => False.elim).trans writing
  · constructor
    case assets =>
      rw [writing.current]
      exact writing.stands _ _ (fun same => noCopy.1 ⟨position,image,Nat.le_refl _,same⟩)
        (s.assets_of_images user made leads)
    case home =>
      rw [writing.current]
      refine writing.stands _ _ (fun same => noCopy.2 ⟨position,image,Nat.le_refl _,same⟩) ?_
      rw [← destination_imagesOf]
      exact leads.2
    case standing =>
      rw [writing.current,← target,← whole]
      exact standing
    case component => exact sourced.component
    case clean =>
      refine Archive.noNull_of_locate copied _ _ located _ ?_
      rw [Path.append_name _ _ (copyName_component position image sourced.component.1)]
      simp

/-- Staging images with names of their own leaves everything but the images of the user. -/
theorem stage_spares (t : FileTree) (project : Project)
    (whole : ∀ image ∈ project.assets.images, '/' ∉ image.name.text.toList) :
    Work.Keeps (Spares (s.InHome user t.current) t) (s.stage user project) := by
  refine s.stage_keeps user _ project ?_ fun image member position => stageImage_keeps _ _ _ _ ?_ ?_
  · intro t' before
    have cleared := removeTree_spares t' (s.imagesOf user)
    rw [destination_imagesOf,before.current] at cleared
    exact before.trans (cleared.weaken fun _ => id)
  · exact fun t₁ t₂ before made =>
      before.trans ((makeDirectories_spares t₁ t₂ _ made).weaken fun _ => False.elim)
  · intro t₁ t₂ content before written
    refine before.trans ((write_spares t₁ t₂ _ content written).weaken fun place same => ?_)
    rw [same,before.current,s.destination_copy user _ position image (whole image member)]
    exact List.prefix_append _ _

/-- The places that storing for a user can touch: the images, and the entry. -/
def Ground (current : Place) (place : Place) : Prop :=
  s.InHome user current place ∨ place = s.base current ++ [fileName user]

theorem put_spares (t : FileTree) (project : Project) (detections : Table Detection) (clock : s.ClockOnly)
    (whole : ∀ image ∈ project.assets.images, '/' ∉ image.name.text.toList) :
    Work.Keeps (Spares (s.Ground user t.current) t) (s.put user project detections) := by
  have stages : Work.Keeps (Spares (s.Ground user t.current) t) (s.stage user project) := by
    refine ⟨fun w before => ?_⟩
    have staged := (s.stage_spares user w.files project whole).holds w (.refl _)
    rw [before.current] at staged
    exact before.trans (staged.weaken fun _ => .inl)
  refine s.put_keeps user _ project detections clock ?_ stages ?_
  · exact fun t₁ t₂ before made =>
      before.trans ((makeDirectories_spares t₁ t₂ _ made).weaken fun _ => False.elim)
  · intro t₁ t₂ content before written
    refine before.trans ((write_spares t₁ t₂ _ content written).weaken fun place same => ?_)
    rw [destination_fileOf,before.current] at same
    exact .inr same

variable {α : Type} (image : α → Project.AssetFile) (content : α → Content)

/-- Images that have their files are all copied, one after another, and no copy takes the place of another one. -/
theorem stageFrom_success (items : List α) (first : Nat) (staged : List Project.AssetFile)
    (sourced : ∀ a ∈ items, ∃ source,
      Sourced (s.InHome user w.files.current) w.files (image a) source (content a))
    (ok : (((items.map image).zipIdx first).mapM fun (image,position) =>
      stageImage (s.imagesOf user) position image).run.run w = (.ok staged,w')) :
    staged = (items.zipIdx first).map (fun e => s.stagedImage user e.2 (image e.1)) ∧
      w' = { w with files := w'.files } ∧
      Spares (s.CopyFrom user w.files.current first) w.files w'.files ∧
      ∀ e ∈ items.zipIdx first, s.Copied user w'.files e.2 (image e.1) (content e.1) := by
  induction items generalizing first w staged with
  | nil =>
    cases ok
    exact ⟨rfl,rfl,.refl _,fun e member => by cases member⟩
  | cons a items ih =>
    rw [List.map_cons,List.zipIdx_cons,List.mapM_cons] at ok
    obtain ⟨one,w₁,staging,ok⟩ := run_bind_success _ _ _ _ _ ok
    obtain ⟨more,w₂,rest,ok⟩ := run_bind_success _ _ _ _ _ ok
    cases ok
    obtain ⟨source,has⟩ := sourced a List.mem_cons_self
    obtain ⟨rfl,state,spares,copied⟩ := s.stageImage_success user w w₁ first (image a) source (content a) one has staging
    have later : Spares (s.CopyFrom user w.files.current first) w.files w₁.files :=
      spares.weaken fun place same => ⟨first,image a,Nat.le_refl _,same⟩
    have home := later.weaken (s.copyFrom_inHome user _ first)
    obtain ⟨rfl,state',spares',copies⟩ := ih w₁ (first + 1) more (fun b member => by
      obtain ⟨source,has⟩ := sourced b (List.mem_cons_of_mem a member)
      exact ⟨source,spares.current ▸ has.later home⟩) rest
    have noCopy := s.home_not_copy user w₁.files.current (first + 1)
    refine ⟨rfl,?_,later.trans (spares'.weaken ?_),fun e member => ?_⟩
    · rw [state',state]
    · rw [spares.current]
      rintro place ⟨position,other,after,same⟩
      exact ⟨position,other,Nat.le_of_succ_le after,same⟩
    · rw [List.zipIdx_cons] at member
      rcases List.mem_cons.mp member with rfl | later
      · refine copied.later s user spares' noCopy.1 noCopy.2 ?_
        rintro ⟨position,other,after,same⟩
        have names := copyName_position _ _ _ _ (child_inj _ _ _ same)
        omega
      · exact copies e later

variable (items : List α) (project : Project) (images : project.assets.images = items.map image)
  (sourced : ∀ a ∈ items, ∃ source, Sourced (s.InHome user w.files.current) w.files (image a) source (content a))
include images sourced

/-- A project with its images staged. -/
structure Stages (staged : Project) (t : FileTree) : Prop where
  images : staged = { project with assets := { project.assets with
    images := items.zipIdx.map fun e => s.stagedImage user e.2 (image e.1) } }
  copies : ∀ e ∈ items.zipIdx, s.Copied user t e.2 (image e.1) (content e.1)

theorem stage_success (staged : Project) (ok : (s.stage user project).run.run w = (.ok staged,w')) :
    s.Stages user image content items project staged w'.files := by
  obtain ⟨_,w₁,clearing,ok⟩ := run_bind_success _ _ _ _ _ ok
  obtain ⟨copies,w₂,staging,ok⟩ := run_bind_success _ _ _ _ _ ok
  cases ok
  rw [Work.modify_run] at clearing
  obtain ⟨_,rfl⟩ := Prod.mk.inj clearing
  have cleared := removeTree_spares w.files (s.imagesOf user)
  rw [destination_imagesOf] at cleared
  unfold stageAll at staging
  rw [images] at staging
  generalize w.files.removeTree (s.imagesOf user) = files at staging cleared
  have sources : ∀ a ∈ items, ∃ source, Sourced (s.InHome user files.current) files (image a) source (content a) := by
    intro a member
    obtain ⟨source,has⟩ := sourced a member
    rw [cleared.current]
    exact ⟨source,has.later cleared⟩
  obtain ⟨rfl,_,_,copied⟩ := s.stageFrom_success user { w with files } w' image content items 0 copies sources staging
  exact ⟨rfl,copied⟩

omit images sourced in
theorem put_course (clock : s.ClockOnly) (detections : Table Detection) (entry : Entry)
    (ok : (s.put user project detections).run.run w = (.ok entry,w')) :
    ∃ opened w₁, w.files.makeDirectories s.directory = .ok opened ∧
      (s.stage user project).run.run { w with files := opened } = (.ok entry.project,w₁) ∧
      w₁.files.write (s.fileOf user) (.document (.json .spaced) entry.toValue) = .ok w'.files := by
  obtain ⟨_,w₁,opening,ok⟩ := run_bind_success _ _ _ _ _ ok
  obtain ⟨staged,w₂,staging,ok⟩ := run_bind_success _ _ _ _ _ ok
  obtain ⟨now,w₃,reading,ok⟩ := run_bind_success _ _ _ _ _ ok
  obtain ⟨_,w₄,writing,ok⟩ := run_bind_success _ _ _ _ _ ok
  cases ok
  obtain ⟨opened,opens,rfl⟩ := Work.change_success _ _ _ opening
  obtain ⟨files,written,rfl⟩ := Work.change_success _ _ _ writing
  have same : w₃.files = w₂.files := by
    have after := clock w₂
    unfold Work.after at after
    rw [reading] at after
    exact after
  rw [same] at written
  exact ⟨opened,w₂,opens,staging,written⟩

/-- What is stored for a user: the entry, and a copy of every image. -/
theorem put_success (clock : s.ClockOnly) (detections : Table Detection) (entry : Entry)
    (ok : (s.put user project detections).run.run w = (.ok entry,w')) :
    s.Stages user image content items project entry.project w'.files ∧
      w'.files.find? (s.base w.files.current ++ [fileName user]) =
        some (.file (.document (.json .spaced) entry.toValue)) := by
  obtain ⟨opened,w₁,opens,staging,written⟩ := s.put_course user w w' project clock detections entry ok
  have opens' : Spares (s.InHome user w.files.current) w.files opened :=
    (makeDirectories_spares _ _ _ opens).weaken fun _ => False.elim
  have sources : ∀ a ∈ items, ∃ source, Sourced (s.InHome user opened.current) opened (image a) source (content a) := by
    intro a member
    obtain ⟨source,has⟩ := sourced a member
    rw [opens'.current]
    exact ⟨source,has.later opens'⟩
  have stages := s.stage_success user { w with files := opened } w₁ image content items project images sources
    entry.project staging
  have whole : ∀ image ∈ project.assets.images, '/' ∉ image.name.text.toList := by
    rw [images]
    intro image member
    obtain ⟨a,inside,rfl⟩ := List.mem_map.mp member
    obtain ⟨source,has⟩ := sourced a inside
    exact has.component.1
  have spares := (s.stage_spares user opened project whole).holds { w with files := opened } (.refl _)
  unfold Work.after at spares
  rw [staging] at spares
  have current := spares.current.trans opens'.current
  obtain ⟨_,standing⟩ := write_leads _ _ _ _ written
  have writes := write_spares _ _ _ _ written
  have noDirectory := (write_success _ _ _ _ written).2.1
  rw [destination_fileOf] at standing writes noDirectory
  refine ⟨⟨stages.images,fun e member => ?_⟩,current ▸ standing⟩
  -- The entry is in the place of no copy, nor of a directory on the way to the copies.
  have copied := stages.copies e member
  refine copied.later s user writes (fun same => ?_) (fun same => ?_) (fun same => ?_)
  · exact noDirectory (same ▸ copied.assets)
  · exact noDirectory (same ▸ copied.home)
  · exact entry_not_copy _ _ ⟨_,⟨_,_,rfl⟩,same.symm⟩

omit images sourced in
/-- A directory in the place of the entry is in the way, unless it is removed with the images. -/
theorem put_entry_free (clock : s.ClockOnly) (detections : Table Detection) (entry : Entry)
    (whole : ∀ image ∈ project.assets.images, '/' ∉ image.name.text.toList)
    (ok : (s.put user project detections).run.run w = (.ok entry,w'))
    (directory : w.files.find? (s.base w.files.current ++ [fileName user]) = some .directory) :
    s.InHome user w.files.current (s.base w.files.current ++ [fileName user]) := by
  obtain ⟨opened,w₁,opens,staging,written⟩ := s.put_course user w w' project clock detections entry ok
  have opens' := makeDirectories_spares _ _ _ opens
  have spares := (s.stage_spares user opened project whole).holds { w with files := opened } (.refl _)
  unfold Work.after at spares
  rw [staging] at spares
  have noDirectory := (write_success _ _ _ _ written).2.1
  rw [destination_fileOf,spares.current,opens'.current] at noDirectory
  rw [opens'.current] at spares
  by_contra apart
  exact noDirectory (spares.stands _ _ apart (opens'.stands _ _ id directory))

end Staging

section Recalling

variable (w w' : Workspace)

/-- What is recalled for a user are the assets of the entry that stands in its place. -/
theorem get_assets (clock : s.ClockOnly) (entry : Entry) (ok : (s.get user).run.run w = (.ok (some entry),w')) :
    w'.files = w.files ∧ ∃ content, w.files.find? (s.base w.files.current ++ [fileName user]) = some (.file content) ∧
      ∀ stored : Entry, content = .document (.json .spaced) stored.toValue →
        entry.project.assets = stored.project.assets := by
  have answered := (s.get_ensures user w clock).holds
  unfold Work.result Work.after at answered
  rw [ok] at answered
  obtain ⟨same,read⟩ := answered
  obtain ⟨content,data,found,decoded,read⟩ := readEntry_success w.files _ entry read
  have standing := read_stands w.files _ content found
  rw [destination_fileOf] at standing
  refine ⟨same,content,standing,?_⟩
  rintro stored rfl
  cases decoded
  exact read_assets stored entry read

/-- Deleting what is stored for a user leaves everything outside of the cache alone. -/
theorem delete_elsewhere (ok : (s.delete user).run.run w = (.ok (),w')) (place : Place)
    (off : ¬ s.base w.files.current <+: place) : w'.files.find? place = w.files.find? place := by
  have changes := s.delete_changes user w
  unfold Work.after at changes
  rw [ok] at changes
  obtain ⟨_,w₁,removing,clearing⟩ := run_bind_success _ _ _ _ _ ok
  obtain ⟨files,removed,rfl⟩ := Work.change_success _ _ _ removing
  rw [Work.modify_run] at clearing
  obtain ⟨_,rfl⟩ := Prod.mk.inj clearing
  have unlinked := unlink_spares w.files files _ removed
  have cleared := removeTree_spares files (s.imagesOf user)
  rw [destination_fileOf] at unlinked
  rw [destination_imagesOf,unlinked.current] at cleared
  dsimp only at changes ⊢
  generalize files.removeTree (s.imagesOf user) = left at *
  cases standing : w.files.find? place with
  | some entry =>
    refine cleared.stands place entry (fun inside => off ((home_in_cache _ _).trans inside)) ?_
    refine unlinked.stands place entry (fun same => off ?_) standing
    rw [same]
    exact List.prefix_append _ _
  | none =>
    cases later : left.find? place with
    | none => rfl
    | some entry =>
      cases entry with
      | file content => cases standing.symm.trans ((changes.files place content later).resolve_right id)
      | directory => cases standing.symm.trans ((changes.directories place later).resolve_right id)

end Recalling

end Store

end Pagewright.Cache
