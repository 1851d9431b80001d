import Pagewright.Proofs.Archive.Progress
import Pagewright.Proofs.Project.Acceptance

/-! What the members of an archive say, whatever their order. Members with names that go together are unpacked if each
of them can be stored, and then exactly what they say stands in the directory. -/
namespace Pagewright
open FileTree

namespace Archive

/-- What is said of a member: its components, its kind, and its data if they can be read. -/
structure Item where
  names : List String
  isDirectory : Bool
  data : Option ByteArray

def Member.item (m : Member) : Item := ⟨nameParts m.name,m.isDirectory,m.data.toOption⟩

/-- The item in a directory of its own. -/
def Item.below (wrapper : List String) (i : Item) : Item := { i with names := wrapper ++ i.names }

/-- An item that can be written where nothing is in its way. -/
structure Item.Storable (i : Item) : Prop where
  fits : ∀ name ∈ i.names, Fits name
  readable : i.isDirectory = false → i.data.isSome = true

section Items

variable (items : List Item)

/-- A file has these names. -/
def FileAt (names : List String) : Prop := ∃ i ∈ items, i.isDirectory = false ∧ i.names = names

/-- A directory has these names, or something in it does. -/
def FolderAt (names : List String) : Prop :=
  ∃ i ∈ items, i.isDirectory = true ∧ i.names = names ∨ ∃ name rest, i.names = names ++ name :: rest

theorem folderAt_iff (names : List String) : FolderAt items names ↔
    ∃ i ∈ items, i.isDirectory = true ∧ i.names = names ∨ names <+: i.names ∧ i.names ≠ names := by
  refine exists_congr fun i => and_congr_right fun _ => or_congr_right ⟨?_,?_⟩
  · rintro ⟨name,rest,longer⟩
    rw [longer]
    exact ⟨List.prefix_append _ _,by simp⟩
  · rintro ⟨⟨rest,longer⟩,other⟩
    cases rest with
    | nil => exact absurd (longer.symm.trans (List.append_nil _)) other
    | cons name rest => exact ⟨name,rest,longer.symm⟩

instance (names : List String) : Decidable (FileAt items names) :=
  inferInstanceAs (Decidable (∃ i ∈ items, i.isDirectory = false ∧ i.names = names))

instance (names : List String) : Decidable (FolderAt items names) := decidable_of_iff' _ (folderAt_iff items names)

/-- Items that can stand side by side. -/
structure Sound : Prop where
  named : ∀ i ∈ items, i.names ≠ []
  once : (items.map fun i => (i.names,i.isDirectory)).Nodup
  apart : ∀ names, FileAt items names → ¬ FolderAt items names

/-- What the items say of names. -/
def Stands (names : List String) : Entry → Prop
  | .directory => FolderAt items names
  | .file content => ∃ i ∈ items, i.isDirectory = false ∧ i.names = names ∧ i.data.map .bytes = some content

variable {items}

theorem folderAt_top (sound : Sound items) (filled : items ≠ []) : FolderAt items [] := by
  obtain ⟨i,member⟩ := List.exists_mem_of_ne_nil items filled
  obtain ⟨name,rest,split⟩ := List.exists_cons_of_ne_nil (sound.named i member)
  exact ⟨i,member,.inr ⟨name,rest,split⟩⟩

theorem Sound.unique (sound : Sound items) (i j : Item) (here : i ∈ items) (there : j ∈ items) (names : i.names = j.names)
    (kind : i.isDirectory = j.isDirectory) : i = j :=
  List.inj_on_of_nodup_map sound.once here there (Prod.ext names kind)

theorem Sound.earlier {first last : List Item} (sound : Sound (first ++ last)) : Sound first where
  named i member := sound.named i (List.mem_append_left _ member)
  once := by
    have once := sound.once
    rw [List.map_append] at once
    exact once.of_append_left
  apart names := fun ⟨i,member,file⟩ ⟨j,other,folder⟩ =>
    sound.apart names ⟨i,List.mem_append_left _ member,file⟩ ⟨j,List.mem_append_left _ other,folder⟩

section Order

variable {items' : List Item} (perm : items.Perm items')
include perm

theorem fileAt_perm (names : List String) : FileAt items names ↔ FileAt items' names := by
  simp only [FileAt,perm.mem_iff]

theorem folderAt_perm (names : List String) : FolderAt items names ↔ FolderAt items' names := by
  simp only [FolderAt,perm.mem_iff]

theorem stands_perm (names : List String) (entry : Entry) : Stands items names entry ↔ Stands items' names entry := by
  cases entry with
  | directory => exact folderAt_perm perm names
  | file content => simp only [Stands,perm.mem_iff]

theorem sound_perm (sound : Sound items) : Sound items' where
  named i member := sound.named i (perm.mem_iff.mpr member)
  once := (perm.map _).nodup_iff.mp sound.once
  apart names file folder :=
    sound.apart names ((fileAt_perm perm names).mpr file) ((folderAt_perm perm names).mpr folder)

end Order

section Below

variable (wrapper names : List String)

theorem fileAt_below : FileAt (items.map (Item.below wrapper)) (wrapper ++ names) ↔ FileAt items names := by
  simp [FileAt,Item.below]

theorem folderAt_below : FolderAt (items.map (Item.below wrapper)) (wrapper ++ names) ↔ FolderAt items names := by
  simp [FolderAt,Item.below]

theorem stands_below (entry : Entry) :
    Stands (items.map (Item.below wrapper)) (wrapper ++ names) entry ↔ Stands items names entry := by
  cases entry with
  | directory => exact folderAt_below wrapper names
  | file content => simp [Stands,Item.below]

theorem sound_below (sound : Sound items) : Sound (items.map (Item.below wrapper)) := by
  constructor
  case named =>
    intro i member
    obtain ⟨i,inside,rfl⟩ := List.mem_map.mp member
    simp [Item.below,sound.named i inside]
  case once =>
    have once := sound.once.map fun (a b : List String × Bool) (same : (wrapper ++ a.1,a.2) = (wrapper ++ b.1,b.2)) =>
      Prod.ext (List.append_cancel_left (Prod.mk.inj same).1) (Prod.mk.inj same).2
    rw [List.map_map] at once ⊢
    exact once
  case apart =>
    intro names file folder
    obtain ⟨i,member,_,rfl⟩ := id file
    obtain ⟨i,inside,rfl⟩ := List.mem_map.mp member
    exact sound.apart _ ((fileAt_below wrapper _).mp file) ((folderAt_below wrapper _).mp folder)

theorem storable_below (i : Item) (fits : ∀ name ∈ wrapper, Fits name) (storable : i.Storable) :
    (i.below wrapper).Storable := by
  refine ⟨fun name member => ?_,storable.readable⟩
  rcases List.mem_append.mp member with outer | inner
  · exact fits name outer
  · exact storable.fits name inner

theorem storable_inner (i : Item) (storable : (i.below wrapper).Storable) : i.Storable :=
  ⟨fun name member => storable.fits name (List.mem_append_right _ member),storable.readable⟩

end Below

end Items

theorem fileAt_more {items : List Item} (more : List Item) (names : List String) (file : FileAt items names) :
    FileAt (items ++ more) names := by
  obtain ⟨i,member,said⟩ := file
  exact ⟨i,List.mem_append_left _ member,said⟩

theorem folderAt_more {items : List Item} (more : List Item) (names : List String) (folder : FolderAt items names) :
    FolderAt (items ++ more) names := by
  obtain ⟨i,member,said⟩ := folder
  exact ⟨i,List.mem_append_left _ member,said⟩

/-- What stands on the way to an item, or in the place of a directory, is no file. -/
theorem Sound.clear {items : List Item} (sound : Sound items) (i : Item) (member : i ∈ items) (start : List String)
    (inside : start <+: i.names) (kind : start = i.names → i.isDirectory = true) : ¬ FileAt items start := by
  intro file
  refine sound.apart start file ⟨i,member,?_⟩
  obtain ⟨rest,whole⟩ := inside
  cases rest with
  | nil =>
    rw [List.append_nil] at whole
    exact .inl ⟨kind whole,whole.symm⟩
  | cons name rest => exact .inr ⟨name,rest,whole.symm⟩

section Extracting

variable (files : FileTree) (directory : Path) (leads : files.LeadsToDirectory directory)
  (empty : ∀ place, isBelow (destination files.current directory) place = true → files.find? place = none)

theorem unpacked_file (t : FileTree) (members : List Member) (unpacked : Unpacked files directory members t)
    (names : List String) (content : Content)
    (standing : t.find? (destination files.current directory ++ names) = some (.file content)) :
    FileAt (members.map Member.item) names := by
  have content := (unpacked.content names).symm.trans ((contentAt?_eq_some _ _ _).mpr standing)
  obtain ⟨data,found,_⟩ := Option.map_eq_some_iff.mp content
  obtain ⟨m,found,_⟩ := Option.bind_eq_some_iff.mp found
  have said := List.find?_some found
  simp only [Bool.and_eq_true,Bool.not_eq_true',beq_iff_eq] at said
  have member := List.mem_reverse.mp (List.mem_of_find?_eq_some found)
  exact ⟨m.item,List.mem_map_of_mem member,said.1.2,said.2⟩

include leads empty

theorem unpacked_folder (t : FileTree) (members : List Member) (ok : extractMembers files directory members = .ok t)
    (names : List String) (proper : names ≠ [])
    (standing : t.find? (destination files.current directory ++ names) = some .directory) :
    FolderAt (members.map Member.item) names := by
  obtain ⟨m,member,_,folder⟩ := directories_of_members files t directory members leads empty ok names proper standing
  exact ⟨m.item,List.mem_map_of_mem member,folder⟩

/-- Members that go together are unpacked if each of them can be stored. -/
theorem extractMembers_total (wellFormed : files.WellFormed) (members : List Member)
    (stays : ∀ m ∈ members, staysInside files directory m.name = true)
    (clean : ∀ m ∈ members, ∀ part ∈ nameParts m.name, Char.ofNat 0 ∉ part.toList)
    (sound : Sound (members.map Member.item)) (storable : ∀ m ∈ members, m.item.Storable) :
    ∃ t, extractMembers files directory members = .ok t := by
  induction members using List.reverseRecOn with
  | nil => exact ⟨files,rfl⟩
  | append_singleton members m ih =>
    rw [List.forall_mem_append] at stays clean storable
    rw [List.map_append] at sound
    obtain ⟨before,ran⟩ := ih stays.1 clean.1 sound.earlier storable.1
    have stays := stays.2 m (List.mem_singleton.mpr rfl)
    have clean := clean.2 m (List.mem_singleton.mpr rfl)
    have storable := storable.2 m (List.mem_singleton.mpr rfl)
    have member : m.item ∈ members.map Member.item ++ [m].map Member.item := by simp
    have unpacked := unpacked_members files before directory members leads empty ran
    have current : before.current = files.current := unpacked.inside.current
    -- What stands so far comes from the members before, which leave room for this one.
    have fileAt := unpacked_file files directory before members unpacked
    have folderAt := unpacked_folder files directory leads empty before members ran
    rw [← current] at fileAt folderAt
    have clear : ∀ start, start <+: nameParts m.name → (start = nameParts m.name → m.isDirectory = true) → ∀ content,
        before.find? (destination before.current directory ++ start) ≠ some (.file content) :=
      fun start inside kind content standing =>
        sound.clear m.item member start inside kind (fileAt_more _ _ (fileAt start content standing))
    have free : m.isDirectory = false →
        before.find? (destination before.current directory ++ nameParts m.name) ≠ some .directory :=
      fun isFile standing => sound.apart _ ⟨m.item,member,isFile,rfl⟩
        (folderAt_more _ _ (folderAt _ (sound.named m.item member) standing))
    have given : m.isDirectory = false → ∃ data, m.data = .ok data := by
      intro isFile
      have readable := storable.readable isFile
      cases given : m.data with
      | error reason => simp [Member.item,given,Except.toOption] at readable
      | ok data => exact ⟨data,rfl⟩
    obtain ⟨t,written⟩ := writeMember_clear before directory (unpacked.inside.wellFormed wellFormed) unpacked.leads m
      (sound.named m.item member)
      (fun part inside => ⟨fun dots => noDots_nameParts m.name (dots ▸ inside),clean part inside,storable.fits part inside⟩)
      clear free given
    refine ⟨t,?_⟩
    unfold extractMembers at ran ⊢
    rw [List.foldlM_append,ran]
    show (if staysInside before directory m.name = true then writeMember before directory m else .ok before) >>= _ = _
    rw [staysInside_current files directory before current,stays,if_pos rfl,written]
    rfl

end Extracting

end Archive

namespace Project
open Archive (Member Sound Stands FileAt FolderAt nameParts)

section Unpacked

variable (w : Workspace) (directory : Path) (start t : FileTree) (members : List Member)
  (opened : Opened w directory start) (ran : Archive.extractMembers start directory members = .ok t)
  (stays : ∀ m ∈ members, Archive.staysInside w.files directory m.name = true)
  (sound : Sound (members.map Member.item))
include opened ran

theorem extracted_wellFormed : t.WellFormed ∧ t.LeadsToDirectory directory ∧ t.current = w.files.current := by
  have unpacked := Archive.unpacked_members _ _ _ _ opened.leads opened.nothing ran
  exact ⟨unpacked.inside.wellFormed opened.wellFormed,unpacked.leads,unpacked.inside.current.trans opened.current⟩

include stays sound

/-- A file that was unpacked has the data of its member. -/
theorem extracted_file (m : Member) (member : m ∈ members) (isFile : m.isDirectory = false) :
    ∃ data, m.item.data = some data ∧
      t.find? (destination t.current directory ++ nameParts m.name) = some (.file (.bytes data)) := by
  obtain ⟨_,_,current⟩ := extracted_wellFormed w directory start t members opened ran
  obtain ⟨last,data,found,kind,given,standing⟩ :=
    (faithful_of_extracted opened.toFresh ran).complete m member (stays m member) isFile
  have said := List.find?_some found
  rw [Bool.and_eq_true,beq_iff_eq] at said
  have among := List.mem_reverse.mp (List.mem_of_find?_eq_some found)
  have same := sound.unique last.item m.item (List.mem_map_of_mem among) (List.mem_map_of_mem member) said.2
    (kind.trans isFile.symm)
  refine ⟨data,(congrArg Archive.Item.data same).symm.trans (congrArg Except.toOption given),?_⟩
  rw [current]
  exact (contentAt?_eq_some _ _ _).mp standing

/-- What was unpacked can be stored. -/
theorem extracted_storable (m : Member) (member : m ∈ members) : m.item.Storable := by
  obtain ⟨wellFormed,leads,current⟩ := extracted_wellFormed w directory start t members opened ran
  have file := extracted_file w directory start t members opened ran stays sound m member
  have standing : ∃ entry, t.find? (destination t.current directory ++ nameParts m.name) = some entry := by
    cases kind : m.isDirectory with
    | false => exact ⟨_,(file kind).choose_spec.2⟩
    | true =>
      rw [current]
      exact ⟨_,(faithful_of_extracted opened.toFresh ran).folders m member (stays m member) kind⟩
  refine ⟨fun name inside => ?_,fun isFile => ?_⟩
  · obtain ⟨entry,standing⟩ := standing
    obtain ⟨before,after,whole⟩ := List.append_of_mem (show name ∈ nameParts m.name from inside)
    rw [whole,← List.append_assoc] at standing
    exact (stands_in t wellFormed _ name after entry standing).2
  · obtain ⟨data,given,_⟩ := file isFile
    rw [given]
    rfl

/-- What was unpacked stands where the items say, and nothing else does. -/
theorem extracted_stands (filled : members ≠ []) (names : List String) (entry : Entry) :
    t.find? (destination t.current directory ++ names) = some entry ↔ Stands (members.map Member.item) names entry := by
  obtain ⟨wellFormed,leads,current⟩ := extracted_wellFormed w directory start t members opened ran
  have faithful := faithful_of_extracted opened.toFresh ran
  cases entry with
  | file content =>
    constructor
    · intro standing
      obtain ⟨m,member,_,isFile,rfl⟩ := faithful.nothingElse names (by
        rw [← current,(contentAt?_eq_some _ _ _).mpr standing]
        nofun)
      obtain ⟨data,given,stands⟩ := extracted_file w directory start t members opened ran stays sound m member isFile
      cases stands.symm.trans standing
      exact ⟨m.item,List.mem_map_of_mem member,isFile,rfl,congrArg (Option.map Content.bytes) given⟩
    · rintro ⟨i,among,isFile,rfl,said⟩
      obtain ⟨m,member,rfl⟩ := List.mem_map.mp among
      obtain ⟨data,given,stands⟩ := extracted_file w directory start t members opened ran stays sound m member isFile
      rw [given] at said
      cases said
      exact stands
  | directory =>
    cases names with
    | nil =>
      rw [List.append_nil,leads.2]
      exact ⟨fun _ => Archive.folderAt_top sound (by simpa using filled),fun _ => rfl⟩
    | cons name rest =>
      have folders := Archive.directories_of_members _ t _ members opened.leads opened.nothing ran
      simp only [Archive.HasDirectory,Archive.staysInside_current w.files _ _ opened.current,opened.current] at folders
      rw [hasDirectory_iff w t directory members current faithful wellFormed folders _ (by simp)]
      constructor
      · rintro ⟨m,member,_,folder⟩
        exact ⟨m.item,List.mem_map_of_mem member,folder⟩
      · rintro ⟨i,among,folder⟩
        obtain ⟨m,member,rfl⟩ := List.mem_map.mp among
        exact ⟨m,member,stays m member,folder⟩

end Unpacked

end Project

end Pagewright
