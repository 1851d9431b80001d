import Pagewright.Proofs.Archive.Listing

/-! Archives with the same files in another order, or in a directory around all of them. What their members say differs
in that directory alone. -/
namespace Pagewright
open FileTree

namespace Archive

/-- The name of a member in a directory around it, if there is one. -/
def wrapped (wrapper : Option String) (name : String) : String :=
  match wrapper with
  | some directory => directory ++ "/" ++ name
  | none => name

/-- The same members in some order, with a directory around all of them if one is given. -/
def Rearranged (wrapper : Option String) (members members' : List Member) : Prop :=
  (members.map fun m => (wrapped wrapper m.name,m.data.toOption)).Perm (members'.map fun m => (m.name,m.data.toOption))

/-- Members with distinct plain names, none of which is that of a file and of a directory. -/
structure PlainMembers (members : List Member) : Prop where
  plain : ∀ m ∈ members, IsPlain m.name
  once : (members.map (·.name)).Nodup
  apart : ∀ names, FileAt (members.map Member.item) names → ¬ FolderAt (members.map Member.item) names

theorem plainMembers_iff (members : List Member) : PlainMembers members ↔
    (∀ m ∈ members, IsPlain m.name) ∧ (members.map (·.name)).Nodup ∧
      ∀ i ∈ members.map Member.item, i.isDirectory = false → ¬ FolderAt (members.map Member.item) i.names := by
  constructor
  · rintro ⟨plain,once,apart⟩
    exact ⟨plain,once,fun i member file => apart i.names ⟨i,member,file,rfl⟩⟩
  · rintro ⟨plain,once,apart⟩
    refine ⟨plain,once,?_⟩
    rintro _ ⟨i,member,file,rfl⟩
    exact apart i member file

instance (members : List Member) : Decidable (PlainMembers members) := decidable_of_iff' _ (plainMembers_iff members)

/-- A directory that can stand around a project. -/
structure Wrapper (name : String) : Prop where
  proper : Proper name
  fits : Fits name
  other : name ≠ "src"

instance (wrapper : Option String) (members members' : List Member) : Decidable (Rearranged wrapper members members') :=
  inferInstanceAs (Decidable (List.Perm _ _))

theorem rearranged_single (wrapper : Option String) (m : Member) :
    Rearranged wrapper [m] [⟨wrapped wrapper m.name,m.data⟩] := List.Perm.refl _

/-- The items make up a project under these names. -/
def ProjectAt (items : List Item) (names : List String) : Prop :=
  FileAt items (names ++ ["package.json"]) ∨ FolderAt items (names ++ ["src"]) ∨ FileAt items (names ++ ["index.html"])

instance (items : List Item) (names : List String) : Decidable (ProjectAt items names) :=
  inferInstanceAs (Decidable (_ ∨ _ ∨ _))

section Members

variable {members members' : List Member}

theorem PlainMembers.sound (plain : PlainMembers members) : Sound (members.map Member.item) where
  named i member := by
    obtain ⟨m,inside,rfl⟩ := List.mem_map.mp member
    exact (plain.plain m inside).filled
  once := by
    rw [List.map_map]
    have spelled : (members.map (·.name)) = (members.map fun m => (nameParts m.name,m.isDirectory)).map
        fun said => spell said.1 said.2 := by
      rw [List.map_map]
      exact List.map_congr_left fun m member => (plain.plain m member).spelled
    have once := plain.once
    rw [spelled] at once
    exact once.of_map
  apart := plain.apart

theorem items_rearranged (plain : PlainMembers members) (wrapper : Option String) (proper : ∀ name ∈ wrapper, Proper name)
    (same : Rearranged wrapper members members') :
    ((members.map Member.item).map (Item.below wrapper.toList)).Perm (members'.map Member.item) := by
  have said := same.map fun said => (⟨nameParts said.1,said.1.endsWith "/",said.2⟩ : Item)
  rw [List.map_map,List.map_map] at said
  rw [List.map_map]
  refine (List.Perm.of_eq (List.map_congr_left fun m member => ?_)).trans said
  cases wrapper with
  | none => rfl
  | some directory =>
    obtain ⟨_,names,kind⟩ := (plain.plain m member).behind directory (proper directory rfl)
    simp only [Function.comp_apply,wrapped,names,kind]
    rfl

theorem plain_rearranged (plain : PlainMembers members) (wrapper : Option String) (proper : ∀ name ∈ wrapper, Proper name)
    (same : Rearranged wrapper members members') : ∀ m ∈ members', IsPlain m.name := by
  intro m member
  obtain ⟨other,inside,said⟩ := List.mem_map.mp (same.mem_iff.mpr (List.mem_map_of_mem member))
  rw [← show wrapped wrapper other.name = m.name from congrArg Prod.fst said]
  cases wrapper with
  | none => exact plain.plain other inside
  | some directory => exact ((plain.plain other inside).behind directory (proper directory rfl)).1

end Members

section Projects

variable {items : List Item}

theorem projectAt_perm {items' : List Item} (perm : items.Perm items') (names : List String) :
    ProjectAt items names ↔ ProjectAt items' names := by
  unfold ProjectAt
  rw [fileAt_perm perm,folderAt_perm perm,fileAt_perm perm]

theorem projectAt_below (wrapper names : List String) :
    ProjectAt (items.map (Item.below wrapper)) (wrapper ++ names) ↔ ProjectAt items names := by
  unfold ProjectAt
  rw [List.append_assoc,List.append_assoc,List.append_assoc,fileAt_below,folderAt_below,fileAt_below]

theorem ProjectAt.filled {names : List String} (project : ProjectAt items names) : items ≠ [] := by
  rcases project with ⟨i,member,_⟩ | ⟨i,member,_⟩ | ⟨i,member,_⟩ <;> exact List.ne_nil_of_mem member

variable (sound : Sound items) (directory : String)
include sound

theorem folderAt_wrapped (other : String) (filled : items ≠ []) :
    FolderAt (items.map (Item.below [directory])) [other] ↔ other = directory := by
  constructor
  · rintro ⟨i,member,folder⟩
    obtain ⟨i,inside,rfl⟩ := List.mem_map.mp member
    rcases folder with ⟨_,whole⟩ | ⟨name,rest,whole⟩
    · exact (List.cons.inj whole).1.symm
    · exact (List.cons.inj whole).1.symm
  · rintro rfl
    exact (folderAt_below [other] []).mpr (folderAt_top sound filled)

/-- Around a project, the top of an archive looks like one only if the directory there is a source directory. -/
theorem projectAt_wrapped (other : directory ≠ "src") : ¬ ProjectAt (items.map (Item.below [directory])) [] := by
  have noFile (name : String) : ¬ FileAt (items.map (Item.below [directory])) [name] := by
    rintro ⟨i,member,_,whole⟩
    obtain ⟨i,inside,rfl⟩ := List.mem_map.mp member
    exact sound.named i inside (List.cons.inj whole).2
  rintro (package | ⟨i,member,source⟩ | index)
  · exact noFile _ package
  · obtain ⟨i,inside,rfl⟩ := List.mem_map.mp member
    rcases source with ⟨_,whole⟩ | ⟨name,rest,whole⟩
    · exact other (List.cons.inj whole).1
    · exact other (List.cons.inj whole).1
  · exact noFile _ index

end Projects

end Archive

end Pagewright
