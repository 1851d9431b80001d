import Mathlib.Data.List.Nodup
import Pagewright.Proofs.Project.Unpacking
import Pagewright.Proofs.Shapes

/-! The root of a project in a directory. What stands directly in the directory, and in the only directory there,
tells whether the root is found; where it is not, the archive is rejected, and the analysis of a root rejects none. -/
namespace Pagewright
open FileTree

/-- A failure that rejects an archive. -/
def Failure.IsValidation (failure : Failure) : Prop :=
  ∃ message reason missing context, failure = .validation message reason missing context

/-- A failure of reading what is there: a fault, or an input that is malformed. -/
inductive Failure.IsReading : Failure → Prop where
  | fault (reason : Fault) : IsReading (.fault reason)
  | malformed (kind : InputClass) (source : String) (detail : Detail) : IsReading (.malformedInput kind source detail)

namespace FileTree
open Archive (ListedOnce listed_stands)

variable (t : FileTree)

/-- What stands at a place looks like the root of a project. -/
def looksRoot (place : Place) : Bool :=
  (t.find? (place ++ ["package.json"])).any Entry.isFile || (t.find? (place ++ ["src"])).any Entry.isDirectory ||
    (t.find? (place ++ ["index.html"])).any Entry.isFile

theorem isDirectory_located (p : Path) (place : Place) (located : t.locate p = .ok place) :
    t.isDirectory p = .ok ((t.find? place).any Entry.isDirectory) := by
  unfold isDirectory look
  rw [located]
  rfl

theorem hasProjectFiles_looks (p : Path) (leads : t.LeadsToDirectory p) :
    Project.hasProjectFiles t p = .ok (t.looksRoot (destination t.current p)) := by
  have located (name : String) (component : Path.IsComponent name) (plain : Plain name) :
      t.locate (p / name) = .ok (destination t.current p ++ [name]) := by
    rw [Path.append_name p name component]
    exact t.locate_child p name leads plain
  have package := located "package.json" (by decide) ⟨by decide,by decide,by decide⟩
  have source := located "src" (by decide) ⟨by decide,by decide,by decide⟩
  have index := located "index.html" (by decide) ⟨by decide,by decide,by decide⟩
  unfold Project.hasProjectFiles
  rw [Project.manifestFile,isFile_located t _ _ package,isFile_located t _ _ index,isDirectory_located t _ _ source]
  unfold looksRoot
  cases (t.find? (destination t.current p ++ ["package.json"])).any Entry.isFile with
  | true => rfl
  | false => cases (t.find? (destination t.current p ++ ["src"])).any Entry.isDirectory <;> rfl

theorem any_isFile (place : Place) :
    (t.find? place).any Entry.isFile = true ↔ ∃ content, t.find? place = some (.file content) := by
  cases t.find? place with
  | none => simp
  | some entry => cases entry <;> simp [Entry.isFile]

theorem any_isDirectory (place : Place) :
    (t.find? place).any Entry.isDirectory = true ↔ t.find? place = some .directory := by
  cases t.find? place with
  | none => simp
  | some entry => cases entry <;> simp [Entry.isDirectory]

/-- The directories directly below a place, as they are listed. -/
def directoriesAt (place : Place) : List (Place × Entry) := (t.childrenAt place).filter (·.2.isDirectory)

variable (place : Place) (once : ListedOnce place t)
include once

theorem mem_directoriesAt (e : Place × Entry) : e ∈ t.directoriesAt place ↔
    ∃ name, e = (place ++ [name],.directory) ∧ t.find? (place ++ [name]) = some .directory := by
  unfold directoriesAt childrenAt
  rw [List.filter_filter,List.mem_filter]
  constructor
  · rintro ⟨listed,kept⟩
    simp only [Bool.and_eq_true,Bool.not_eq_true',List.isEmpty_eq_false_iff,beq_iff_eq] at kept
    obtain ⟨isDirectory,proper,above⟩ := kept
    obtain ⟨upper,name,same⟩ := (List.eq_nil_or_concat e.1).resolve_left proper
    rw [List.concat_eq_append] at same
    have whole : e.1 = place ++ [name] := by rw [← above,same,List.dropLast_concat]
    have standing := listed_stands place t once e listed (by rw [whole]; exact isBelow_append _ _ (by simp))
    obtain ⟨found,entry⟩ := e
    cases entry with
    | file content => cases isDirectory
    | directory => exact ⟨name,by rw [← whole],whole ▸ standing⟩
  · rintro ⟨name,rfl,standing⟩
    have looked : t.entries.lookup (place ++ [name]) = some .directory := by simpa [find?] using standing
    obtain ⟨before,after,same,_⟩ := List.lookup_eq_some_iff.mp looked
    exact ⟨by rw [same]; simp,by simp [Entry.isDirectory]⟩

theorem directoriesAt_nodup : (t.directoriesAt place).Nodup := by
  have keys : ((t.entries.filter fun e => isBelow place e.1).map (·.1)).Nodup := by
    have same : (t.entries.filter fun e => isBelow place e.1).map (·.1) =
        (t.entries.map (·.1)).filter (isBelow place) := by
      rw [List.filter_map]
      rfl
    rw [same]
    exact once
  refine (List.Nodup.of_map _ keys).sublist ?_
  unfold directoriesAt childrenAt
  rw [List.filter_filter]
  refine List.monotone_filter_right _ fun e kept => ?_
  simp only [Bool.and_eq_true,Bool.not_eq_true',List.isEmpty_eq_false_iff,beq_iff_eq] at kept
  obtain ⟨upper,name,same⟩ := (List.eq_nil_or_concat e.1).resolve_left kept.2.1
  rw [List.concat_eq_append] at same
  rw [← kept.2.2,same,List.dropLast_concat]
  exact isBelow_append _ _ (by simp)

/-- The only directory that is listed is the only one that stands. -/
theorem directoriesAt_single (e : Place × Entry) : t.directoriesAt place = [e] ↔
    ∃ name, e = (place ++ [name],.directory) ∧
      ∀ other, t.find? (place ++ [other]) = some .directory ↔ other = name := by
  have mem := t.mem_directoriesAt place once
  constructor
  · intro single
    obtain ⟨name,rfl,standing⟩ := (mem e).mp (by rw [single]; simp)
    refine ⟨name,rfl,fun other => ⟨fun stands => ?_,fun same => same ▸ standing⟩⟩
    have member := (mem (place ++ [other],.directory)).mpr ⟨other,rfl,stands⟩
    rw [single,List.mem_singleton] at member
    exact child_inj _ _ _ (congrArg Prod.fst member)
  · rintro ⟨name,rfl,only⟩
    have nodup := t.directoriesAt_nodup place once
    have all (e : Place × Entry) (member : e ∈ t.directoriesAt place) : e = (place ++ [name],.directory) := by
      obtain ⟨other,rfl,stands⟩ := (mem e).mp member
      rw [(only other).mp stands]
    have member := (mem (place ++ [name],.directory)).mpr ⟨name,rfl,(only name).mpr rfl⟩
    generalize t.directoriesAt place = listed at nodup all member
    cases listed with
    | nil => cases member
    | cons first rest =>
      cases rest with
      | nil => rw [all first List.mem_cons_self]
      | cons second rest =>
        have same := (all first List.mem_cons_self).trans (all second (by simp)).symm
        exact absurd (same ▸ List.mem_cons_self) (List.nodup_cons.mp nodup).1

end FileTree

namespace Project
open Archive (ListedOnce)

/-- The failure of an archive without a project. -/
def noProject : Failure :=
  .validation "No project files found (expected package.json, src/ or index.html)" "invalid_structure" [] []

section Locating

variable (t : FileTree) (directory : Path)

/-- The directory looks like the root of a project, or the only directory in it does. -/
def RootStands : Prop := t.looksRoot (destination t.current directory) = true ∨
  ∃ name, (∀ other, t.find? (destination t.current directory ++ [other]) = some .directory ↔ other = name) ∧
    t.looksRoot (destination t.current directory ++ [name]) = true

variable (leads : t.LeadsToDirectory directory)
include leads

theorem locateRoot_below (own : t.looksRoot (destination t.current directory) = false) :
    locateRoot t directory = (do
      let root := match (t.directoriesAt (destination t.current directory)).map fun e =>
          (directory.child (e.1.getLast?.getD ""),e.2) with
        | [(only,_)] => only
        | _ => directory
      if ← hasProjectFiles t root then return root
      throw noProject) := by
  have listed : t.children directory = .ok ((t.childrenAt (destination t.current directory)).map fun e =>
      (directory.child (e.1.getLast?.getD ""),e.2)) := by
    simp only [children,leads.1,leads.2,bind,Except.bind]
    rfl
  unfold locateRoot
  rw [t.hasProjectFiles_looks directory leads,own,listed]
  have same : ((t.childrenAt (destination t.current directory)).map fun e =>
      (directory.child (e.1.getLast?.getD ""),e.2)).filter (·.2.isDirectory) =
        (t.directoriesAt (destination t.current directory)).map fun e =>
          (directory.child (e.1.getLast?.getD ""),e.2) := by
    rw [List.filter_map]
    rfl
  rw [← same]
  rfl

/-- The root is found where it stands, and an archive without one is rejected. -/
theorem locateRoot_course (once : ListedOnce (destination t.current directory) t)
    (opens : ∀ name, t.find? (destination t.current directory ++ [name]) = some .directory →
      t.LeadsToDirectory (directory.child name) ∧
        destination t.current (directory.child name) = destination t.current directory ++ [name]) :
    RootStands t directory ∧ (∃ root, locateRoot t directory = .ok root) ∨
      ¬ RootStands t directory ∧ locateRoot t directory = .error noProject := by
  cases own : t.looksRoot (destination t.current directory) with
  | true =>
    refine .inl ⟨.inl own,directory,?_⟩
    unfold locateRoot
    rw [t.hasProjectFiles_looks directory leads,own]
    rfl
  | false =>
    have again : (do
        if ← hasProjectFiles t directory then return directory
        throw noProject : Except Failure Path) = .error noProject := by
      rw [t.hasProjectFiles_looks directory leads,own]
      rfl
    have below := locateRoot_below t directory leads own
    by_cases single : ∃ e, t.directoriesAt (destination t.current directory) = [e]
    · obtain ⟨e,single⟩ := single
      obtain ⟨name,rfl,only⟩ := (t.directoriesAt_single _ once e).mp single
      obtain ⟨leadsBelow,place⟩ := opens name ((only name).mpr rfl)
      have looks := t.hasProjectFiles_looks _ leadsBelow
      rw [single] at below
      simp only [List.map_cons,List.map_nil,List.getLast?_concat,Option.getD_some] at below
      rw [below,looks,place]
      cases root : t.looksRoot (destination t.current directory ++ [name]) with
      | true => exact .inl ⟨.inr ⟨name,only,root⟩,_,rfl⟩
      | false =>
        refine .inr ⟨?_,rfl⟩
        rintro (never | ⟨other,alone,found⟩)
        · cases own.symm.trans never
        · rw [(alone name).mp ((only name).mpr rfl)] at root
          cases root.symm.trans found
    -- Where no directory stands, or more than one, the directory itself is looked at again.
    · refine .inr ⟨?_,?_⟩
      · rintro (never | ⟨name,only,_⟩)
        · cases own.symm.trans never
        · exact single ⟨_,(t.directoriesAt_single _ once _).mpr ⟨name,rfl,only⟩⟩
      · rw [below]
        generalize t.directoriesAt (destination t.current directory) = listed at single
        match listed with
        | [] => exact again
        | [e] => exact absurd ⟨e,rfl⟩ single
        | _ :: _ :: _ => exact again

end Locating

section Reading

theorem lift_reading {α : Type} (r : Except Fault α) : RefusedBy Failure.IsReading (liftM r : Except Failure α) :=
  refusedBy_lift r fun fault _ => .fault fault

theorem readManifest_reading (t : FileTree) (p : Path) : RefusedBy Failure.IsReading (readManifest t p) := by
  have loaded (path : Path) : RefusedBy Failure.IsReading (loadJson t path) := by
    refine refusedBy_bind _ _ (lift_reading _) fun content => ?_
    split
    · exact refusedBy_ok _
    · exact refusedBy_error _ (.malformed _ _ _)
  have manifest (data : Value) : RefusedBy Failure.IsReading (Manifest.read data manifestFile) :=
    Manifest.read_refused data _ (fun fault _ => .fault fault) fun _ => .malformed _ _ _
  refine refusedBy_bind _ _ (lift_reading _) fun present => ?_
  cases present with
  | false => exact refusedBy_ok _
  | true =>
    refine refusedBy_bind _ _ (loaded _) fun v => ?_
    split
    · exact manifest _
    · exact refusedBy_ok _

/-- The analysis of a directory fails only where it reads. -/
theorem analyzeDirectory_reading (t : FileTree) (p : Path) : RefusedBy Failure.IsReading (analyzeDirectory t p) := by
  refine refusedBy_bind _ _ (lift_reading _) fun _ => refusedBy_bind _ _ (lift_reading _) fun _ => ?_
  refine refusedBy_bind _ _ (lift_reading _) fun _ => refusedBy_bind _ _ (readManifest_reading t p) fun _ => ?_
  exact refusedBy_bind _ _ (lift_reading _) fun _ => refusedBy_bind _ _ (lift_reading _) fun _ => refusedBy_ok _

/-- The analysis of a directory rejects no archive. -/
theorem analyzeDirectory_noValidation (t : FileTree) (p : Path) :
    RefusedBy (¬ ·.IsValidation) (analyzeDirectory t p) := by
  rintro failure refused ⟨_,_,_,_,rfl⟩
  cases analyzeDirectory_reading t p _ refused

end Reading

end Project

end Pagewright
