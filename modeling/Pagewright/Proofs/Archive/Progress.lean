import Pagewright.Proofs.Archive.Spelling
import Pagewright.Proofs.Project.Root

/-! Members that are written without trouble: their names are no longer than a directory allows, and nothing of another
kind stands where they go. -/
namespace Pagewright.Archive
open FileTree

theorem along_apart (place : Place) (names : List String) (name : String) :
    ¬ Along place names (place ++ (names ++ [name])) := by
  rintro ⟨start,_,inside,same⟩
  rw [← List.append_cancel_left same] at inside
  exact absurd inside.length_le (by simp)

section Writing

variable (t : FileTree) (p : Path) (place : Place) (located : t.locate p = .ok place)
include located

/-- A directory stands or is made where no file stands. -/
theorem writeDirectory_clear (proper : p.parts ≠ []) (noFile : ∀ content, t.find? place ≠ some (.file content)) :
    ∃ t', writeDirectory t p = .ok t' := by
  have stands := t.isDirectory_located _ _ located
  unfold writeDirectory
  cases found : t.find? place with
  | none =>
    rw [found] at stands
    refine ⟨t.put place .directory,?_⟩
    rw [stands]
    exact t.makeDirectory_free _ _ proper located found
  | some entry =>
    cases entry with
    | file content => exact absurd found (noFile content)
    | directory =>
      rw [found] at stands
      exact ⟨t,by rw [stands]; rfl⟩

/-- A file is written, and written over, where no directory stands. -/
theorem write_over_clear (noDirectory : t.find? place ≠ some .directory) (content content' : Content) :
    ∃ opened t', t.write p content = .ok opened ∧ opened.write p content' = .ok t' := by
  have first := t.write_free _ _ content located noDirectory
  obtain ⟨again,standing⟩ := t.write_leads _ _ _ first
  have filled : FileTree.find? _ _ ≠ some .directory := fun folder => by
    cases standing.symm.trans folder
  exact ⟨_,_,first,FileTree.write_free _ _ _ content' again filled⟩

end Writing

section Below

variable (t : FileTree) (directory : Path)

/-- A tree in which the way to some names below a directory stands, and nothing but that way is new. -/
structure Ready (names : List String) (t' : FileTree) : Prop where
  leads : t'.LeadsToDirectory ⟨directory.slashes,directory.parts ++ names⟩
  changes : Changes nowhere (Along (destination t.current directory) names) nowhere t t'

section Standing

variable {t directory} {t' : FileTree} {names : List String} (ready : Ready t directory names t') (name : String)
  (plain : ∀ part ∈ names ++ [name], Plain part)
include ready plain

theorem Ready.located : t'.locate ⟨directory.slashes,directory.parts ++ (names ++ [name])⟩ =
    .ok (destination t.current directory ++ (names ++ [name])) := by
  have located := t'.locate_child _ name ready.leads (plain name (by simp))
  have noDots : ".." ∉ names := fun dots => (plain _ (List.mem_append_left _ dots)).noDots rfl
  rw [ready.changes.current,destination_below _ _ _ noDots,List.append_assoc,List.append_assoc] at located
  exact located

omit plain in
theorem Ready.noFile (noFile : ∀ content,
    t.find? (destination t.current directory ++ (names ++ [name])) ≠ some (.file content)) (content : Content) :
    t'.find? (destination t.current directory ++ (names ++ [name])) ≠ some (.file content) :=
  fun stands => noFile content ((ready.changes.files _ content stands).resolve_right fun never => never)

omit plain in
theorem Ready.noDirectory
    (noDirectory : t.find? (destination t.current directory ++ (names ++ [name])) ≠ some .directory) :
    t'.find? (destination t.current directory ++ (names ++ [name])) ≠ some .directory :=
  fun stands => noDirectory ((ready.changes.directories _ stands).resolve_right (along_apart _ names name))

end Standing

/-- Once the way to a member is ready, the member itself is written. -/
theorem writeMember_ready (m : Member) (middle : FileTree)
    (opened : (if taken t ⟨directory.slashes,directory.parts ++ (nameParts m.name).dropLast⟩ then .ok t
      else makeMissing (directory.parts ++ (nameParts m.name).dropLast).length t
        ⟨directory.slashes,directory.parts ++ (nameParts m.name).dropLast⟩) = .ok middle) :
    writeMember t directory m =
      if m.isDirectory then (writeDirectory middle (targetOf directory m)).mapError Fault.message
      else (do
        let opened ← (middle.write (targetOf directory m) (.bytes ByteArray.empty)).mapError Fault.message
        let data ← m.data
        (opened.write (targetOf directory m) (.bytes data)).mapError Fault.message) := by
  unfold writeMember
  dsimp only
  rw [upper_eq,opened]
  rfl

variable (wellFormed : t.WellFormed) (leads : t.LeadsToDirectory directory)
include wellFormed leads

/-- Names lead to a directory that stands there. -/
theorem leads_below (names : List String) (plain : ∀ name ∈ names, name ≠ ".." ∧ Char.ofNat 0 ∉ name.toList)
    (standing : t.find? (destination t.current directory ++ names) = some .directory) :
    t.LeadsToDirectory ⟨directory.slashes,directory.parts ++ names⟩ := by
  have place := destination_below t.current directory names fun dots => (plain _ dots).1 rfl
  exact ⟨place ▸ locate_standing t wellFormed directory leads names plain _ standing,place ▸ standing⟩

/-- Names at which no file stands are made ready, if they can be made where nothing stands. -/
theorem ready_of_missing (fuel : Nat) (names : List String) (plain : ∀ part ∈ names, Plain part)
    (noFile : ∀ content, t.find? (destination t.current directory ++ names) ≠ some (.file content))
    (missing : t.find? (destination t.current directory ++ names) = none →
      ∃ t', makeMissing fuel t ⟨directory.slashes,directory.parts ++ names⟩ = .ok t') :
    ∃ t', (if taken t ⟨directory.slashes,directory.parts ++ names⟩ then .ok t
        else makeMissing fuel t ⟨directory.slashes,directory.parts ++ names⟩) = .ok t' ∧
      Ready t directory names t' := by
  have noDots : ".." ∉ names := fun dots => (plain _ dots).noDots rfl
  cases standing : t.find? (destination t.current directory ++ names) with
  | none =>
    obtain ⟨t',made⟩ := missing standing
    have free : ¬ taken t ⟨directory.slashes,directory.parts ++ names⟩ = true := by
      intro there
      obtain ⟨entry,stands⟩ := taken_stands t _ there
      rw [destination_below _ _ _ noDots,standing] at stands
      cases stands
    have proper : names ≠ [] := by
      rintro rfl
      rw [List.append_nil,leads.2] at standing
      cases standing
    refine ⟨t',by rw [if_neg free]; exact made,(makeMissing_contents t t' fuel _ made).2,?_⟩
    exact makeMissing_along t t' directory fuel leads names proper noDots made
  | some entry =>
    cases entry with
    | file content => exact absurd standing (noFile content)
    | directory =>
      have below := leads_below t directory wellFormed leads names
        (fun part member => ⟨(plain part member).noDots,(plain part member).noNull⟩) standing
      exact ⟨t,if_pos (taken_leads t _ below),below,Changes.refl t⟩

/-- A directory is made where nothing stands, with all that is missing above it, if no file is in the way. -/
theorem makeMissing_below (fuel : Nat) (names : List String) (name : String) (enough : names.length ≤ fuel)
    (plain : ∀ part ∈ names ++ [name], Plain part)
    (clear : ∀ start, start <+: names → ∀ content,
      t.find? (destination t.current directory ++ start) ≠ some (.file content))
    (free : t.find? (destination t.current directory ++ (names ++ [name])) = none) :
    ∃ t', makeMissing fuel t ⟨directory.slashes,directory.parts ++ (names ++ [name])⟩ = .ok t' := by
  induction fuel generalizing names name with
  | zero =>
    cases List.length_eq_zero_iff.mp (Nat.le_zero.mp enough)
    exact ⟨_,t.makeDirectory_free _ _ (by simp) (t.locate_child directory name leads (plain name (by simp))) free⟩
  | succ fuel ih =>
    have parent : Path.parent ⟨directory.slashes,directory.parts ++ (names ++ [name])⟩ =
        ⟨directory.slashes,directory.parts ++ names⟩ := by
      simp [Path.parent,← List.append_assoc]
    have above : ∀ part ∈ names, Plain part := fun part member => plain part (List.mem_append_left _ member)
    obtain ⟨middle,opened,ready⟩ := ready_of_missing t directory wellFormed leads fuel names above
      (clear names (List.prefix_refl _)) fun none => by
        cases names using List.reverseRecOn with
        | nil =>
          rw [List.append_nil,leads.2] at none
          cases none
        | append_singleton names last =>
          rw [List.length_append,List.length_singleton] at enough
          exact ih names last (by omega) above
            (fun start inside => clear start (inside.trans (List.prefix_append _ _))) none
    have still : middle.find? (destination t.current directory ++ (names ++ [name])) = none := by
      refine Option.eq_none_iff_forall_ne_some.mpr fun entry stands => ?_
      cases entry with
      | file content => exact ready.noFile name (by simp [free]) content stands
      | directory => exact ready.noDirectory name (by simp [free]) stands
    rw [makeMissing_succ,parent,opened]
    exact ⟨_,middle.makeDirectory_free _ _ (by simp) (ready.located name plain) still⟩

/-- A member is written if nothing of another kind stands where it needs something. -/
theorem writeMember_clear (m : Member) (named : nameParts m.name ≠ []) (plain : ∀ part ∈ nameParts m.name, Plain part)
    (clear : ∀ start, start <+: nameParts m.name → (start = nameParts m.name → m.isDirectory = true) → ∀ content,
      t.find? (destination t.current directory ++ start) ≠ some (.file content))
    (free : m.isDirectory = false →
      t.find? (destination t.current directory ++ nameParts m.name) ≠ some .directory)
    (given : m.isDirectory = false → ∃ data, m.data = .ok data) : ∃ t', writeMember t directory m = .ok t' := by
  obtain ⟨names,name,whole⟩ := (List.eq_nil_or_concat (nameParts m.name)).resolve_left named
  rw [List.concat_eq_append] at whole
  have target : targetOf directory m = ⟨directory.slashes,directory.parts ++ (names ++ [name])⟩ := by
    rw [targetOf,whole]
  rw [whole] at plain clear free
  have above : ∀ part ∈ names, Plain part := fun part member => plain part (List.mem_append_left _ member)
  have upward : ∀ start, start <+: names → ∀ content,
      t.find? (destination t.current directory ++ start) ≠ some (.file content) := by
    intro start inside
    refine clear start (inside.trans (List.prefix_append _ _)) fun same => ?_
    rw [same] at inside
    exact absurd inside.length_le (by simp)
  obtain ⟨middle,opened,ready⟩ := ready_of_missing t directory wellFormed leads
    (directory.parts ++ names).length names above (upward names (List.prefix_refl _)) fun none => by
      cases names using List.reverseRecOn with
      | nil =>
        rw [List.append_nil,leads.2] at none
        cases none
      | append_singleton names last =>
        exact makeMissing_below t directory wellFormed leads _ names last (by simp; omega) above
          (fun start inside => upward start (inside.trans (List.prefix_append _ _))) none
  have located := ready.located name plain
  rw [writeMember_ready t directory m middle (by rw [whole,List.dropLast_concat]; exact opened),target]
  cases kind : m.isDirectory with
  | true =>
    have noFile := ready.noFile name (clear _ (List.prefix_refl _) fun _ => kind)
    obtain ⟨t',made⟩ := writeDirectory_clear middle _ _ located (by simp) noFile
    exact ⟨t',by rw [if_pos rfl,made]; rfl⟩
  | false =>
    obtain ⟨data,given⟩ := given kind
    obtain ⟨opened,t',first,second⟩ := write_over_clear middle _ _ located (ready.noDirectory name (free kind))
      (.bytes ByteArray.empty) (.bytes data)
    refine ⟨t',?_⟩
    rw [if_neg Bool.false_ne_true,first,given]
    exact congrArg (Except.mapError Fault.message) second

end Below

end Pagewright.Archive
