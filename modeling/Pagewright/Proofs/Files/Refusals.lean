import Pagewright.Proofs.Files.Progress

/-! What operations on files are refused with. A path without null characters is refused by the file system only. -/
namespace Pagewright.FileTree

/-- A path without null characters. -/
def NoNull (p : Path) : Prop := ∀ part ∈ p.parts, Char.ofNat 0 ∉ part.toList

theorem NoNull.parent {p : Path} (clean : NoNull p) : NoNull p.parent :=
  fun part member => clean part (List.dropLast_subset _ member)

theorem NoNull.child {p : Path} (clean : NoNull p) (name : String) (noNull : Char.ofNat 0 ∉ name.toList) :
    NoNull ⟨p.slashes,p.parts ++ [name]⟩ := by
  intro part member
  obtain inside | last := List.mem_append.mp member
  · exact clean part inside
  · rw [List.mem_singleton.mp last]
    exact noNull

section Operations

variable (t : FileTree) {p : Path} (clean : NoNull p)
include clean

theorem locate_refused : RefusedBy (fun fault => fault.isFile = true) (t.locate p) := by
  have without : ¬ (p.parts.any (·.contains (Char.ofNat 0))) = true := by
    rw [List.any_eq_true]
    rintro ⟨part,member,null⟩
    rw [String.contains_char_eq,decide_eq_true_iff] at null
    exact clean part member null
  unfold locate
  rw [if_neg without]
  cases t.resolve (if p.isAbsolute then [] else t.current) p.parts with
  | error kind => exact refusedBy_error _ rfl
  | ok place => exact refusedBy_ok place

omit clean in
theorem isDirectory_refused : RefusedBy (fun fault => fault.isFile = true) (t.isDirectory p) := by
  refine refusedBy_bind _ _ ?_ fun standing => refusedBy_ok _
  unfold look
  split
  · exact refusedBy_ok _
  · exact refusedBy_error _ rfl
  · exact refusedBy_ok _

theorem makeDirectory_refused : RefusedBy (fun fault => fault.isFile = true) (t.makeDirectory p) := by
  refine refusedBy_bind _ _ (locate_refused t clean) fun place => ?_
  split
  · exact refusedBy_error _ rfl
  · split
    · exact refusedBy_error _ rfl
    · exact refusedBy_ok _

theorem write_refused (content : Content) : RefusedBy (fun fault => fault.isFile = true) (t.write p content) := by
  refine refusedBy_bind _ _ (locate_refused t clean) fun place => ?_
  split
  · exact refusedBy_error _ rfl
  · exact refusedBy_ok _

omit clean in
/-- A directory that could not be made is fine if it stands. -/
theorem standing_refused (fault : Fault) (refused : fault.isFile = true) :
    RefusedBy (fun fault => fault.isFile = true) (do if ← t.isDirectory p then return t else throw fault) := by
  refine refusedBy_bind _ _ (isDirectory_refused t) fun standing => ?_
  cases standing with
  | true => exact refusedBy_ok t
  | false => exact refusedBy_error fault refused

theorem makeDirectoriesWithin_refused (fuel : Nat) :
    RefusedBy (fun fault => fault.isFile = true) (makeDirectoriesWithin fuel t p) := by
  induction fuel generalizing p with
  | zero => exact refusedBy_error _ rfl
  | succ fuel ih =>
    unfold makeDirectoriesWithin
    split
    · exact refusedBy_ok _
    · split
      · exact refusedBy_error _ rfl
      · refine refusedBy_bind _ _ (ih clean.parent) fun above => ?_
        split
        · exact refusedBy_ok _
        next fault failed => exact standing_refused above fault (makeDirectory_refused above clean fault failed)
    next fault _ failed => exact standing_refused t fault (makeDirectory_refused t clean fault failed)

theorem makeDirectories_refused : RefusedBy (fun fault => fault.isFile = true) (t.makeDirectories p) :=
  makeDirectoriesWithin_refused t clean _

end Operations

section Looking

variable (t : FileTree) (p : Path)

theorem isFile_success (there : t.isFile p = .ok true) : ∃ content, t.read p = .ok content := by
  obtain ⟨standing,looked,ok⟩ := except_bind_success _ _ _ there
  unfold look at looked
  split at looked
  next place located =>
    cases Except.ok.inj looked
    cases stands : t.find? place with
    | none => rw [stands] at ok; cases ok
    | some entry =>
      cases entry with
      | directory => rw [stands] at ok; cases ok
      | file content => exact ⟨content,t.read_standing p place content located stands⟩
  · cases looked
  · cases looked
    cases ok

/-- Where every name can be one of a file, there is a file at a path or none. -/
theorem isFile_answers (fits : ∀ part ∈ p.parts, Fits part) :
    t.isFile p = .ok false ∨ ∃ content, t.read p = .ok content := by
  cases answered : t.isFile p with
  | ok there =>
    cases there with
    | false => exact .inl rfl
    | true => exact .inr (t.isFile_success p answered)
  | error fault =>
    obtain ⟨slashes,parts⟩ := p
    cases parts using List.reverseRecOn with
    | nil =>
      have located : t.locate ⟨slashes,[]⟩ = .ok (if Path.isAbsolute ⟨slashes,[]⟩ then [] else t.current) := rfl
      unfold isFile look at answered
      rw [located] at answered
      cases answered
    | append_singleton parts name =>
      have long := (t.isFile_refused ⟨slashes,parts⟩ name
        (fun part member => fits part (List.mem_append_left _ member)) fault answered).2
      exact absurd (fits name (by simp)) long

end Looking

end Pagewright.FileTree
