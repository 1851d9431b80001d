import Pagewright.Proofs.Files.Alike
import Pagewright.Proofs.Files.Refusals

/-! Looking around in a directory. Everything that is asked for by a name is answered there, and a file that is put
directly into the directory changes no answer but those about its own name. -/
namespace Pagewright.FileTree

theorem filter_putEntry (keep : Place × Entry → Bool) (place : Place) (entry : Entry) (entries : List (Place × Entry))
    (other : ∀ entry, keep (place,entry) = false) : (putEntry place entry entries).filter keep = entries.filter keep := by
  induction entries with
  | nil => simp [putEntry,other]
  | cons first rest ih =>
    obtain ⟨name,old⟩ := first
    by_cases same : name = place
    · subst same
      simp [putEntry,other]
    · simp [putEntry,same,List.filter_cons,ih]

section Answers

variable (t : FileTree) (p : Path)

theorem locate_fits (fits : ∀ part ∈ p.parts, Fits part) (text : String) :
    t.locate p ≠ .error (.file .nameTooLong text) := by
  intro located
  unfold locate at located
  split at located
  · cases located
  · cases resolved : t.resolve (if p.isAbsolute then [] else t.current) p.parts with
    | ok place => rw [resolved] at located; cases located
    | error kind =>
      rw [resolved] at located
      cases located
      exact absurd resolved (t.resolve_fits _ p.parts fits)

theorem look_answers (fits : ∀ part ∈ p.parts, Fits part) : ∃ found, t.look p = .ok found := by
  unfold look
  split
  · exact ⟨_,rfl⟩
  · next text located => exact absurd located (t.locate_fits p fits text)
  · exact ⟨_,rfl⟩

theorem children_standing (standing : t.isDirectory p = .ok true) : ∃ found, t.children p = .ok found := by
  have inner := t.isDirectory_success p standing
  simp only [children,inner.1,bind,Except.bind,inner.2]
  exact ⟨_,rfl⟩

variable {name : String} (within : Within name) (leads : t.LeadsToDirectory p)
include within leads

theorem fits_within : ∀ part ∈ (p / name).parts, Fits part := by
  rw [within.path]
  intro part member
  obtain above | below := List.mem_append.mp member
  · exact (locate_place t p _ leads.1).2 part above
  · exact (within.plain part below).fits

theorem isFile_within : ∃ answer, t.isFile (p / name) = .ok answer := by
  obtain ⟨found,looked⟩ := t.look_answers _ (t.fits_within p within leads)
  exact ⟨found.any Entry.isFile,by unfold isFile; rw [looked]; rfl⟩

theorem isDirectory_within : ∃ answer, t.isDirectory (p / name) = .ok answer := by
  obtain ⟨found,looked⟩ := t.look_answers _ (t.fits_within p within leads)
  exact ⟨found.any Entry.isDirectory,by unfold isDirectory; rw [looked]; rfl⟩

theorem descendants_within : ∃ found, t.descendants (p / name) = .ok found := by
  unfold descendants
  split
  · next text located => exact absurd located (t.locate_fits _ (t.fits_within p within leads) text)
  · exact ⟨_,rfl⟩
  · split <;> exact ⟨_,rfl⟩

end Answers

/-- The place of an entry of a directory. -/
abbrev entryPlace (t : FileTree) (p : Path) (title : String) : Place := destination t.current p ++ [title]

section Entries

variable (t : FileTree) (p : Path) {title : String} (within : Within title) (single : (Path.ofText title).parts = [title])
  (leads : t.LeadsToDirectory p)
include within single leads

theorem locate_entry : t.locate (p / title) = .ok (t.entryPlace p title) := by
  have plain : Plain title := within.plain title (by simp [single])
  rw [within.path,single,locate_append t p leads [title] (by simpa using plain.noNull)]
  unfold resolve
  rw [leads.2]
  dsimp only
  rw [if_neg (Nat.not_lt.mpr plain.fits),if_neg (by simpa using plain.noDots)]
  rfl

theorem isFile_entry : t.isFile (p / title) = .ok ((t.find? (t.entryPlace p title)).any Entry.isFile) := by
  unfold isFile look
  rw [t.locate_entry p within single leads]
  rfl

theorem read_entry (content : Content) (standing : t.find? (t.entryPlace p title) = some (.file content)) :
    t.read (p / title) = .ok content :=
  t.read_standing _ _ content (t.locate_entry p within single leads) standing

end Entries

section Putting

variable (t : FileTree) (p : Path) (title : String) (entry : Entry)

/-- A name that leads past an entry. -/
def Past (title name : String) : Prop := Within name ∧ (Path.ofText name).parts.head? ≠ some title

instance (title name : String) : Decidable (Past title name) := inferInstanceAs (Decidable (_ ∧ _))

variable {name : String} (past : Past title name)
include past

theorem past_place : destination t.current p ++ (Path.ofText name).parts ≠ t.entryPlace p title := by
  intro same
  have parts := List.append_cancel_left same
  exact past.2 (by rw [parts]; rfl)

theorem past_below : isBelow (destination t.current p ++ (Path.ofText name).parts) (t.entryPlace p title) = false := by
  rw [Bool.eq_false_iff]
  intro below
  obtain ⟨part,rest,same⟩ := (isBelow_iff _ _).mp below
  rw [List.append_assoc,List.append_cancel_left_eq] at same
  have size := congrArg List.length same
  have named := List.length_pos_iff.mpr past.1.named
  simp at size
  omega

omit past in
theorem resolve_put (here place : Place) (names : List String) (plain : ∀ part ∈ names, Plain part)
    (passed : ∀ start, start <+: names → start ≠ names → here ++ start ≠ place) :
    (t.put place entry).resolve here names = t.resolve here names := by
  induction names generalizing here with
  | nil => rfl
  | cons part rest ih =>
    have off : here ≠ place := by simpa using passed [] List.nil_prefix (List.cons_ne_nil _ _).symm
    have dots : (part == "..") = false := by simpa using (plain part List.mem_cons_self).noDots
    have further := ih (here ++ [part]) (fun other member => plain other (List.mem_cons_of_mem part member))
      fun start ahead proper => by
        have longer := passed (part :: start) (List.cons_prefix_cons.mpr ⟨rfl,ahead⟩) (by simpa using proper)
        simpa using longer
    unfold resolve
    rw [find?_put_of_ne t entry off,dots]
    split
    · rfl
    · rfl
    · rw [if_neg Bool.false_ne_true,if_neg Bool.false_ne_true,further]

theorem located_past (place : Place) (located : t.locate (p / name) = .ok place) :
    place = destination t.current p ++ (Path.ofText name).parts := by
  have dots : ".." ∉ (Path.ofText name).parts := fun member => (past.1.plain _ member).noDots rfl
  rw [(locate_place t _ place located).1,past.1.path,Archive.destination_below t.current p _ dots]

theorem stands_past (place : Place) (located : t.locate (p / name) = .ok place) :
    (t.put (t.entryPlace p title) entry).find? place = t.find? place := by
  rw [t.located_past p title past place located]
  exact find?_put_of_ne t entry (t.past_place p title past)

variable (leads : t.LeadsToDirectory p) (noDirectory : t.find? (t.entryPlace p title) ≠ some .directory)
include leads noDirectory

theorem locate_past : (t.put (t.entryPlace p title) entry).locate (p / name) = t.locate (p / name) := by
  have clean : ∀ part ∈ (Path.ofText name).parts, Char.ofNat 0 ∉ part.toList :=
    fun part member => (past.1.plain part member).noNull
  have entered : (t.put (t.entryPlace p title) entry).LeadsToDirectory p := leads_put t p _ entry (by simp) noDirectory leads
  have same := t.resolve_put entry (destination t.current p) (t.entryPlace p title) (Path.ofText name).parts
    past.1.plain fun start ahead proper reached => by
      cases List.append_cancel_left reached
      obtain ⟨rest,whole⟩ := ahead
      exact past.2 (by rw [← whole]; rfl)
  rw [past.1.path,locate_append _ p entered _ clean,locate_append t p leads _ clean]
  exact congrArg (Except.mapError _) same

theorem look_past : (t.put (t.entryPlace p title) entry).look (p / name) = t.look (p / name) := by
  unfold look
  rw [t.locate_past p title entry past leads noDirectory]
  split
  · next place located => rw [t.stands_past p title entry past place located]
  · rfl
  · rfl

theorem isFile_past : (t.put (t.entryPlace p title) entry).isFile (p / name) = t.isFile (p / name) := by
  unfold isFile
  rw [t.look_past p title entry past leads noDirectory]

theorem isDirectory_past : (t.put (t.entryPlace p title) entry).isDirectory (p / name) = t.isDirectory (p / name) := by
  unfold isDirectory
  rw [t.look_past p title entry past leads noDirectory]

theorem read_past : (t.put (t.entryPlace p title) entry).read (p / name) = t.read (p / name) := by
  unfold read
  rw [t.locate_past p title entry past leads noDirectory]
  cases located : t.locate (p / name) with
  | error fault => rfl
  | ok place =>
    have stands := t.stands_past p title entry past place located
    simp only [bind,Except.bind,stands]

/-- A file that is put into a directory is not found below another name. -/
theorem descendants_past : (t.put (t.entryPlace p title) entry).descendants (p / name) = t.descendants (p / name) := by
  unfold descendants
  rw [t.locate_past p title entry past leads noDirectory]
  split
  · rfl
  · rfl
  · next place located =>
    rw [t.stands_past p title entry past place located]
    cases t.located_past p title past place located
    rw [show (t.put (t.entryPlace p title) entry).entries.filter _ = t.entries.filter _ from
      filter_putEntry _ _ entry _ fun _ => t.past_below p title past]

/-- A file that is put into a directory is not found in one of another name. -/
theorem children_past : (t.put (t.entryPlace p title) entry).children (p / name) = t.children (p / name) := by
  unfold children childrenAt
  rw [t.locate_past p title entry past leads noDirectory]
  cases located : t.locate (p / name) with
  | error fault => rfl
  | ok place =>
    have stands := t.stands_past p title entry past place located
    have same : (t.put (t.entryPlace p title) entry).entries.filter (fun e => !e.1.isEmpty && e.1.dropLast == place) =
        t.entries.filter fun e => !e.1.isEmpty && e.1.dropLast == place := by
      refine filter_putEntry _ _ entry _ fun _ => ?_
      cases t.located_past p title past place located
      simpa [entryPlace] using past.1.named
    simp only [bind,Except.bind,stands,same]

end Putting

end Pagewright.FileTree
