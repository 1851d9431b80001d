import Pagewright.Project.Analyzer
import Pagewright.Proofs.Archive.Extraction
import Pagewright.Proofs.Files.Removal
import Pagewright.Proofs.Settings

/-! Archives unpacked into a directory of their own. The directory is new, everything that is unpacked comes
up below it, and it is removed at the end, whatever was done with the project in it. -/
namespace Pagewright

namespace FileTree

theorem destination_straight (current : Place) (p : Path) (straight : ".." ∉ p.parts) :
    destination current p = (if p.isAbsolute then [] else current) ++ p.parts :=
  foldl_enter_names _ _ straight

variable (t : FileTree)

/-- A path without double dots leads to what stands at its place. -/
theorem locate_straight (wellFormed : t.WellFormed) (p : Path) (proper : p.parts ≠ []) (straight : ".." ∉ p.parts)
    (clean : ∀ part ∈ p.parts, Char.ofNat 0 ∉ part.toList) (entry : Entry)
    (standing : t.find? (destination t.current p) = some entry) :
    t.locate p = .ok (destination t.current p) := by
  have whole : destination t.current p = destination t.current ⟨p.slashes,[]⟩ ++ p.parts :=
    destination_straight _ p straight
  rw [whole] at standing ⊢
  have start : t.LeadsToDirectory ⟨p.slashes,[]⟩ := by
    refine ⟨by unfold locate; rfl,?_⟩
    obtain ⟨first,rest,same⟩ := List.exists_cons_of_ne_nil proper
    exact (stands_in t wellFormed _ first rest entry (same ▸ standing)).1
  exact locate_standing t wellFormed ⟨p.slashes,[]⟩ start p.parts
    (fun name member => ⟨fun dots => straight (dots ▸ member),clean name member⟩) entry standing

/-- What is removed by a path without double dots is gone with all that was in it. -/
theorem removeTree_gone (wellFormed : t.WellFormed) (p : Path) (proper : p.parts ≠ []) (straight : ".." ∉ p.parts)
    (clean : ∀ part ∈ p.parts, Char.ofNat 0 ∉ part.toList)
    (noFile : ∀ content, t.find? (destination t.current p) ≠ some (.file content)) (place : Place)
    (inside : destination t.current p <+: place) : (t.removeTree p).find? place = none := by
  have thinned := thinned_removeTree t p
  cases standing : t.find? (destination t.current p) with
  | none =>
    have missing : t.find? place = none := by
      obtain ⟨rest,rfl⟩ := inside
      cases rest with
      | nil => rw [List.append_nil]; exact standing
      | cons name rest =>
        exact find?_below t wellFormed _ _ (isBelow_append _ _ (by simp)) (by simp [standing])
    cases found : (t.removeTree p).find? place with
    | none => rfl
    | some entry => cases (thinned.stands place entry found).symm.trans missing
  | some entry =>
    cases entry with
    | file content => exact absurd standing (noFile content)
    | directory =>
      have located := locate_straight t wellFormed p proper straight clean _ standing
      have last : (p.name == "..") = false := by
        obtain ⟨parts,name,same⟩ := (List.eq_nil_or_concat p.parts).resolve_left proper
        have name : p.name = name := by simp [Path.name,same]
        refine beq_eq_false_iff_ne.mpr fun dots => straight ?_
        rw [same,← name,dots]
        simp
      have nonempty : place ≠ [] := by
        rintro rfl
        have none := List.prefix_nil.mp inside
        rw [destination_straight _ p straight] at none
        exact proper (List.append_eq_nil_iff.mp none).2
      unfold removeTree
      rw [located]
      dsimp only
      rw [standing]
      dsimp only
      rw [last,if_neg (by decide),find?_removeWhere,if_pos ⟨nonempty,List.isPrefixOf_iff_prefix.mpr inside⟩]

end FileTree

namespace Project
open FileTree
open Archive (Inside Unpacked Proper)

theorem directoryName_chars (n : Nat) :
    (directoryName n).toList = "l2wp-".toList ++ Decimal.padZeros 8 (Nat.toDigits 10 n) := by
  simp [directoryName]

theorem mem_directoryName (n : Nat) (c : Char) (member : c ∈ (directoryName n).toList) :
    c ∈ "l2wp-".toList ∨ c.isDigit = true := by
  rw [directoryName_chars] at member
  rcases List.mem_append.mp member with first | digits
  · exact .inl first
  · rcases List.mem_append.mp digits with zero | digit
    · rw [List.eq_of_mem_replicate zero]
      exact .inr (by decide)
    · exact .inr (Nat.isDigit_of_mem_toDigits (by decide) (by decide) digit)

theorem proper_directoryName (n : Nat) : Proper (directoryName n) ∧ Char.ofNat 0 ∉ (directoryName n).toList := by
  have other (text : String) (first : text.toList.head? ≠ some 'l') : directoryName n ≠ text := by
    rintro rfl
    rw [directoryName_chars] at first
    exact first rfl
  refine ⟨⟨⟨fun slash => ?_,other "" (by decide),other "." (by decide)⟩,other ".." (by decide)⟩,fun null => ?_⟩
  · rcases mem_directoryName n _ slash with never | never <;> exact absurd never (by decide)
  · rcases mem_directoryName n _ null with never | never <;> exact absurd never (by decide)

variable (w : Workspace) (base : Path)

/-- Files with the `n`-th directory drawn, below a directory for which all that was missing was made. -/
structure Drawn (n : Nat) (files : FileTree) : Prop where
  new : w.drawnDirectories < n
  made : ∃ opened, Changes nowhere (OnPath w.files.current base) nowhere w.files opened ∧
    opened.makeDirectory (base.child (directoryName n)) = .ok files ∧
    ∀ m, w.drawnDirectories < m → m < n →
      ∃ entry, opened.find? (destination opened.current (base.child (directoryName m))) = some entry

theorem resolve_refused (t : FileTree) (here : Place) (parts : List String) :
    t.resolve here parts ≠ .error .exists := by
  induction parts generalizing here with
  | nil => nofun
  | cons part rest ih =>
    unfold resolve
    split
    · nofun
    · nofun
    · split
      · nofun
      · split
        · exact ih _
        · exact ih _

theorem makeDirectory_exists (t : FileTree) (p : Path) (text : String)
    (refused : t.makeDirectory p = .error (.file .exists text)) :
    ∃ entry, t.find? (destination t.current p) = some entry := by
  unfold makeDirectory at refused
  cases located : t.locate p with
  | error fault =>
    rw [located] at refused
    cases refused
    unfold locate at located
    split at located
    · cases located
    · cases resolved : t.resolve (if p.isAbsolute then [] else t.current) p.parts with
      | ok place => rw [resolved] at located; cases located
      | error refusal =>
        rw [resolved] at located
        cases located
        exact absurd resolved (resolve_refused t _ _)
  | ok place =>
    rw [located] at refused
    rw [← (locate_place t p place located).1]
    cases standing : t.find? place with
    | some entry => exact ⟨entry,rfl⟩
    | none =>
      simp only [bind,Except.bind,standing] at refused
      split at refused <;> cases refused

/-- The directory that is drawn is the first whose name is not taken. -/
theorem drawDirectory_success (attempts : Nat) (files files' : FileTree) (drawn n : Nat) (directory : Path)
    (ok : drawDirectory base attempts files drawn = .ok (files',directory,n)) :
    drawn < n ∧ directory = base.child (directoryName n) ∧
      files.makeDirectory (base.child (directoryName n)) = .ok files' ∧
      ∀ m, drawn < m → m < n →
        ∃ entry, files.find? (destination files.current (base.child (directoryName m))) = some entry := by
  induction attempts generalizing drawn with
  | zero => cases ok
  | succ attempts ih =>
    unfold drawDirectory at ok
    dsimp only at ok
    split at ok
    next made =>
      cases ok
      exact ⟨Nat.lt_succ_self _,rfl,made,fun m above below => by omega⟩
    next taken =>
      obtain ⟨new,same,made,passed⟩ := ih (drawn + 1) ok
      refine ⟨Nat.lt_of_succ_lt new,same,made,fun m above below => ?_⟩
      by_cases first : m = drawn + 1
      · exact first ▸ makeDirectory_exists files _ _ taken
      · exact passed m (by omega) below
    · cases ok

theorem drawDirectory_first (attempts : Nat) (files files' : FileTree) (drawn : Nat)
    (made : files.makeDirectory (base.child (directoryName (drawn + 1))) = .ok files') :
    drawDirectory base (attempts + 1) files drawn =
      .ok (files',base.child (directoryName (drawn + 1)),drawn + 1) := by
  unfold drawDirectory
  dsimp only
  rw [made]

section Registration

variable (a : Analyzer)

@[simp] theorem register_extracted : a.register.extracted = a.extracted := by unfold Analyzer.register; split <;> rfl

@[simp] theorem register_temporaryRoot : a.register.temporaryRoot = a.temporaryRoot := by
  unfold Analyzer.register; split <;> rfl

@[simp] theorem unregister_extracted : a.unregister.extracted = a.extracted := by
  unfold Analyzer.unregister; split <;> rfl

@[simp] theorem unregister_temporaryRoot : a.unregister.temporaryRoot = a.temporaryRoot := by
  unfold Analyzer.unregister; split <;> rfl

@[simp] theorem cleanup_extracted : (a.cleanup w).1.extracted = none := unregister_extracted _

@[simp] theorem cleanup_temporaryRoot : (a.cleanup w).1.temporaryRoot = a.temporaryRoot := unregister_temporaryRoot _

end Registration

theorem newDirectory_eq (a : Analyzer) : a.newDirectory w =
    (match a.temporaryRoot with
      | some base => w.files.makeDirectories base
      | none => .ok w.files) >>= fun opened =>
    drawDirectory (a.temporaryRoot.getD w.temporary) maxAttempts opened w.drawnDirectories >>= fun drawn =>
    .ok (drawn.2.1,
      Analyzer.register { (a.cleanup { w with files := drawn.1, drawnDirectories := drawn.2.2 }).1 with
        extracted := some drawn.2.1 },
      (a.cleanup { w with files := drawn.1, drawnDirectories := drawn.2.2 }).2) := by
  unfold Analyzer.newDirectory
  cases a.temporaryRoot <;> rfl

/-- How a new directory comes up: what was missing of the base is made, a name is drawn that is not taken,
and the directory of before goes. -/
theorem newDirectory_steps (a a' : Analyzer) (w' : Workspace) (directory : Path)
    (ok : a.newDirectory w = .ok (directory,a',w')) :
    ∃ opened n files, (a.temporaryRoot = none ∧ opened = w.files ∨
        ∃ base, a.temporaryRoot = some base ∧ w.files.makeDirectories base = .ok opened) ∧
      drawDirectory (a.temporaryRoot.getD w.temporary) maxAttempts opened w.drawnDirectories =
        .ok (files,directory,n) ∧
      a' = .register { (a.cleanup { w with files, drawnDirectories := n }).1 with extracted := some directory } ∧
      w' = (a.cleanup { w with files, drawnDirectories := n }).2 := by
  rw [newDirectory_eq] at ok
  obtain ⟨opened,making,ok⟩ := except_bind_success _ _ _ ok
  obtain ⟨⟨files,path,n⟩,drawing,ok⟩ := except_bind_success _ _ _ ok
  cases ok
  refine ⟨opened,n,files,?_,drawing,rfl,rfl⟩
  cases root : a.temporaryRoot with
  | none => rw [root] at making; cases making; exact .inl ⟨rfl,rfl⟩
  | some base => rw [root] at making; exact .inr ⟨base,rfl,making⟩

theorem newDirectory_drawn (a a' : Analyzer) (w' : Workspace) (directory : Path)
    (ok : a.newDirectory w = .ok (directory,a',w')) :
    ∃ n files, Drawn w (a.temporaryRoot.getD w.temporary) n files ∧
      directory = (a.temporaryRoot.getD w.temporary).child (directoryName n) ∧
      a' = .register { (a.cleanup { w with files, drawnDirectories := n }).1 with extracted := some directory } ∧
      w' = (a.cleanup { w with files, drawnDirectories := n }).2 := by
  obtain ⟨opened,n,files,making,drawing,same⟩ := newDirectory_steps w a a' w' directory ok
  obtain ⟨new,named,made,passed⟩ := drawDirectory_success _ _ _ _ _ _ _ drawing
  refine ⟨n,files,⟨new,opened,?_,made,passed⟩,named,same⟩
  rcases making with ⟨root,rfl⟩ | ⟨base,root,making⟩
  · exact Changes.refl _
  · rw [root]
    exact (makeDirectories_success _ _ _ making).1

theorem newDirectory_analyzer (a a' : Analyzer) (w' : Workspace) (directory : Path)
    (ok : a.newDirectory w = .ok (directory,a',w')) :
    a'.temporaryRoot = a.temporaryRoot ∧ a'.extracted = some directory := by
  obtain ⟨n,files,_,_,rfl,_⟩ := newDirectory_drawn w a a' w' directory ok
  rw [register_temporaryRoot,register_extracted]
  exact ⟨cleanup_temporaryRoot _ _,rfl⟩

variable (root : Option Path)

theorem newDirectory_success (directory : Path) (a : Analyzer) (w' : Workspace)
    (ok : (Analyzer.new root).newDirectory w = .ok (directory,a,w')) :
    ∃ n files, Drawn w (root.getD w.temporary) n files ∧
      directory = (root.getD w.temporary).child (directoryName n) ∧ a = ⟨root,some directory,none,true,1⟩ ∧
      w' = { w with files, drawnDirectories := n } :=
  newDirectory_drawn w (.new root) a w' directory ok

/-- How the analysis of an archive ends: before anything was unpacked, without the directory, or with the
project in it. -/
inductive Opening (archive : Path) : Except Failure Project → Option Path → Workspace → Prop
  | refused (failure : Failure) : Opening archive (.error failure) none w
  | damaged (n : Nat) (files : FileTree) (failure : Failure) : Drawn w base n files →
      Opening archive (.error failure) none
        { w with files := files.removeTree (base.child (directoryName n)), drawnDirectories := n }
  | unpacked (n : Nat) (files t : FileTree) (content : Content) : Drawn w base n files →
      files.read archive = .ok content →
      Archive.extract files (base.child (directoryName n)) content.data = .ok t →
      Opening archive (locateRoot t (base.child (directoryName n)) >>= analyzeDirectory t)
        (some (base.child (directoryName n))) { w with files := t, drawnDirectories := n }

theorem analyze_opening (archive : Path) : Opening w (root.getD w.temporary) archive
    ((Analyzer.new root).analyze archive w).1 ((Analyzer.new root).analyze archive w).2.1.extracted
    ((Analyzer.new root).analyze archive w).2.2 := by
  unfold Analyzer.analyze
  split
  · exact .refused _
  · exact .refused _
  · unfold Analyzer.extract
    cases drawn : (Analyzer.new root).newDirectory w with
    | error fault => exact .refused _
    | ok found =>
      obtain ⟨directory,a,w'⟩ := found
      obtain ⟨n,files,fresh,rfl,rfl,rfl⟩ := newDirectory_success w root directory a w' drawn
      dsimp only
      cases given : files.read archive with
      | error fault => exact .damaged n files _ fresh
      | ok content =>
        dsimp only
        cases extracted : Archive.extract files ((root.getD w.temporary).child (directoryName n)) content.data with
        | error reason => exact .damaged n files _ fresh
        | ok t =>
          have opening : Opening w (root.getD w.temporary) archive _ _ _ :=
            .unpacked n files t content fresh given extracted
          dsimp only
          cases located : locateRoot t ((root.getD w.temporary).child (directoryName n)) with
          | error failure => rw [located] at opening; exact opening
          | ok found => rw [located] at opening; exact opening

section Using

variable {α : Type} (use : Project → Work α)

theorem opened_run (analysis : Analysis) (w₁ : Workspace)
    (located : Settings.temporaryDirectory?.run.run w = (.ok root,w₁)) :
    (opened analysis use).run.run w =
      let ran := (Work.ofExcept (analysis (.new root) w₁).1 >>= use).run.run (analysis (.new root) w₁).2.2
      (ran.1,((analysis (.new root) w₁).2.1.cleanup ran.2).2) := by
  unfold opened
  rw [run_bind,located]
  dsimp only
  rw [run_bind,run_get]
  dsimp only
  generalize analysis (.new root) w₁ = found
  obtain ⟨project,analyzer,w₂⟩ := found
  dsimp only
  rw [run_bind,show (set w₂ : Work Unit).run.run w₁ = (.ok (),w₂) from rfl]
  dsimp only
  rw [run_bind,Work.outcome_run]
  rcases (Work.ofExcept project >>= use).run.run w₂ with ⟨_ | a,w₃⟩ <;> rfl

/-- How work with the project in an archive ends, and what it leaves without the directory. -/
inductive Closing (archive : Path) : Except Failure α → Workspace → Prop
  | refused (failure : Failure) : Closing archive (.error failure) w
  | damaged (n : Nat) (files : FileTree) (failure : Failure) : Drawn w base n files →
      Closing archive (.error failure)
        { w with files := files.removeTree (base.child (directoryName n)), drawnDirectories := n }
  | unusable (n : Nat) (files t : FileTree) (content : Content) (failure : Failure) : Drawn w base n files →
      Archive.extract files (base.child (directoryName n)) content.data = .ok t →
      Closing archive (.error failure)
        { w with files := t.removeTree (base.child (directoryName n)), drawnDirectories := n }
  | used (n : Nat) (files t : FileTree) (content : Content) (project : Project) (outcome : Except Failure α)
      (left : Workspace) : Drawn w base n files → files.read archive = .ok content →
      Archive.extract files (base.child (directoryName n)) content.data = .ok t →
      (locateRoot t (base.child (directoryName n)) >>= analyzeDirectory t) = .ok project →
      (use project).run.run { w with files := t, drawnDirectories := n } = (outcome,left) →
      Closing archive outcome { left with files := left.files.removeTree (base.child (directoryName n)) }

theorem withArchive_closing (archive : Path) (w₁ : Workspace)
    (located : Settings.temporaryDirectory?.run.run w = (.ok root,w₁)) :
    Closing w₁ (root.getD w₁.temporary) use archive ((withArchive archive use).run.run w).1
      ((withArchive archive use).run.run w).2 := by
  have opening := analyze_opening w₁ root archive
  rw [withArchive,opened_run w root use _ w₁ located]
  generalize (Analyzer.new root).analyze archive w₁ = found at opening ⊢
  obtain ⟨project,⟨_,extracted,_,_,_⟩,w₂⟩ := found
  dsimp only at opening ⊢
  cases opening with
  | refused failure => exact .refused failure
  | damaged n files failure fresh => exact .damaged n files failure fresh
  | unpacked n files t content fresh given unpacked =>
    generalize analyzed : locateRoot t _ >>= analyzeDirectory t = outcome at *
    cases outcome with
    | error failure => exact .unusable n files t content failure fresh unpacked
    | ok project => exact .used n files t content project _ _ fresh given unpacked analyzed rfl

end Using

section Directory

variable {w base} {n : Nat} {files : FileTree} (drawn : Drawn w base n files)
include drawn

theorem Drawn.current : files.current = w.files.current := by
  obtain ⟨opened,changes,made,_⟩ := drawn.made
  exact (makeDirectory_changes _ _ _ made).current.trans changes.current

theorem Drawn.wellFormed (before : w.files.WellFormed) : files.WellFormed := by
  obtain ⟨opened,changes,made,_⟩ := drawn.made
  exact (makeDirectory_changes _ _ _ made).wellFormed (changes.wellFormed before)

theorem Drawn.leads : files.LeadsToDirectory (base.child (directoryName n)) := by
  obtain ⟨opened,_,made,_⟩ := drawn.made
  exact makeDirectory_leads _ _ _ made

omit drawn in
theorem destination_directory (current : Place) (base : Path) (n : Nat) :
    destination current (base.child (directoryName n)) = destination current base ++ [directoryName n] := by
  rw [Path.child,destination_append]
  exact enter_name _ _ (proper_directoryName n).1.noDots

/-- Nothing stands below a new directory. -/
theorem Drawn.empty (before : w.files.WellFormed) (place : Place)
    (below : isBelow (destination w.files.current base ++ [directoryName n]) place = true) :
    files.find? place = none := by
  obtain ⟨opened,changes,made,_⟩ := drawn.made
  obtain ⟨_,free,_,rfl⟩ := makeDirectory_success _ _ _ made
  rw [destination_directory,changes.current] at free ⊢
  have different : place ≠ destination w.files.current base ++ [directoryName n] := by
    rintro rfl
    simp [isBelow] at below
  rw [find?_put_of_ne _ _ different]
  exact find?_below opened (changes.wellFormed before) _ _ below (by simp [free])

/-- There is no file in the new directory. -/
theorem Drawn.vacant (before : w.files.WellFormed) (place : Place)
    (inside : destination w.files.current base ++ [directoryName n] <+: place) : files.contentAt? place = none := by
  obtain ⟨rest,rfl⟩ := inside
  unfold contentAt?
  cases rest with
  | nil =>
    have leads := drawn.leads.2
    rw [drawn.current,destination_directory] at leads
    rw [List.append_nil,leads]
  | cons name rest => rw [drawn.empty before _ (isBelow_append _ _ (by simp))]

theorem Drawn.contents (place : Place) : files.contentAt? place = w.files.contentAt? place := by
  obtain ⟨opened,changes,made,_⟩ := drawn.made
  rw [contentAt?_kept (makeDirectory_changes _ _ _ made) _ (fun never => never) (fun never => never),
    contentAt?_kept changes _ (fun never => never) (fun never => never)]

theorem Drawn.clean (part : String) (member : part ∈ (base.child (directoryName n)).parts) :
    Char.ofNat 0 ∉ part.toList :=
  Archive.noNull_of_locate files _ _ drawn.leads.1 part member

/-- What is unpacked into a new directory is what the members hold. -/
theorem Drawn.extracted (before : w.files.WellFormed) (data : ByteArray) (t : FileTree)
    (ok : Archive.extract files (base.child (directoryName n)) data = .ok t) :
    ∃ members, Archive.unpack data = .ok members ∧
      Unpacked files (base.child (directoryName n)) members t ∧
      Inside (destination w.files.current base ++ [directoryName n]) files t := by
  have place : destination files.current (base.child (directoryName n)) =
      destination w.files.current base ++ [directoryName n] := by
    rw [drawn.current,destination_directory]
  obtain ⟨members,given,unpacked⟩ := Archive.extract_success files t _ drawn.leads
    (by rw [place]; exact drawn.empty before) data ok
  exact ⟨members,given,unpacked,place ▸ unpacked.inside⟩

omit drawn in
theorem directory_not_onPath (current : Place) (base : Path) (straight : ".." ∉ base.parts) (m : Nat) :
    ¬ OnPath current base (destination current base ++ [directoryName m]) := by
  rintro ⟨start,inside,same⟩
  have plain : ".." ∉ start := fun dots => straight (inside.subset dots)
  have lengths := congrArg List.length same
  rw [destination_straight _ _ straight,destination_straight _ _ plain] at lengths
  have shorter := inside.length_le
  simp [Path.isAbsolute] at lengths
  omega

/-- A name that was passed over was taken before. -/
theorem Drawn.passed (straight : ".." ∉ base.parts) (m : Nat) (above : w.drawnDirectories < m) (below : m < n) :
    ∃ entry, w.files.find? (destination w.files.current base ++ [directoryName m]) = some entry := by
  obtain ⟨opened,changes,_,passed⟩ := drawn.made
  obtain ⟨entry,standing⟩ := passed m above below
  rw [destination_directory,changes.current] at standing
  cases entry with
  | file content => exact ⟨_,(changes.files _ content standing).resolve_right fun never => never⟩
  | directory =>
    exact ⟨_,(changes.directories _ standing).resolve_right (directory_not_onPath _ base straight m)⟩

variable {t left : FileTree} {written made lost : Place → Prop}
  (before : w.files.WellFormed) (straight : ".." ∉ base.parts)
  (unpacked : Inside (destination w.files.current base ++ [directoryName n]) files t)
  (used : Changes written made lost t left)
  (clear : ¬ written (destination w.files.current base ++ [directoryName n]))
include before straight unpacked used clear

/-- The directory is gone once it is removed, with all that was unpacked. -/
theorem Drawn.gone (place : Place) (inside : destination w.files.current base ++ [directoryName n] <+: place) :
    (left.removeTree (base.child (directoryName n))).find? place = none := by
  have current : left.current = w.files.current := used.current.trans (unpacked.current.trans drawn.current)
  have wellFormed := used.wellFormed (unpacked.wellFormed (drawn.wellFormed before))
  have directory := destination_directory left.current base n
  rw [current] at directory
  refine removeTree_gone left wellFormed _ (by simp [Path.child]) ?_ drawn.clean (fun content standing => ?_)
    place (by rw [current,directory]; exact inside)
  · intro dots
    rcases List.mem_append.mp dots with above | last
    · exact straight above
    · exact (proper_directoryName n).1.noDots (List.mem_singleton.mp last).symm
  · rw [current,directory] at standing
    have was := (used.files _ content standing).resolve_right clear
    rcases unpacked.files _ content was with file | below
    · have leads := drawn.leads.2
      rw [drawn.current,directory,file] at leads
      cases leads
    · simp [isBelow] at below

/-- Without the directory, every file is as before, but for those that the use of the project changed. -/
theorem Drawn.kept (place : Place) (unwritten : ¬ written place) (unlost : ¬ lost place) :
    (left.removeTree (base.child (directoryName n))).contentAt? place = w.files.contentAt? place := by
  have current : left.current = w.files.current := used.current.trans (unpacked.current.trans drawn.current)
  rw [← drawn.contents]
  by_cases inside : destination w.files.current base ++ [directoryName n] <+: place
  · rw [drawn.vacant before place inside]
    unfold contentAt?
    rw [drawn.gone before straight unpacked used clear place inside]
  · have outside : isBelow (destination w.files.current base ++ [directoryName n]) place ≠ true := by
      intro below
      obtain ⟨name,rest,rfl⟩ := (isBelow_iff _ _).mp below
      exact inside (List.prefix_append _ _)
    have removal := removeTree_changes left (base.child (directoryName n))
    rw [current,destination_directory] at removal
    rw [contentAt?_kept removal _ (fun never => never) outside,contentAt?_kept used _ unwritten unlost,
      contentAt?_kept unpacked _ outside (fun never => never)]

end Directory

end Project

end Pagewright
