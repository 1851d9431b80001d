import Pagewright.Proofs.Files.Survival
import Pagewright.Proofs.Project.Acceptance

/-! The directories that an analyzer makes. Over any series of requests only the directory of the last archive stands,
and a clean-up for the end of the program is registered exactly while there is one. -/
namespace Pagewright

namespace Archive
open FileTree

theorem extractMembers_keeps (property : FileTree → Prop) (kept : KeptByPut property) (files t : FileTree)
    (directory : Path) (members : List Member) (ok : extractMembers files directory members = .ok t)
    (before : property files) : property t := by
  unfold extractMembers at ok
  induction members generalizing files with
  | nil => cases ok; exact before
  | cons m members ih =>
    rw [List.foldlM_cons] at ok
    obtain ⟨next,first,rest⟩ := except_bind_success _ _ _ ok
    refine ih next rest ?_
    split at first
    · exact writeMember_keeps files next directory property kept m first before
    · cases first; exact before

/-- What is kept wherever something is put in no directory's place is kept by unpacking. -/
theorem extract_keeps (property : FileTree → Prop) (kept : KeptByPut property) (files t : FileTree) (directory : Path)
    (data : ByteArray) (ok : extract files directory data = .ok t) (before : property files) : property t := by
  obtain ⟨members,_,ran⟩ := except_bind_success _ _ _ ok
  exact extractMembers_keeps property kept files t directory members ran before

end Archive

namespace Project
open FileTree

section Holding

variable (start : FileTree) (base : Path)

/-- Of the directories that were made below a base, those that are held stand and the others do not; nothing else came
up but the base itself and what is in the directories that are held. -/
structure Holds (drawn : Nat) (made held : List Path) (t : FileTree) : Prop where
  current : t.current = start.current
  wellFormed : t.WellFormed
  named : ∀ d ∈ made, ∃ n ≤ drawn, d = base.child (directoryName n)
  once : made.Nodup
  reached : made ≠ [] → t.LeadsToDirectory base
  apart : ∀ d ∈ made, ∀ place, OnPath start.current base place → ¬ destination start.current d <+: place
  gone : ∀ d ∈ made, d ∉ held → t.find? (destination start.current d) = none
  stands : ∀ d ∈ held, d ∈ made ∧ t.LeadsToDirectory d
  new : ∀ place entry, t.find? place = some entry → start.find? place = none →
    OnPath start.current base place ∨ ∃ d ∈ held, destination start.current d <+: place

variable {start base}

theorem holds_nothing (drawn : Nat) (wellFormed : start.WellFormed) : Holds start base drawn [] [] start where
  current := rfl
  wellFormed := wellFormed
  named := nofun
  once := List.nodup_nil
  reached never := absurd rfl never
  apart := nofun
  gone := nofun
  stands := nofun
  new place entry standing none := by cases standing.symm.trans none

theorem named_apart (current : Place) (n m : Nat) (inside : destination current (base.child (directoryName n)) <+:
    destination current (base.child (directoryName m))) : n = m := by
  rw [destination_directory,destination_directory,List.prefix_append_right_inj] at inside
  exact directoryName_inj _ _ (List.cons_prefix_cons.mp inside).1

theorem onPath_child (current : Place) (p : Path) (name : String) (place : Place)
    (onPath : OnPath current (p.child name) place) :
    OnPath current p place ∨ place = destination current (p.child name) := by
  obtain ⟨first,inside,rfl⟩ := onPath
  rcases List.prefix_concat_iff.mp inside with whole | above
  · exact .inr (by rw [whole]; rfl)
  · exact .inl ⟨first,above,rfl⟩

variable {drawn : Nat} {made held : List Path} {t t' : FileTree} {d : Path}

/-- A directory is removed with all that is in it. -/
theorem Holds.remove (holds : Holds start base drawn made (d :: held) t) (apart : d ∉ held) :
    Holds start base drawn made held (t.removeTree d) := by
  have current := holds.current
  have thinned := thinned_removeTree t d
  have spares := removeTree_spares t d
  obtain ⟨among,leads⟩ := holds.stands d List.mem_cons_self
  have below : ∀ place, destination start.current d <+: place → (t.removeTree d).find? place = none := by
    obtain ⟨n,_,rfl⟩ := holds.named d among
    intro place inside
    refine removeTree_leads t _ leads ?_ ?_ place (by rw [current]; exact inside)
    · simpa [Path.name,Path.child] using (proper_directoryName n).1.noDots
    · rw [destination_directory]
      simp
  rw [current] at spares
  constructor
  case current => exact thinned.current.trans current
  case wellFormed => exact (removeTree_changes t d).wellFormed holds.wellFormed
  case named => exact holds.named
  case once => exact holds.once
  case reached =>
    intro some
    refine leads_spared _ _ spares _ (fun place onPath => ?_) (holds.reached some)
    exact holds.apart d among place (current ▸ onPath)
  case apart => exact holds.apart
  case gone =>
    intro other member free
    by_cases same : other = d
    · exact below _ (same ▸ List.prefix_refl _)
    · have none := holds.gone other member (List.not_mem_cons_of_ne_of_not_mem same free)
      refine Option.eq_none_iff_forall_ne_some.mpr fun entry standing => ?_
      cases none.symm.trans (thinned.stands _ _ standing)
  case stands =>
    intro other member
    obtain ⟨inside,leadsOther⟩ := holds.stands other (List.mem_cons_of_mem d member)
    refine ⟨inside,leads_spared _ _ spares _ (fun place onPath within => ?_) leadsOther⟩
    obtain ⟨n,_,rfl⟩ := holds.named d among
    obtain ⟨m,_,rfl⟩ := holds.named other inside
    rcases onPath_child _ _ _ _ (current ▸ onPath) with above | rfl
    · exact holds.apart _ among _ above within
    · exact apart (named_apart _ n m within ▸ member)
  case new =>
    intro place entry standing none
    rcases holds.new place entry (thinned.stands _ _ standing) none with onPath | ⟨other,member,inside⟩
    · exact .inl onPath
    · rcases List.mem_cons.mp member with rfl | member
      · cases (below place inside).symm.trans standing
      · exact .inr ⟨other,member,inside⟩

/-- What comes up in a directory that is held changes nothing else. -/
theorem Holds.fill (holds : Holds start base drawn made held t) (among : d ∈ held)
    (inside : Archive.Inside (destination start.current d) t t')
    (keeps : ∀ p, t.LeadsToDirectory p → t'.LeadsToDirectory p) : Holds start base drawn made held t' := by
  have before : ∀ place entry, t'.find? place = some entry →
      (∃ entry, t.find? place = some entry) ∨ isBelow (destination start.current d) place = true := by
    intro place entry standing
    cases entry with
    | file content => exact (inside.files place content standing).imp_left fun was => ⟨_,was⟩
    | directory => exact (inside.directories place standing).imp_left fun was => ⟨_,was⟩
  constructor
  case current => exact inside.current.trans holds.current
  case wellFormed => exact inside.wellFormed holds.wellFormed
  case named => exact holds.named
  case once => exact holds.once
  case reached => exact fun some => keeps _ (holds.reached some)
  case apart => exact holds.apart
  case gone =>
    intro other member free
    refine Option.eq_none_iff_forall_ne_some.mpr fun entry standing => ?_
    rcases before _ entry standing with ⟨entry,was⟩ | below
    · cases (holds.gone other member free).symm.trans was
    · obtain ⟨n,_,rfl⟩ := holds.named d (holds.stands d among).1
      obtain ⟨m,_,rfl⟩ := holds.named other member
      obtain ⟨name,rest,whole⟩ := (isBelow_iff _ _).mp below
      exact free (named_apart _ n m (whole ▸ List.prefix_append _ _) ▸ among)
  case stands => exact fun other member => (holds.stands other member).imp_right (keeps other)
  case new =>
    intro place entry standing none
    rcases before place entry standing with ⟨entry,was⟩ | below
    · exact holds.new place entry was none
    · obtain ⟨name,rest,rfl⟩ := (isBelow_iff _ _).mp below
      exact .inr ⟨d,among,List.prefix_append _ _⟩

/-- One more directory below the base, for which what was missing of the base was made. -/
structure Making (base : Path) (n : Nat) (t files : FileTree) : Prop where
  made : ∃ opened, Changes nowhere (OnPath t.current base) nowhere t opened ∧ Spares nowhere t opened ∧
    opened.makeDirectory (base.child (directoryName n)) = .ok files

theorem Holds.swap {e : Path} (holds : Holds start base drawn made (d :: e :: held) t) :
    Holds start base drawn made (e :: d :: held) t := by
  have same (p : Path) : p ∈ d :: e :: held ↔ p ∈ e :: d :: held := (List.Perm.swap e d held).mem_iff
  refine { holds with gone := ?_, stands := ?_, new := ?_ }
  · exact fun p among free => holds.gone p among fun member => free ((same p).mp member)
  · exact fun p among => holds.stands p ((same p).mpr among)
  · intro place entry standing none
    refine (holds.new place entry standing none).imp_right ?_
    exact fun ⟨p,among,inside⟩ => ⟨p,(same p).mp among,inside⟩

section Made

variable {n : Nat} {files : FileTree} (making : Making base n t files)
include making

theorem Making.current : files.current = t.current := by
  obtain ⟨opened,changes,_,made⟩ := making
  exact (makeDirectory_changes _ _ _ made).current.trans changes.current

theorem Making.wellFormed (wellFormed : t.WellFormed) : files.WellFormed := by
  obtain ⟨opened,changes,_,made⟩ := making
  exact (makeDirectory_changes _ _ _ made).wellFormed (changes.wellFormed wellFormed)

theorem Making.keeps (p : Path) (leads : t.LeadsToDirectory p) : files.LeadsToDirectory p := by
  obtain ⟨opened,_,spares,made⟩ := making
  exact leads_spared _ _ (spares.trans (makeDirectory_spares _ _ _ made)) p (fun _ _ never => never) leads

theorem Making.leads : files.LeadsToDirectory (base.child (directoryName n)) := by
  obtain ⟨opened,_,_,made⟩ := making
  exact makeDirectory_leads _ _ _ made

theorem Making.reached : files.LeadsToDirectory base := leads_above files base _ _ making.leads.1

/-- What comes up is the new directory and what was missing of the base. -/
theorem Making.new (place : Place) (entry : Entry) (standing : files.find? place = some entry) :
    (∃ entry, t.find? place = some entry) ∨ OnPath t.current base place ∨
      place = destination t.current (base.child (directoryName n)) := by
  obtain ⟨opened,changes,_,made⟩ := making
  have last := makeDirectory_changes _ _ _ made
  cases entry with
  | file content =>
    have was := (last.files place content standing).resolve_right fun never => never
    exact .inl ⟨_,(changes.files place content was).resolve_right fun never => never⟩
  | directory =>
    rcases last.directories place standing with was | same
    · exact (changes.directories place was).imp (fun was => ⟨_,was⟩) .inl
    · exact .inr (.inr (changes.current ▸ same))

/-- The way to the base does not lead through the new directory, which was free when the base stood. -/
theorem Making.apart (wellFormed : t.WellFormed) (place : Place) (onPath : OnPath t.current base place) :
    ¬ destination t.current (base.child (directoryName n)) <+: place := by
  obtain ⟨opened,changes,_,made⟩ := making
  obtain ⟨located,free,_,_⟩ := makeDirectory_success _ _ _ made
  rintro ⟨rest,rfl⟩
  have standing := onPath_stands opened base (leads_above opened base _ _ located) _ (changes.current ▸ onPath)
  cases rest with
  | nil =>
    rw [List.append_nil,free] at standing
    cases standing
  | cons name rest =>
    have below := isBelow_append (destination opened.current (base.child (directoryName n))) (name :: rest) (by simp)
    cases (find?_below opened (changes.wellFormed wellFormed) _ _ below (by simp [free])).symm.trans standing

/-- Nothing is in the new directory. -/
theorem Making.empty (wellFormed : t.WellFormed) (place : Place)
    (below : isBelow (destination t.current (base.child (directoryName n))) place = true) :
    files.find? place = none := by
  obtain ⟨opened,changes,_,made⟩ := making
  obtain ⟨_,free,_,rfl⟩ := makeDirectory_success _ _ _ made
  rw [← changes.current] at below
  rw [find?_put_of_ne]
  · exact find?_below opened (changes.wellFormed wellFormed) _ _ below (by simp [free])
  · rintro rfl
    simp [isBelow] at below

theorem Holds.make (holds : Holds start base drawn made held t) (later : drawn < n) :
    Holds start base n (made ++ [base.child (directoryName n)]) (base.child (directoryName n) :: held) files := by
  have current := holds.current
  have apart := making.apart holds.wellFormed
  have new := making.new
  rw [current] at apart new
  have different (d : Path) (among : d ∈ made) : d ≠ base.child (directoryName n) := by
    rintro rfl
    obtain ⟨m,early,same⟩ := holds.named _ among
    have := directoryName_inj n m (List.append_singleton_inj.mp (congrArg Path.parts same)).2
    omega
  constructor
  case current => exact making.current.trans current
  case wellFormed => exact making.wellFormed holds.wellFormed
  case named =>
    intro d among
    rcases List.mem_append.mp among with earlier | last
    · obtain ⟨m,early,same⟩ := holds.named d earlier
      exact ⟨m,by omega,same⟩
    · exact ⟨n,Nat.le_refl n,List.mem_singleton.mp last⟩
  case once =>
    refine List.nodup_append.mpr ⟨holds.once,List.nodup_singleton _,fun d among e last => ?_⟩
    rw [List.mem_singleton.mp last]
    exact different d among
  case reached => exact fun _ => making.reached
  case apart =>
    intro d among
    rcases List.mem_append.mp among with earlier | last
    · exact holds.apart d earlier
    · rw [List.mem_singleton.mp last]
      exact apart
  case gone =>
    intro d among free
    rw [List.mem_cons,not_or] at free
    have earlier := (List.mem_append.mp among).resolve_right fun last => free.1 (List.mem_singleton.mp last)
    refine Option.eq_none_iff_forall_ne_some.mpr fun entry standing => ?_
    rcases new _ entry standing with ⟨entry,was⟩ | onPath | same
    · cases (holds.gone d earlier free.2).symm.trans was
    · exact holds.apart d earlier _ onPath (List.prefix_refl _)
    · obtain ⟨m,_,rfl⟩ := holds.named d earlier
      obtain rfl := named_apart _ m n ⟨[],by rw [List.append_nil,same]⟩
      exact free.1 rfl
  case stands =>
    intro d among
    rcases List.mem_cons.mp among with rfl | earlier
    · exact ⟨List.mem_append_right _ (List.mem_singleton.mpr rfl),making.leads⟩
    · exact ⟨List.mem_append_left _ (holds.stands d earlier).1,making.keeps d (holds.stands d earlier).2⟩
  case new =>
    intro place entry standing none
    rcases new place entry standing with ⟨entry,was⟩ | onPath | rfl
    · refine (holds.new place entry was none).imp_right ?_
      exact fun ⟨d,among,inside⟩ => ⟨d,List.mem_cons_of_mem _ among,inside⟩
    · exact .inl onPath
    · exact .inr ⟨_,List.mem_cons_self,List.prefix_refl _⟩

end Made

end Holding

theorem newDirectory_making (w : Workspace) (a a' : Analyzer) (w' : Workspace) (directory : Path)
    (ok : a.newDirectory w = .ok (directory,a',w')) :
    ∃ n files, w.drawnDirectories < n ∧ Making (a.temporaryRoot.getD w.temporary) n w.files files ∧
      directory = (a.temporaryRoot.getD w.temporary).child (directoryName n) ∧
      a' = .register { (a.cleanup { w with files, drawnDirectories := n }).1 with extracted := some directory } ∧
      w' = (a.cleanup { w with files, drawnDirectories := n }).2 := by
  obtain ⟨opened,n,files,making,drawing,same⟩ := newDirectory_steps w a a' w' directory ok
  obtain ⟨later,named,made,_⟩ := drawDirectory_success _ _ _ _ _ _ _ drawing
  rcases making with ⟨root,rfl⟩ | ⟨base,root,making⟩
  · exact ⟨n,files,later,⟨w.files,Changes.refl _,Spares.refl _,made⟩,named,same⟩
  · refine ⟨n,files,later,⟨opened,?_,makeDirectories_spares _ _ _ making,made⟩,named,same⟩
    rw [root]
    exact (makeDirectories_success _ _ _ making).1

section Registering

/-- A clean-up is registered for the end of the program, and only once, exactly while there is a directory. -/
structure Analyzer.Registered (a : Analyzer) : Prop where
  known : a.registered = a.extracted.isSome
  hooks : a.hooks = a.extracted.toList.length

theorem registered_new (root : Option Path) : (Analyzer.new root).Registered := ⟨rfl,rfl⟩

variable (a : Analyzer) (w : Workspace)

/-- After a clean-up nothing is registered. -/
theorem cleanup_unregistered (registered : a.Registered) :
    (a.cleanup w).1.registered = false ∧ (a.cleanup w).1.hooks = 0 := by
  obtain ⟨known,hooks⟩ := registered
  unfold Analyzer.cleanup Analyzer.unregister
  dsimp only
  cases given : a.registered with
  | true => exact ⟨rfl,rfl⟩
  | false =>
    have none := Option.isSome_eq_false_iff.mp (known.symm.trans given)
    rw [Option.isNone_iff_eq_none.mp none] at hooks
    exact ⟨rfl,hooks⟩

theorem registered_cleanup (registered : a.Registered) : (a.cleanup w).1.Registered := by
  obtain ⟨known,hooks⟩ := cleanup_unregistered a w registered
  constructor
  · rw [known,cleanup_extracted]
    rfl
  · rw [hooks,cleanup_extracted]
    rfl

theorem registered_register (directory : Path) (free : a.registered = false) (hooks : a.hooks = 0) :
    (Analyzer.register { a with extracted := some directory }).Registered := by
  unfold Analyzer.register
  dsimp only
  rw [free,hooks]
  exact ⟨rfl,rfl⟩

end Registering

/-- What an analyzer is asked to do. Leaving the block in which it is used is a clean-up as well. -/
inductive Request where
  | analyze (archive : Path)
  | analyzeDirectory (root : Path)
  | cleanup
  | leave

/-- The directory that is made for an archive, whatever comes of its analysis. -/
def Analyzer.made? (a : Analyzer) (archive : Path) (w : Workspace) : Option Path :=
  match w.files.isFile archive with
  | .ok true => (a.newDirectory w).toOption.map (·.1)
  | _ => none

/-- An analyzer at work, with all directories that it has made so far. -/
structure Course where
  analyzer : Analyzer
  workspace : Workspace
  made : List Path

namespace Course

def start (root : Option Path) (w : Workspace) : Course := ⟨.new root,w,[]⟩

/-- The analyzer and its surroundings after a request, whether it is answered or refused. -/
def after (c : Course) (request : Request) : Course :=
  match request with
  | .analyze archive =>
    let ran := c.analyzer.analyze archive c.workspace
    ⟨ran.2.1,ran.2.2,c.made ++ (c.analyzer.made? archive c.workspace).toList⟩
  | .analyzeDirectory root =>
    let ran := c.analyzer.analyzeIn root c.workspace
    ⟨ran.2.1,ran.2.2,c.made⟩
  | .cleanup | .leave =>
    let ran := c.analyzer.cleanup c.workspace
    ⟨ran.1,ran.2,c.made⟩

def run (c : Course) (requests : List Request) : Course := requests.foldl after c

/-- The directories that the analyzer has made and that still exist. -/
def remaining (c : Course) : List Path := c.made.filter (Archive.taken c.workspace.files)

variable (files : FileTree) (base : Path)

/-- An analyzer that keeps order among its directories and registers its clean-up when it has to. -/
structure Tidy (c : Course) : Prop where
  place : c.analyzer.temporaryRoot.getD c.workspace.temporary = base
  registered : c.analyzer.Registered
  holds : Holds files base c.workspace.drawnDirectories c.made c.analyzer.extracted.toList c.workspace.files

variable {files base}

theorem tidy_start (root : Option Path) (w : Workspace) (wellFormed : w.files.WellFormed) :
    (start root w).Tidy w.files (root.getD w.temporary) :=
  ⟨rfl,registered_new root,holds_nothing _ wellFormed⟩

section Steps

variable {a a' : Analyzer} {w w' : Workspace} {made : List Path} (tidy : Tidy files base ⟨a,w,made⟩)
include tidy

theorem tidy_cleanup : Tidy files base ⟨(a.cleanup w).1,(a.cleanup w).2,made⟩ := by
  obtain ⟨place,registered,holds⟩ := tidy
  refine ⟨?_,registered_cleanup a w registered,?_⟩
  · rw [cleanup_temporaryRoot]
    exact place
  · rw [cleanup_extracted]
    dsimp only at holds
    rcases cleanup_cases a w with ⟨none,same⟩ | ⟨before,some,same⟩
    · rw [none] at holds
      exact same ▸ holds
    · rw [some] at holds
      exact same ▸ holds.remove List.not_mem_nil

/-- The new directory takes the place of the one before. -/
theorem tidy_newDirectory (directory : Path) (ok : a.newDirectory w = .ok (directory,a',w')) :
    Tidy files base ⟨a',w',made ++ [directory]⟩ ∧ a'.extracted = some directory ∧
      ∀ place, isBelow (destination files.current directory) place = true → w'.files.find? place = none := by
  obtain ⟨place,registered,holds⟩ := tidy
  obtain ⟨n,drawn,later,making,same,rfl,rfl⟩ := newDirectory_making w a a' w' directory ok
  dsimp only at place holds
  rw [place] at making same
  subst same
  have thinned := cleanup_thinned a { w with files := drawn, drawnDirectories := n }
  obtain ⟨free,hooks⟩ := cleanup_unregistered a { w with files := drawn, drawnDirectories := n } registered
  have made := holds.make making later
  refine ⟨⟨?_,registered_register _ _ free hooks,?_⟩,register_extracted _,fun place below => ?_⟩
  · rw [register_temporaryRoot]
    exact (congrArg (·.getD w.temporary) (cleanup_temporaryRoot _ a)).trans place
  · rw [register_extracted]
    rcases cleanup_cases a { w with files := drawn, drawnDirectories := n } with ⟨none,same⟩ | ⟨before,some,same⟩
    · rw [none] at made
      exact same ▸ made
    · -- The one before was made with another number.
      rw [some] at holds made
      have apart : before ∉ [base.child (directoryName n)] := by
        intro is
        have among := (holds.stands before List.mem_cons_self).1
        rw [List.mem_singleton.mp is] at among
        obtain ⟨m,early,other⟩ := holds.named _ among
        have := directoryName_inj n m (List.append_singleton_inj.mp (congrArg Path.parts other)).2
        omega
      exact same ▸ (made.swap).remove apart
  · rw [← holds.current] at below
    refine Option.eq_none_iff_forall_ne_some.mpr fun entry standing => ?_
    cases (making.empty holds.wellFormed place below).symm.trans (thinned.stands _ _ standing)

/-- An archive is unpacked into a new directory, or none stands after a directory was made. -/
theorem tidy_extract (archive : Path) :
    Tidy files base ⟨(a.extract archive w).2.1,(a.extract archive w).2.2,
      made ++ ((a.newDirectory w).toOption.map (·.1)).toList⟩ := by
  unfold Analyzer.extract
  cases new : a.newDirectory w with
  | error fault =>
    dsimp only [Except.toOption,Option.map_none,Option.toList]
    rw [List.append_nil]
    exact tidy
  | ok found =>
    obtain ⟨directory,a₁,w₁⟩ := found
    obtain ⟨opened,held,nothing⟩ := tidy_newDirectory tidy directory new
    have failed := tidy_cleanup opened
    dsimp only [Except.toOption,Option.map_some,Option.toList]
    split
    next t outcome =>
      have extracted : ∃ content, Archive.extract w₁.files directory content = .ok t := by
        split at outcome
        · cases outcome
        · exact ⟨_,outcome⟩
      obtain ⟨content,extracted⟩ := extracted
      obtain ⟨place,registered,holds⟩ := opened
      dsimp only at holds
      rw [held] at holds
      have leads := (holds.stands directory List.mem_cons_self).2
      rw [← holds.current] at nothing
      obtain ⟨members,_,unpacked⟩ := Archive.extract_success w₁.files t directory leads nothing content extracted
      have inside := unpacked.inside
      rw [holds.current] at inside
      refine ⟨place,registered,?_⟩
      dsimp only
      rw [held]
      refine holds.fill List.mem_cons_self inside fun p leads => ?_
      exact Archive.extract_keeps _ (Archive.keptByPut_leads p) w₁.files t directory content extracted leads
    · exact failed

end Steps

/-- The root of the project does not matter for the directories. -/
theorem tidy_root {a : Analyzer} {w : Workspace} {made : List Path} (root : Option Path)
    (tidy : Tidy files base ⟨a,w,made⟩) : Tidy files base ⟨{ a with root },w,made⟩ :=
  ⟨tidy.place,⟨tidy.registered.known,tidy.registered.hooks⟩,tidy.holds⟩

theorem tidy_analyze (a : Analyzer) (w : Workspace) (made : List Path) (archive : Path)
    (tidy : Tidy files base ⟨a,w,made⟩) :
    Tidy files base ⟨(a.analyze archive w).2.1,(a.analyze archive w).2.2,made ++ (a.made? archive w).toList⟩ := by
  unfold Analyzer.analyze Analyzer.made?
  cases w.files.isFile archive with
  | error fault => exact (List.append_nil made).symm ▸ tidy
  | ok present =>
    cases present with
    | false => exact (List.append_nil made).symm ▸ tidy
    | true =>
      have extracted := tidy_extract tidy archive
      dsimp only
      generalize a.extract archive w = ran at extracted ⊢
      obtain ⟨outcome,a₁,w₁⟩ := ran
      cases outcome with
      | error failure => exact extracted
      | ok directory =>
        dsimp only
        cases locateRoot w₁.files directory with
        | error failure => exact extracted
        | ok root => exact tidy_root (some root) extracted

theorem tidy_after (c : Course) (request : Request) (tidy : c.Tidy files base) : (c.after request).Tidy files base := by
  cases request with
  | analyze archive => exact tidy_analyze _ _ _ archive tidy
  | analyzeDirectory root => exact tidy_root (some root) tidy
  | cleanup => exact tidy_cleanup tidy
  | leave => exact tidy_cleanup tidy

theorem tidy_run (c : Course) (requests : List Request) (tidy : c.Tidy files base) :
    (c.run requests).Tidy files base := by
  induction requests generalizing c with
  | nil => exact tidy
  | cons request requests ih => exact ih (c.after request) (tidy_after c request tidy)

theorem Tidy.remaining_eq {c : Course} (tidy : c.Tidy files base) : c.remaining = c.analyzer.extracted.toList := by
  obtain ⟨_,_,holds⟩ := tidy
  have stands (d : Path) (among : d ∈ c.made) :
      Archive.taken c.workspace.files d = true ↔ c.analyzer.extracted = some d := by
    rw [← Option.mem_toList]
    constructor
    · intro taken
      by_contra free
      obtain ⟨entry,standing⟩ := Archive.taken_stands _ d taken
      rw [holds.current] at standing
      cases (holds.gone d among free).symm.trans standing
    · exact fun held => Archive.taken_leads _ d (holds.stands d held).2
  unfold remaining
  cases extracted : c.analyzer.extracted with
  | none =>
    refine List.filter_eq_nil_iff.mpr fun d among taken => ?_
    cases extracted.symm.trans ((stands d among).mp taken)
  | some held =>
    have among : held ∈ c.made := (holds.stands held (by rw [extracted]; exact List.mem_singleton.mpr rfl)).1
    have same : c.made.filter (Archive.taken c.workspace.files) = c.made.filter (· == held) := by
      refine List.filter_congr fun d inside => ?_
      rw [Bool.eq_iff_iff,stands d inside,extracted,Option.some_inj,beq_iff_eq,eq_comm]
    rw [same,List.filter_beq,List.count_eq_one_of_mem holds.once among]
    rfl

/-- What stands and what is registered after some requests. -/
structure Orderly (files : FileTree) (base : Path) (c : Course) : Prop where
  /-- Of the directories that were made, the one of the last archive exists. -/
  remaining : c.remaining = c.analyzer.extracted.toList
  hooks : c.analyzer.hooks = c.analyzer.extracted.toList.length
  directory : ∀ d, c.analyzer.extracted = some d → c.workspace.files.LeadsToDirectory d
  /-- Nothing else came up but the base, so that no directory is missing from those that were made. -/
  others : ∀ place entry, c.workspace.files.find? place = some entry → files.find? place = none →
    OnPath files.current base place ∨
      ∃ d, c.analyzer.extracted = some d ∧ destination files.current d <+: place

theorem Tidy.orderly {c : Course} (tidy : c.Tidy files base) : c.Orderly files base where
  remaining := tidy.remaining_eq
  hooks := tidy.registered.hooks
  directory d held := (tidy.holds.stands d (by rw [held]; exact List.mem_singleton.mpr rfl)).2
  others place entry standing none := by
    refine (tidy.holds.new place entry standing none).imp_right fun ⟨d,held,inside⟩ => ⟨d,?_,inside⟩
    exact Option.mem_toList.mp held

/-- The analysis of an archive goes on with the directory of its extraction. -/
theorem analyze_extracted_held (a : Analyzer) (archive : Path) (w : Workspace)
    (present : w.files.isFile archive = .ok true) :
    (a.analyze archive w).2.1.extracted = (a.extract archive w).2.1.extracted := by
  unfold Analyzer.analyze
  rw [present]
  rcases a.extract archive w with ⟨failure | directory,a₁,w₁⟩
  · rfl
  · dsimp only
    cases locateRoot w₁.files directory <;> rfl

end Course

end Project

end Pagewright
