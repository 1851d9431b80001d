import Pagewright.Proofs.Archive.Packing
import Pagewright.Proofs.Project.Unpacking

/-! What extracting an archive does to the files, whatever its members are called. All that it adds is below the
directory of the archive, a member is left out where its name leads out of the directory, and every other member
is there, under its cleaned name and with the data of the last one of that name. -/
namespace Pagewright
open FileTree

namespace Archive

/-- The last member that is written at names below the directory. -/
def lastAt (files : FileTree) (directory : Path) (members : List Member) (names : List String) : Option Member :=
  members.reverse.find? fun m => staysInside files directory m.name && nameParts m.name == names

section Members

variable (t t' : FileTree) (directory : Path) (m : Member)

theorem makeMissing_contents (fuel : Nat) (p : Path) (ok : makeMissing fuel t p = .ok t') :
    Changes nowhere (fun _ => True) nowhere t t' ∧ t'.LeadsToDirectory p := by
  induction fuel generalizing p t' with
  | zero =>
    have made : t.makeDirectory p = .ok t' := ok
    exact ⟨(makeDirectory_changes t t' p made).weaken (fun _ => id) (fun _ _ => trivial) fun _ => id,
      makeDirectory_leads t t' p made⟩
  | succ fuel ih =>
    rw [makeMissing_succ] at ok
    obtain ⟨middle,above,made⟩ := except_bind_success _ _ _ ok
    have last : Changes nowhere (fun _ => True) nowhere middle t' :=
      (makeDirectory_changes middle t' p made).weaken (fun _ => id) (fun _ _ => trivial) fun _ => id
    refine ⟨?_,makeDirectory_leads middle t' p made⟩
    split at above
    · cases above
      exact last
    · exact (ih middle p.parent above).1.trans last

/-- What writing a member does to the files, in whatever tree. -/
structure Wrote (t' : FileTree) : Prop where
  current : t'.current = t.current
  content : ∀ place, t'.contentAt? place =
    if !m.isDirectory && place == destination t.current directory ++ nameParts m.name then m.data.toOption.map .bytes
    else t.contentAt? place
  data : m.isDirectory = false → ∃ data, m.data = .ok data
  folder : m.isDirectory = true → t'.find? (destination t.current directory ++ nameParts m.name) = some .directory
  stands : ∀ place, t.find? place = some .directory → t'.find? place = some .directory

theorem taken_stands (p : Path) (there : taken t p = true) : ∃ entry, t.find? (destination t.current p) = some entry := by
  cases located : t.locate p with
  | ok place =>
    rw [← (locate_place t p place located).1]
    simp only [taken,exists?,look,located] at there
    exact Option.isSome_iff_exists.mp there
  | error fault =>
    unfold taken exists? look at there
    rw [located] at there
    cases fault with
    | file kind text => cases kind <;> cases there
    | _ => cases there

theorem writeDirectory_leads (target : Path) (ok : writeDirectory t target = .ok t') : t'.LeadsToDirectory target := by
  unfold writeDirectory at ok
  split at ok
  next standing => cases ok; exact isDirectory_success t target standing
  next => exact makeDirectory_leads t t' target ok

/-- A member is written in two steps: what is missing above it, and then what it is. -/
theorem writeMember_steps (proper : directory.parts ≠ []) (ok : writeMember t directory m = .ok t') :
    ∃ middle, Changes nowhere (fun _ => True) nowhere t middle ∧ Placed m (targetOf directory m) middle t' ∧
      (m.isDirectory = true → t'.LeadsToDirectory (targetOf directory m)) ∧
      (taken t ⟨directory.slashes,directory.parts ++ (nameParts m.name).dropLast⟩ = true ∧ middle = t ∨
        middle.LeadsToDirectory ⟨directory.slashes,directory.parts ++ (nameParts m.name).dropLast⟩) := by
  obtain ⟨middle,above,ok⟩ := except_bind_success _ _ _ ok
  rw [upper_eq] at above
  have above := except_mapError_success _ _ _ above
  have first : Changes nowhere (fun _ => True) nowhere t middle ∧
      (taken t ⟨directory.slashes,directory.parts ++ (nameParts m.name).dropLast⟩ = true ∧ middle = t ∨
        middle.LeadsToDirectory ⟨directory.slashes,directory.parts ++ (nameParts m.name).dropLast⟩) := by
    split at above
    next there => cases above; exact ⟨.refl t,.inl ⟨there,rfl⟩⟩
    next => exact (makeMissing_contents t middle _ _ above).imp_right .inr
  refine ⟨middle,first.1,?_,?_,first.2⟩
  · split at ok
    next isDirectory => exact writeDirectory_success middle t' m isDirectory _ (except_mapError_success _ _ _ ok)
    next isFile =>
      obtain ⟨opened,opening,ok⟩ := except_bind_success _ _ _ ok
      obtain ⟨data,given,ok⟩ := except_bind_success _ _ _ ok
      exact writeFile_success middle t' m (Bool.eq_false_iff.mpr isFile) _ (by simp [targetOf,proper]) opened data given
        (except_mapError_success _ _ _ opening) (except_mapError_success _ _ _ ok)
  · intro isDirectory
    rw [if_pos isDirectory] at ok
    exact writeDirectory_leads middle t' _ (except_mapError_success _ _ _ ok)

theorem writeMember_wrote (proper : directory.parts ≠ []) (ok : writeMember t directory m = .ok t') :
    Wrote t directory m t' := by
  obtain ⟨middle,above,placed,leads,_⟩ := writeMember_steps t t' directory m proper ok
  have target : destination middle.current (targetOf directory m) =
      destination t.current directory ++ nameParts m.name := by
    rw [above.current]
    exact destination_below _ directory _ (noDots_nameParts m.name)
  have current : t'.current = middle.current := placed.changes.current
  constructor
  case current => exact current.trans above.current
  case content =>
    intro place
    rw [left_content middle t' m _ _ placed.left,contentAt?_kept above _ (fun never => never) (fun never => never),target]
  case data =>
    intro isFile
    cases placed.left with
    | directory isDirectory => cases isFile.symm.trans isDirectory
    | made isDirectory => cases isFile.symm.trans isDirectory
    | file data _ given => exact ⟨data,given⟩
  case folder =>
    intro isDirectory
    have standing := (leads isDirectory).2
    rw [current,target] at standing
    exact standing
  case stands =>
    intro place standing
    refine writeMember_keeps t t' directory (·.find? place = some .directory) ?_ m ok standing
    intro other free entry noDirectory stands
    rw [find?_put_of_ne]
    · exact stands
    · rintro rfl
      exact noDirectory stands

/-- A file has a name of its own below the directory, unless a file stands in the place of the directory. -/
theorem writeMember_named (proper : directory.parts ≠ []) (isFile : m.isDirectory = false)
    (free : t.contentAt? (destination t.current directory) = none) (ok : writeMember t directory m = .ok t') :
    nameParts m.name ≠ [] := by
  intro none
  obtain ⟨middle,above,placed,_,upper⟩ := writeMember_steps t t' directory m proper ok
  have target : targetOf directory m = directory := by
    unfold targetOf
    rw [none,List.append_nil]
  have noDirectory : middle.find? (destination middle.current directory) ≠ some .directory := by
    rw [target] at placed
    cases placed.left with
    | directory isDirectory => cases isFile.symm.trans isDirectory
    | made isDirectory => cases isFile.symm.trans isDirectory
    | file _ _ _ noDirectory => exact noDirectory
  rw [none,List.dropLast_nil,List.append_nil] at upper
  rcases upper with ⟨there,rfl⟩ | leads
  · obtain ⟨entry,standing⟩ := taken_stands middle directory there
    cases entry with
    | directory => exact noDirectory standing
    | file content => cases free.symm.trans ((contentAt?_eq_some _ _ _).mpr standing)
  · exact noDirectory leads.2

/-- A file is opened under its name, once what is missing above stands, and then has its data. -/
theorem writeMember_run (target : Path) (data : ByteArray) (opened emptied : FileTree) (isFile : m.isDirectory = false)
    (given : m.data = .ok data) (named : nameParts m.name ≠ []) (leads : targetOf directory m = target)
    (above : (if taken t target.parent then .ok t
      else makeMissing target.parent.parts.length t target.parent) = .ok opened)
    (first : opened.write target (.bytes ByteArray.empty) = .ok emptied)
    (second : emptied.write target (.bytes data) = .ok t') : writeMember t directory m = .ok t' := by
  have upper : (nameParts m.name == []) = false := beq_eq_false_iff_ne.mpr named
  unfold writeMember
  rw [leads,upper,isFile]
  show (if taken t target.parent = true then .ok t
    else makeMissing target.parent.parts.length t target.parent).mapError Fault.message >>= _ = _
  rw [above]
  show (opened.write target _).mapError Fault.message >>= _ = _
  rw [first,given]
  show (emptied.write target _).mapError Fault.message = _
  rw [second]
  rfl

end Members

section Run

variable (files : FileTree) (directory : Path) (members : List Member)

theorem lastAt_snoc (m : Member) (names : List String) :
    lastAt files directory (members ++ [m]) names =
      if staysInside files directory m.name && nameParts m.name == names then some m
      else lastAt files directory members names := by
  unfold lastAt
  rw [List.reverse_append,List.reverse_singleton,List.singleton_append,List.find?_cons]
  split <;> simp_all

theorem lastAt_of_member (m : Member) (member : m ∈ members) (inside : staysInside files directory m.name = true) :
    ∃ last, lastAt files directory members (nameParts m.name) = some last := by
  refine Option.isSome_iff_exists.mp (List.find?_isSome.mpr ⟨m,List.mem_reverse.mpr member,?_⟩)
  rw [inside,Bool.true_and,beq_self_eq_true]

theorem enter_stack (stack parts : List String) :
    (parts.foldl (fun (stack : List String) part => if part == ".." then stack.tail else part :: stack) stack).reverse =
      parts.foldl enter stack.reverse := by
  induction parts generalizing stack with
  | nil => rfl
  | cons part parts ih =>
    rw [List.foldl_cons,List.foldl_cons,ih]
    unfold enter
    split
    · rw [List.dropLast_reverse]
    · rw [List.reverse_cons]

/-- The place of a path is where it leads if every directory on the way stands. -/
theorem placeOf_eq (straight : ".." ∉ files.current) (p : Path) : placeOf files p = destination files.current p := by
  unfold placeOf Path.normalize
  rw [enter_stack,List.foldl_append,List.reverse_nil,destination]
  congr 1
  split
  · rfl
  · rw [foldl_enter_names _ _ straight,List.nil_append]

/-- A member is written where its name, seen from the directory, leads to the directory or below it. -/
theorem staysInside_iff (straight : ".." ∉ files.current) (name : String) :
    staysInside files directory name = true ↔
      destination files.current directory <+: destination files.current (directory / name) := by
  unfold staysInside
  rw [placeOf_eq files straight,placeOf_eq files straight,List.isPrefixOf_iff_prefix]

/-- What members leave when they are written one after another, in whatever tree. -/
structure Extracted (t : FileTree) : Prop where
  current : t.current = files.current
  outside : ∀ place, ¬ destination files.current directory <+: place → t.contentAt? place = files.contentAt? place
  untouched : ∀ names, lastAt files directory members names = none →
    t.contentAt? (destination files.current directory ++ names) =
      files.contentAt? (destination files.current directory ++ names)
  file : ∀ names last, lastAt files directory members names = some last → last.isDirectory = false →
    names ≠ [] ∧ ∃ data, last.data = .ok data ∧
      t.contentAt? (destination files.current directory ++ names) = some (.bytes data)
  folder : ∀ names last, lastAt files directory members names = some last → last.isDirectory = true →
    t.find? (destination files.current directory ++ names) = some .directory
  uniform : ∀ m ∈ members, staysInside files directory m.name = true → ∀ last,
    lastAt files directory members (nameParts m.name) = some last → m.isDirectory = last.isDirectory

variable {files directory members} {t : FileTree}

/-- No file is in the place of the directory. -/
theorem Extracted.free (extracted : Extracted files directory members t)
    (free : files.contentAt? (destination files.current directory) = none) :
    t.contentAt? (destination t.current directory) = none := by
  rw [extracted.current]
  cases last : lastAt files directory members [] with
  | none =>
    have same := extracted.untouched [] last
    rw [List.append_nil] at same
    exact same.trans free
  | some m =>
    cases isDirectory : m.isDirectory with
    | false => exact absurd rfl (extracted.file [] m last isDirectory).1
    | true =>
      have standing := extracted.folder [] m last isDirectory
      rw [List.append_nil] at standing
      unfold contentAt?
      rw [standing]

/-- A skipped member changes nothing. -/
theorem Extracted.skip (extracted : Extracted files directory members t) (m : Member)
    (skipped : staysInside files directory m.name = false) : Extracted files directory (members ++ [m]) t := by
  have same (names : List String) : lastAt files directory (members ++ [m]) names =
      lastAt files directory members names := by
    rw [lastAt_snoc,skipped]
    rfl
  refine ⟨extracted.current,extracted.outside,fun names => ?_,fun names => ?_,fun names => ?_,?_⟩
  · rw [same]; exact extracted.untouched names
  · rw [same]; exact extracted.file names
  · rw [same]; exact extracted.folder names
  · intro other member inside
    rw [same]
    rcases List.mem_append.mp member with earlier | new
    · exact extracted.uniform other earlier inside
    · rw [List.mem_singleton.mp new,skipped] at inside
      cases inside

/-- Where a file stands no directory is made, and the other way round. -/
theorem Extracted.kind (extracted : Extracted files directory members t) (m former : Member) (t' : FileTree)
    (wrote : Wrote t directory m t') (was : lastAt files directory members (nameParts m.name) = some former) :
    m.isDirectory = former.isDirectory := by
  have kept := wrote.content (destination files.current directory ++ nameParts m.name)
  have leads := wrote.folder
  rw [extracted.current] at kept leads
  unfold contentAt? at kept
  cases new : m.isDirectory with
  | true =>
    cases isFile : former.isDirectory with
    | true => rfl
    | false =>
      obtain ⟨_,data,_,standing⟩ := extracted.file _ former was isFile
      unfold contentAt? at standing
      rw [new,leads new,standing] at kept
      cases kept
  | false =>
    cases isDirectory : former.isDirectory with
    | false => rfl
    | true =>
      obtain ⟨data,given⟩ := wrote.data new
      rw [new,beq_self_eq_true,given,wrote.stands _ (extracted.folder _ former was isDirectory)] at kept
      cases kept

/-- A member that is written is the last one at its names, and of one kind with those before. -/
theorem Extracted.write (extracted : Extracted files directory members t) (m : Member) (t' : FileTree)
    (inside : staysInside files directory m.name = true) (wrote : Wrote t directory m t')
    (named : m.isDirectory = false → nameParts m.name ≠ []) : Extracted files directory (members ++ [m]) t' := by
  have content := wrote.content
  have leads := wrote.folder
  rw [extracted.current] at content leads
  have own : lastAt files directory (members ++ [m]) (nameParts m.name) = some m := by
    rw [lastAt_snoc,inside,Bool.true_and,beq_self_eq_true]
    rfl
  have other (names : List String) (different : nameParts m.name ≠ names) :
      lastAt files directory (members ++ [m]) names = lastAt files directory members names ∧
        t'.contentAt? (destination files.current directory ++ names) =
          t.contentAt? (destination files.current directory ++ names) := by
    refine ⟨?_,?_⟩
    · rw [lastAt_snoc,beq_eq_false_iff_ne.mpr different,Bool.and_false]
      rfl
    · have place : (destination files.current directory ++ names ==
          destination files.current directory ++ nameParts m.name) = false :=
        beq_eq_false_iff_ne.mpr fun same => different (List.append_cancel_left same).symm
      rw [content,place,Bool.and_false]
      rfl
  constructor
  case current => exact wrote.current.trans extracted.current
  case outside =>
    intro place outside
    have apart : (place == destination files.current directory ++ nameParts m.name) = false :=
      beq_eq_false_iff_ne.mpr fun same => outside (same ▸ List.prefix_append _ _)
    rw [content,apart,Bool.and_false]
    exact extracted.outside place outside
  case untouched =>
    intro names none
    by_cases same : nameParts m.name = names
    · rw [← same,own] at none
      cases none
    · obtain ⟨last,kept⟩ := other names same
      rw [kept]
      exact extracted.untouched names (last ▸ none)
  case file =>
    intro names last found isFile
    by_cases same : nameParts m.name = names
    · rw [← same,own] at found
      cases found
      obtain ⟨data,given⟩ := wrote.data isFile
      refine ⟨same ▸ named isFile,data,given,?_⟩
      rw [← same,content,isFile,beq_self_eq_true,given]
      rfl
    · obtain ⟨before,kept⟩ := other names same
      rw [kept]
      exact extracted.file names last (before ▸ found) isFile
  case folder =>
    intro names last found isDirectory
    by_cases same : nameParts m.name = names
    · rw [← same,own] at found
      cases found
      exact same ▸ leads isDirectory
    · exact wrote.stands _ (extracted.folder names last ((other names same).1 ▸ found) isDirectory)
  case uniform =>
    intro earlier member stays last found
    by_cases same : nameParts m.name = nameParts earlier.name
    · rw [← same,own] at found
      cases found
      rcases List.mem_append.mp member with before | new
      · obtain ⟨former,was⟩ := lastAt_of_member files directory members earlier before stays
        rw [extracted.uniform earlier before stays former was]
        exact (extracted.kind m former t' wrote (same ▸ was)).symm
      · rw [List.mem_singleton.mp new]
    · rcases List.mem_append.mp member with before | new
      · exact extracted.uniform earlier before stays last ((other _ same).1 ▸ found)
      · exact absurd (congrArg nameParts (congrArg Member.name (List.mem_singleton.mp new).symm)) same

/-- What extracting leaves: the members inside are written, all others are skipped. -/
theorem extractMembers_extracted (proper : directory.parts ≠ [])
    (free : files.contentAt? (destination files.current directory) = none)
    (ok : extractMembers files directory members = .ok t) : Extracted files directory members t := by
  induction members using List.reverseRecOn generalizing t with
  | nil =>
    cases ok
    exact ⟨rfl,fun _ _ => rfl,fun _ _ => rfl,nofun,nofun,nofun⟩
  | append_singleton members m ih =>
    obtain ⟨before,earlier,last⟩ := extractMembers_snoc files t directory members m ok
    have extracted := ih earlier
    rcases last extracted.current with ⟨inside,written⟩ | ⟨skipped,rfl⟩
    · exact extracted.write m t inside (writeMember_wrote before t directory m proper written) fun isFile =>
        writeMember_named before t directory m proper isFile (extracted.free free) written
    · exact extracted.skip m skipped

/-- The members inside are written in order, and no others. -/
theorem extractMembers_written (proper : directory.parts ≠ []) (start : FileTree) (same : start.current = files.current) :
    extractMembers start directory members =
      (members.filter fun m => staysInside files directory m.name).foldlM (fun t m => writeMember t directory m) start := by
  induction members generalizing start with
  | nil => rfl
  | cons m members ih =>
    unfold extractMembers at ih ⊢
    rw [List.foldlM_cons,staysInside_current files directory start same]
    cases inside : staysInside files directory m.name with
    | false =>
      rw [List.filter_cons,inside]
      exact ih start same
    | true =>
      simp only [List.filter_cons,inside,if_true,List.foldlM_cons]
      cases wrote : writeMember start directory m with
      | error reason => rfl
      | ok t =>
        have current := (writeMember_wrote start t directory m proper wrote).current
        exact ih t (current.trans same)

end Run

end Archive

namespace Project
open Archive (Member lastAt nameParts staysInside writeMember unpack)

section Directory

variable (a a' : Analyzer) (w w' : Workspace) (directory : Path)

/-- A tree with a new directory for an archive, in which no file stands, and without the directory of the archive
before. -/
structure Fresh (t : FileTree) : Prop where
  proper : directory.parts ≠ []
  current : t.current = w.files.current
  files : ∀ place content, t.contentAt? place = some content → w.files.contentAt? place = some content
  empty : ∀ place, destination w.files.current directory <+: place → t.contentAt? place = none

theorem Fresh.thinned {w : Workspace} {directory : Path} {t t' : FileTree} (fresh : Fresh w directory t)
    (thinned : Thinned t t') : Fresh w directory t' where
  proper := fresh.proper
  current := thinned.current.trans fresh.current
  files place content standing := by
    rw [contentAt?_eq_some] at standing
    exact fresh.files place content ((contentAt?_eq_some _ _ _).mpr (thinned.stands _ _ standing))
  empty place inside := by
    refine Option.eq_none_iff_forall_ne_some.mpr fun content standing => ?_
    rw [contentAt?_eq_some] at standing
    cases (fresh.empty place inside).symm.trans ((contentAt?_eq_some _ _ _).mpr (thinned.stands _ _ standing))

theorem Drawn.fresh {w : Workspace} {base : Path} {n : Nat} {files : FileTree} (drawn : Drawn w base n files)
    (wellFormed : w.files.WellFormed) : Fresh w (base.child (directoryName n)) files := by
  constructor
  case proper => simp [Path.child]
  case current => exact drawn.current
  case files => exact fun place content standing => (drawn.contents place).symm.trans standing
  case empty =>
    rw [destination_directory]
    exact drawn.vacant wellFormed

theorem cleanup_cases : a.extracted = none ∧ (a.cleanup w).2.files = w.files ∨
    ∃ before, a.extracted = some before ∧ (a.cleanup w).2.files = w.files.removeTree before := by
  unfold Analyzer.cleanup
  cases a.extracted with
  | none => exact .inl ⟨rfl,rfl⟩
  | some before => exact .inr ⟨before,rfl,rfl⟩

theorem cleanup_thinned : Thinned w.files (a.cleanup w).2.files := by
  rcases cleanup_cases a w with ⟨_,same⟩ | ⟨before,_,same⟩
  · exact same ▸ thinned_refl _
  · exact same ▸ thinned_removeTree _ before

theorem newDirectory_fresh (wellFormed : w.files.WellFormed) (ok : a.newDirectory w = .ok (directory,a',w')) :
    Fresh w directory w'.files := by
  obtain ⟨n,files,drawn,rfl,_,rfl⟩ := newDirectory_drawn w a a' w' directory ok
  exact (drawn.fresh wellFormed).thinned (cleanup_thinned a { w with files, drawnDirectories := n })

theorem extract_success (archive : Path) (ok : a.extract archive w = (.ok directory,a',w')) :
    ∃ a₁ w₁ content, a.newDirectory w = .ok (directory,a₁,w₁) ∧ w₁.files.read archive = .ok content ∧
      Archive.extract w₁.files directory content.data = .ok w'.files := by
  unfold Analyzer.extract at ok
  cases drawn : a.newDirectory w with
  | error fault => rw [drawn] at ok; cases ok
  | ok found =>
    obtain ⟨path,a₁,w₁⟩ := found
    rw [drawn] at ok
    dsimp only at ok
    cases read : w₁.files.read archive with
    | error fault => rw [read] at ok; cases ok
    | ok content =>
      rw [read] at ok
      dsimp only at ok
      split at ok
      next extracted => cases ok; exact ⟨_,_,content,rfl,read,extracted⟩
      next => cases ok

end Directory

/-- What an extraction makes of the members of an archive. -/
structure Faithful (w : Workspace) (directory : Path) (members : List Member) (t : FileTree) : Prop where
  written : ∃ start, Fresh w directory start ∧ (members.filter fun m => staysInside w.files directory m.name).foldlM
    (fun t m => writeMember t directory m) start = .ok t
  confined : ∀ place, t.contentAt? place ≠ none → w.files.contentAt? place = none →
    isBelow (destination w.files.current directory) place = true
  complete : ∀ m ∈ members, staysInside w.files directory m.name = true → m.isDirectory = false →
    ∃ last data, lastAt w.files directory members (nameParts m.name) = some last ∧ last.isDirectory = false ∧
      last.data = .ok data ∧
      t.contentAt? (destination w.files.current directory ++ nameParts m.name) = some (.bytes data)
  folders : ∀ m ∈ members, staysInside w.files directory m.name = true → m.isDirectory = true →
    t.find? (destination w.files.current directory ++ nameParts m.name) = some .directory
  nothingElse : ∀ names, t.contentAt? (destination w.files.current directory ++ names) ≠ none →
    ∃ m ∈ members, staysInside w.files directory m.name = true ∧ m.isDirectory = false ∧ nameParts m.name = names

theorem faithful_of_extracted {w : Workspace} {directory : Path} {members : List Member} {start t : FileTree}
    (fresh : Fresh w directory start) (ran : Archive.extractMembers start directory members = .ok t) :
    Faithful w directory members t := by
  have free := fresh.empty _ (List.prefix_refl _)
  rw [← fresh.current] at free
  have extracted := Archive.extractMembers_extracted fresh.proper free ran
  have inside (name : String) : staysInside start directory name = staysInside w.files directory name :=
    Archive.staysInside_current w.files directory start fresh.current name
  have last (names : List String) : lastAt start directory members names = lastAt w.files directory members names := by
    unfold lastAt
    simp only [inside]
  obtain ⟨_,outside,untouched,file,folder,uniform⟩ := extracted
  simp only [fresh.current,last,inside] at outside untouched file folder uniform
  have stays (names : List String)
      (standing : t.contentAt? (destination w.files.current directory ++ names) ≠ none) :
      ∃ m, lastAt w.files directory members names = some m ∧ m.isDirectory = false := by
    cases found : lastAt w.files directory members names with
    | none =>
      rw [untouched names found,fresh.empty _ (List.prefix_append _ _)] at standing
      exact absurd rfl standing
    | some m =>
      cases kind : m.isDirectory with
      | false => exact ⟨m,rfl,kind⟩
      | true =>
        unfold contentAt? at standing
        rw [folder names m found kind] at standing
        exact absurd rfl standing
  constructor
  case written =>
    refine ⟨start,fresh,?_⟩
    rw [← Archive.extractMembers_written fresh.proper start fresh.current]
    exact ran
  case confined =>
    intro place standing missing
    by_cases below : destination w.files.current directory <+: place
    · obtain ⟨names,rfl⟩ := below
      obtain ⟨m,found,isFile⟩ := stays names standing
      exact isBelow_append _ _ (file names m found isFile).1
    · rw [outside place below] at standing
      obtain ⟨content,stands⟩ := Option.ne_none_iff_exists'.mp standing
      cases missing.symm.trans (fresh.files place content stands)
  case complete =>
    intro m member within isFile
    obtain ⟨found,same⟩ := Archive.lastAt_of_member w.files directory members m member within
    have kind := uniform m member within found same
    obtain ⟨_,data,given,standing⟩ := file _ found same (kind.symm.trans isFile)
    exact ⟨found,data,same,kind.symm.trans isFile,given,standing⟩
  case folders =>
    intro m member within isDirectory
    obtain ⟨found,same⟩ := Archive.lastAt_of_member w.files directory members m member within
    exact folder _ found same ((uniform m member within found same).symm.trans isDirectory)
  case nothingElse =>
    intro names standing
    obtain ⟨m,found,isFile⟩ := stays names standing
    have named := List.find?_some found
    rw [Bool.and_eq_true,beq_iff_eq] at named
    exact ⟨m,List.mem_reverse.mp (List.mem_of_find?_eq_some found),named.1,isFile,named.2⟩

/-- The first directory that is drawn is the new one, if it is free. -/
theorem newDirectory_first (w : Workspace) (directory : Path) (made : FileTree)
    (path : w.temporary.child (directoryName (w.drawnDirectories + 1)) = directory)
    (making : w.files.makeDirectory directory = .ok made) : (Analyzer.new none).newDirectory w =
      .ok (directory,⟨none,some directory,none,true,1⟩,
        { w with files := made, drawnDirectories := w.drawnDirectories + 1 }) := by
  subst path
  rw [newDirectory_eq]
  show drawDirectory w.temporary maxAttempts w.files w.drawnDirectories >>= _ = _
  rw [show drawDirectory w.temporary maxAttempts w.files w.drawnDirectories = _ from
    drawDirectory_first _ 9999 _ _ _ making]
  rfl

/-- An archive is unpacked in the first directory that is drawn, if that is free. -/
theorem extract_first (w : Workspace) (archive directory : Path) (made t : FileTree) (content : Content)
    (path : w.temporary.child (directoryName (w.drawnDirectories + 1)) = directory)
    (making : w.files.makeDirectory directory = .ok made) (read : made.read archive = .ok content)
    (extracted : Archive.extract made directory content.data = .ok t) : (Analyzer.new none).extract archive w =
      (.ok directory,⟨none,some directory,none,true,1⟩,
        { w with files := t, drawnDirectories := w.drawnDirectories + 1 }) := by
  unfold Analyzer.extract
  rw [newDirectory_first w directory made path making]
  dsimp only
  rw [read]
  dsimp only
  rw [extracted]

theorem archive_wellFormed (name : String) (content : Content) (fits : Fits name) :
    FileTree.WellFormed ⟨[(["tmp"],.directory),([name],.file content)],[]⟩ := by
  refine wellFormed_of_entries _ ?_
  simp only [List.forall_mem_cons,List.not_mem_nil,false_implies,implies_true,and_true]
  refine ⟨⟨rfl,fun last same => ?_⟩,rfl,fun last same => ?_⟩
  · cases same
    decide
  · cases same
    exact fits

section Bundle

/-- An archive with a member that leads out of it, and with two members for one file. -/
def bundle : ByteArray := Archive.pack [("../evil.txt",⟨#[101]⟩),("src/a.txt",⟨#[49]⟩),("src/./a.txt",⟨#[50]⟩)]

def bundleMembers : List Member :=
  [⟨"../evil.txt",.ok ⟨#[101]⟩⟩,⟨"src/a.txt",.ok ⟨#[49]⟩⟩,⟨"src/./a.txt",.ok ⟨#[50]⟩⟩]

theorem bundle_unpacked : unpack bundle = .ok bundleMembers :=
  Archive.unpack_pack _ (by decide) (by decide) (by decide)

def bundleTree : FileTree := ⟨[(["tmp"],.directory),(["b.zip"],.file (.bytes bundle))],[]⟩

def bundleWorkspace : Workspace := .start bundleTree [] ⟨1,["tmp"]⟩ 0.0

def bundlePath : Path := ⟨1,["tmp","l2wp-00000001"]⟩

/-- The tree with the directory of the bundle and what is in it. -/
def unbundled (inside : List (Place × Entry)) : FileTree :=
  ⟨bundleTree.entries ++ (["tmp","l2wp-00000001"],.directory) :: inside,[]⟩

def bundleSource (data : ByteArray) : FileTree :=
  unbundled [(["tmp","l2wp-00000001","src"],.directory),(["tmp","l2wp-00000001","src","a.txt"],.file (.bytes data))]

def bundleFile : Path := ⟨1,["tmp","l2wp-00000001","src","a.txt"]⟩

theorem bundle_extracted : Archive.extractMembers (unbundled []) bundlePath bundleMembers =
    .ok (bundleSource ⟨#[50]⟩) := by
  have write (data : ByteArray) (t : FileTree) (other : ByteArray) (is : t = bundleSource other) :
      t.write bundleFile (.bytes data) = .ok (bundleSource data) := by
    subst is
    simp only [FileTree.write,locate_chars]
    rfl
  have leads (m : Member) (named : nameParts m.name = ["src","a.txt"]) : Archive.targetOf bundlePath m = bundleFile := by
    unfold Archive.targetOf
    rw [named]
    rfl
  have first : writeMember (unbundled []) bundlePath ⟨"src/a.txt",.ok ⟨#[49]⟩⟩ = .ok (bundleSource ⟨#[49]⟩) := by
    refine Archive.writeMember_run _ _ _ _ bundleFile ⟨#[49]⟩ (unbundled [(["tmp","l2wp-00000001","src"],.directory)])
      (bundleSource ByteArray.empty) (by decide +kernel) rfl (by decide +kernel) (leads _ (by decide +kernel)) ?_ ?_
      (write _ _ _ rfl)
    · have missing : Archive.taken (unbundled []) bundleFile.parent = false := by
        simp only [Archive.taken,exists?,look,locate_chars]
        rfl
      rw [missing,if_neg Bool.false_ne_true]
      show Archive.makeMissing 3 _ _ = _
      simp only [Archive.makeMissing,Archive.taken,exists?,look,makeDirectory,locate_chars]
      rfl
    · simp only [FileTree.write,locate_chars]
      rfl
  have second : writeMember (bundleSource ⟨#[49]⟩) bundlePath ⟨"src/./a.txt",.ok ⟨#[50]⟩⟩ =
      .ok (bundleSource ⟨#[50]⟩) := by
    refine Archive.writeMember_run _ _ _ _ bundleFile ⟨#[50]⟩ (bundleSource ⟨#[49]⟩) (bundleSource ByteArray.empty)
      (by decide +kernel) rfl (by decide +kernel) (leads _ (by decide +kernel)) ?_ (write _ _ _ rfl) (write _ _ _ rfl)
    have there : Archive.taken (bundleSource ⟨#[49]⟩) bundleFile.parent = true := by
      simp only [Archive.taken,exists?,look,locate_chars]
      rfl
    rw [there,if_pos rfl]
  have stays : staysInside (unbundled []) bundlePath "../evil.txt" = false ∧
      staysInside (unbundled []) bundlePath "src/a.txt" = true ∧
      staysInside (bundleSource ⟨#[49]⟩) bundlePath "src/./a.txt" = true := by decide +kernel
  unfold Archive.extractMembers bundleMembers
  rw [List.foldlM_cons,stays.1]
  show List.foldlM _ (unbundled []) _ = _
  rw [List.foldlM_cons,if_pos stays.2.1,first]
  show List.foldlM _ (bundleSource ⟨#[49]⟩) _ = _
  rw [List.foldlM_cons,if_pos stays.2.2,second]
  rfl

theorem bundle_opened : (Analyzer.new none).extract ⟨1,["b.zip"]⟩ bundleWorkspace = (.ok bundlePath,
    ⟨none,some bundlePath,none,true,1⟩,{ bundleWorkspace with files := bundleSource ⟨#[50]⟩, drawnDirectories := 1 }) := by
  have made : bundleTree.makeDirectory bundlePath = .ok (unbundled []) := by
    simp only [makeDirectory,locate_chars]
    rfl
  have read : (unbundled []).read ⟨1,["b.zip"]⟩ = .ok (.bytes bundle) := by
    simp only [FileTree.read,locate_chars]
    rfl
  have extracted : Archive.extract (unbundled []) bundlePath (Content.bytes bundle).data =
      .ok (bundleSource ⟨#[50]⟩) := by
    show unpack bundle >>= _ = _
    rw [bundle_unpacked]
    exact bundle_extracted
  exact extract_first bundleWorkspace _ _ _ _ _ (by decide) made read extracted

end Bundle

end Project

end Pagewright
