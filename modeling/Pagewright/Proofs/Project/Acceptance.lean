import Pagewright.Archive.Validate
import Pagewright.Proofs.Decimal.Numerals
import Pagewright.Proofs.Files.Survival
import Pagewright.Proofs.Project.Confinement
import Pagewright.Proofs.Project.Root

/-! Which of the archives that are accepted hold a project. The names of the members tell what stands at the top of
the directory that an archive is unpacked in, and in the only directory there, and so whether the analysis finds the
root of a project. -/
namespace Pagewright
open FileTree

namespace Archive

section Rules

variable (rules : Rules) (files : FileTree) (path : Path) (filename : String)

/-- An archive that meets the rules is reported on. -/
theorem Rules.validate_done (content : Content) (names warnings : List String) (present : files.isFile path = .ok true)
    (read : files.read path = .ok content) (small : rules.checkSize content.data.size = .ok ())
    (named : openNames content.data (if filename.isEmpty then path.name else filename) = .ok names)
    (checked : rules.checkNames names = .ok warnings) :
    rules.validate files path filename = .ok ⟨path,content.data.size,names.length,warnings⟩ := by
  unfold validate
  rw [present,read]
  show (do
    rules.checkSize content.data.size
    let names ← openNames content.data (if filename.isEmpty then path.name else filename)
    let warnings ← rules.checkNames names
    return ⟨path,content.data.size,names.length,warnings⟩ : Except Failure Report) = _
  rw [small,named]
  show rules.checkNames names >>= _ = _
  rw [checked]
  rfl

theorem Rules.validate_success (report : Report) (ok : rules.validate files path filename = .ok report) :
    files.isFile path = .ok true ∧ ∃ content, files.read path = .ok content := by
  unfold validate at ok
  obtain ⟨present,looked,ok⟩ := except_bind_success _ _ _ ok
  have looked := lift_success _ _ looked
  cases present with
  | false => cases ok
  | true =>
    obtain ⟨content,read,_⟩ := except_bind_success _ _ _ ok
    exact ⟨looked,content,lift_success _ _ read⟩

end Rules

section Names

variable (files : FileTree) (directory : Path) (members : List Member)

/-- A member is written as a file under these names. -/
def HasFile (names : List String) : Prop :=
  ∃ m ∈ members, staysInside files directory m.name = true ∧ m.isDirectory = false ∧ nameParts m.name = names

/-- A member is written as a directory of these names, or below one. -/
def HasDirectory (names : List String) : Prop :=
  ∃ m ∈ members, staysInside files directory m.name = true ∧
    (m.isDirectory = true ∧ nameParts m.name = names ∨ ∃ name rest, nameParts m.name = names ++ name :: rest)

/-- Names under which the members make up something that looks like a project. -/
def IsRoot (names : List String) : Prop :=
  HasFile files directory members (names ++ ["package.json"]) ∨ HasDirectory files directory members (names ++ ["src"]) ∨
    HasFile files directory members (names ++ ["index.html"])

/-- The members make up a project at the top, or in the only directory at the top. -/
def Rooted : Prop :=
  IsRoot files directory members [] ∨
    ∃ name, (∀ other, HasDirectory files directory members [other] ↔ other = name) ∧
      IsRoot files directory members [name]

end Names

/-- Every directory below the one of the archive comes from a member. -/
theorem directories_of_members (files t : FileTree) (directory : Path) (members : List Member)
    (leads : files.LeadsToDirectory directory)
    (empty : ∀ place, isBelow (destination files.current directory) place = true → files.find? place = none)
    (ok : extractMembers files directory members = .ok t) (names : List String) (proper : names ≠ [])
    (standing : t.find? (destination files.current directory ++ names) = some .directory) :
    HasDirectory files directory members names := by
  induction members using List.reverseRecOn generalizing t with
  | nil =>
    cases ok
    rw [empty _ (isBelow_append _ _ proper)] at standing
    cases standing
  | append_singleton members m ih =>
    have later (has : HasDirectory files directory members names) : HasDirectory files directory (members ++ [m]) names := by
      obtain ⟨other,member,rest⟩ := has
      exact ⟨other,List.mem_append_left _ member,rest⟩
    obtain ⟨before,earlier,last⟩ := extractMembers_snoc files t directory members m ok
    have unpacked := unpacked_members files before directory members leads empty earlier
    have current := unpacked.inside.current
    rcases last current with ⟨stays,written⟩ | ⟨_,rfl⟩
    · obtain ⟨middle,above,_,placed⟩ := writeMember_success before t directory unpacked.leads m written
      have target : destination middle.current (targetOf directory m) =
          destination files.current directory ++ nameParts m.name := by
        rw [above.current,current]
        exact destination_below _ directory _ (noDots_nameParts m.name)
      have left := placed.left
      rw [target] at left
      rw [current] at above
      -- A directory is the member itself, or it was there before, or the way to the member has made it.
      by_cases same : names = nameParts m.name
      · subst same
        refine ⟨m,by simp,stays,.inl ⟨?_,rfl⟩⟩
        cases left with
        | directory isDirectory => exact isDirectory
        | made isDirectory => exact isDirectory
        | file data isFile given noDirectory =>
          rw [find?_put_self _ _ (by simp [proper])] at standing
          cases standing
      · rw [left_find? middle t m _ _ left fun places => same (List.append_cancel_left places)] at standing
        rcases above.directories _ standing with old | ⟨start,_,⟨rest,whole⟩,places⟩
        · exact later (ih before earlier old)
        · obtain rfl := List.append_cancel_left places
          cases rest with
          | nil => exact absurd ((List.append_nil names).symm.trans whole) same
          | cons name rest => exact ⟨m,by simp,stays,.inr ⟨name,rest,whole.symm⟩⟩
    · exact later (ih _ earlier standing)

end Archive

namespace Project

section Members
open Archive (HasFile HasDirectory IsRoot Rooted Unpacked)

variable (w : Workspace) (t : FileTree) (directory : Path) (members : List Archive.Member)
  (current : t.current = w.files.current) (faithful : Faithful w directory members t)
include current faithful

theorem hasFile_iff (names : List String) :
    (∃ content, t.find? (destination t.current directory ++ names) = some (.file content)) ↔
      HasFile w.files directory members names := by
  rw [current]
  constructor
  · rintro ⟨content,standing⟩
    obtain ⟨m,member,stays,isFile,same⟩ := faithful.nothingElse names
      (by rw [(contentAt?_eq_some _ _ _).mpr standing]; nofun)
    exact ⟨m,member,stays,isFile,same⟩
  · rintro ⟨m,member,stays,isFile,rfl⟩
    obtain ⟨_,data,_,_,_,standing⟩ := faithful.complete m member stays isFile
    exact ⟨_,(contentAt?_eq_some _ _ _).mp standing⟩

variable (wellFormed : t.WellFormed)
  (directories : ∀ names, names ≠ [] → t.find? (destination w.files.current directory ++ names) = some .directory →
    HasDirectory w.files directory members names)
include wellFormed directories

theorem hasDirectory_iff (names : List String) (proper : names ≠ []) :
    t.find? (destination t.current directory ++ names) = some .directory ↔
      HasDirectory w.files directory members names := by
  rw [current]
  refine ⟨directories names proper,?_⟩
  rintro ⟨m,member,stays,⟨isDirectory,rfl⟩ | ⟨name,rest,longer⟩⟩
  · exact faithful.folders m member stays isDirectory
  · have below : ∃ entry, t.find? (destination w.files.current directory ++ Archive.nameParts m.name) =
        some entry := by
      cases isDirectory : m.isDirectory with
      | true => exact ⟨_,faithful.folders m member stays isDirectory⟩
      | false =>
        obtain ⟨_,data,_,_,_,standing⟩ := faithful.complete m member stays isDirectory
        exact ⟨_,(contentAt?_eq_some _ _ _).mp standing⟩
    obtain ⟨entry,standing⟩ := below
    rw [longer,← List.append_assoc] at standing
    exact (stands_in t wellFormed _ name rest entry standing).1

theorem looksRoot_iff (names : List String) : t.looksRoot (destination t.current directory ++ names) = true ↔
    IsRoot w.files directory members names := by
  have file := hasFile_iff w t directory members current faithful
  have folder := hasDirectory_iff w t directory members current faithful wellFormed directories
  unfold looksRoot IsRoot
  rw [Bool.or_eq_true,Bool.or_eq_true,t.any_isFile,t.any_isFile,t.any_isDirectory,List.append_assoc,List.append_assoc,
    List.append_assoc,file,file,folder _ (by simp),or_assoc]

/-- Whether the root of a project stands is told by the names of the members. -/
theorem rootStands_iff : RootStands t directory ↔ Rooted w.files directory members := by
  have looks := looksRoot_iff w t directory members current faithful wellFormed directories
  have folder (other : String) := hasDirectory_iff w t directory members current faithful wellFormed directories [other]
    (by simp)
  have top := looks []
  rw [List.append_nil] at top
  unfold RootStands Rooted
  rw [top]
  simp only [folder,looks]

end Members

section Owning

variable (a a' : Analyzer) (w w' : Workspace)

/-- The directory of the archive before, if there is one, was drawn earlier at the same place. -/
def Analyzer.Owning (a : Analyzer) (w : Workspace) : Prop := ∀ before, a.extracted = some before →
  ".." ∉ (a.temporaryRoot.getD w.temporary).parts ∧
    ∃ m ≤ w.drawnDirectories, before = (a.temporaryRoot.getD w.temporary).child (directoryName m)

theorem owning_new (root : Option Path) : (Analyzer.new root).Owning w := nofun

theorem directoryName_inj (n m : Nat) (same : directoryName n = directoryName m) : n = m := by
  have chars := congrArg String.toList same
  rw [directoryName_chars,directoryName_chars,List.append_cancel_left_eq] at chars
  rw [← Decimal.ofDigitChars_padZeros n 8,← Decimal.ofDigitChars_padZeros m 8,chars]

/-- What stands before the members are written: the new directory, with nothing in it. -/
structure Opened (w : Workspace) (directory : Path) (start : FileTree) : Prop extends Fresh w directory start where
  wellFormed : start.WellFormed
  leads : start.LeadsToDirectory directory
  nothing : ∀ place, isBelow (destination start.current directory) place = true → start.find? place = none

/-- The way to a new directory does not pass one that was drawn before. -/
theorem directory_apart (current : Place) (base : Path) (straight : ".." ∉ base.parts) (n m : Nat) (different : n ≠ m)
    (other : Place) (onPath : OnPath current (base.child (directoryName n)) other) :
    ¬ destination current (base.child (directoryName m)) <+: other := by
  rintro ⟨more,whole⟩
  obtain ⟨start,passed,rfl⟩ := onPath
  have plain : ".." ∉ (base.child (directoryName n)).parts := by
    simp only [Path.child,List.mem_append,List.mem_singleton,not_or]
    exact ⟨straight,(proper_directoryName n).1.noDots.symm⟩
  rw [destination_directory,destination_straight _ _ straight,
    destination_straight _ ⟨(base.child (directoryName n)).slashes,start⟩ fun dots => plain (passed.subset dots)] at whole
  have start_eq : base.parts ++ ([directoryName m] ++ more) = start := by
    refine List.append_cancel_left (Eq.trans ?_ whole)
    simp [Path.isAbsolute,Path.child]
  have last : [directoryName m] ++ more <+: [directoryName n] := by
    refine (List.prefix_append_right_inj base.parts).mp ?_
    rw [start_eq]
    exact passed
  exact different (directoryName_inj _ _ (List.cons_prefix_cons.mp last).1.symm)

theorem newDirectory_opened (directory : Path) (wellFormed : w.files.WellFormed) (owning : a.Owning w)
    (ok : a.newDirectory w = .ok (directory,a',w')) : Opened w directory w'.files := by
  have fresh := newDirectory_fresh a a' w w' directory wellFormed ok
  obtain ⟨n,files,drawn,rfl,_,rfl⟩ := newDirectory_drawn w a a' w' directory ok
  have thinned : Thinned files (a.cleanup { w with files, drawnDirectories := n }).2.files :=
    cleanup_thinned a { w with files, drawnDirectories := n }
  have left := cleanup_cases a { w with files, drawnDirectories := n }
  have before := drawn.wellFormed wellFormed
  generalize (a.cleanup { w with files, drawnDirectories := n }).2.files = start at *
  refine ⟨fresh,?_,?_,fun place below => ?_⟩
  · rcases left with ⟨_,rfl⟩ | ⟨path,_,rfl⟩
    · exact before
    · exact (removeTree_changes files path).wellFormed before
  · rcases left with ⟨_,rfl⟩ | ⟨path,last,rfl⟩
    · exact drawn.leads
    · -- What is removed must not take the way to the new directory with it.
      obtain ⟨straight,m,early,rfl⟩ := owning path last
      refine leads_spared _ _ (removeTree_spares _ _) _ ?_ drawn.leads
      exact directory_apart _ _ straight n m (by have := drawn.new; omega)
  · refine Option.eq_none_iff_forall_ne_some.mpr fun entry standing => ?_
    rw [fresh.current,destination_directory] at below
    cases (drawn.empty wellFormed place below).symm.trans (thinned.stands _ _ standing)

/-- After an extraction the analyzer still has no directory but one that was drawn. -/
theorem extract_owning (archive : Path) (straight : ".." ∉ (a.temporaryRoot.getD w.temporary).parts)
    (owning : a.Owning w) : (a.extract archive w).2.1.Owning (a.extract archive w).2.2 := by
  unfold Analyzer.extract
  cases new : a.newDirectory w with
  | error fault => exact owning
  | ok found =>
    obtain ⟨directory,a₁,w₁⟩ := found
    obtain ⟨n,files,_,rfl,_,rfl⟩ := newDirectory_drawn w a a₁ w₁ directory new
    obtain ⟨root,extracted⟩ := newDirectory_analyzer w a a₁ _ _ new
    dsimp only
    split
    · intro before last
      cases extracted.symm.trans last
      rw [root]
      exact ⟨straight,n,le_rfl,rfl⟩
    · intro before last
      rw [cleanup_extracted] at last
      cases last

theorem analyze_owning (archive : Path) (straight : ".." ∉ (a.temporaryRoot.getD w.temporary).parts)
    (owning : a.Owning w) : (a.analyze archive w).2.1.Owning (a.analyze archive w).2.2 := by
  have extracted := extract_owning a w archive straight owning
  unfold Analyzer.analyze
  split
  · exact owning
  · exact owning
  · generalize a.extract archive w = ran at extracted ⊢
    obtain ⟨outcome,a₁,w₁⟩ := ran
    cases outcome with
    | error failure => exact extracted
    | ok directory =>
      dsimp only
      cases locateRoot w₁.files directory with
      | error failure => exact extracted
      | ok root => exact extracted

end Owning

section Judging
open Archive (HasFile HasDirectory Rooted)

variable (a a' : Analyzer) (archive directory : Path) (w w' : Workspace)

/-- What is unpacked has a root or is rejected, as the names of the members tell. -/
theorem extract_course (wellFormed : w.files.WellFormed) (owning : a.Owning w)
    (ok : a.extract archive w = (.ok directory,a',w')) :
    ∃ content members, w.files.contentAt? (destination w.files.current archive) = some content ∧
      Archive.unpack content.data = .ok members ∧
      (Rooted w.files directory members ∧ (∃ path, locateRoot w'.files directory = .ok path) ∨
        ¬ Rooted w.files directory members ∧ locateRoot w'.files directory = .error noProject) := by
  obtain ⟨a₁,w₁,content,new,read,extracted⟩ := extract_success a a' w w' directory archive ok
  have opened := newDirectory_opened a a₁ w w₁ directory wellFormed owning new
  obtain ⟨members,given,ran⟩ := except_bind_success _ _ _ extracted
  have unpacked := Archive.unpacked_members _ _ _ _ opened.leads opened.nothing ran
  have after := unpacked.inside.wellFormed opened.wellFormed
  have current := unpacked.inside.current
  have directories := Archive.directories_of_members _ w'.files _ members opened.leads opened.nothing ran
  simp only [HasDirectory,Archive.staysInside_current w.files _ _ opened.current,opened.current] at directories
  have stands := rootStands_iff w w'.files _ members (current.trans opened.current)
    (faithful_of_extracted opened.toFresh ran) after directories
  have once := unpacked.once
  rw [← current] at once
  refine ⟨content,members,?_,given,?_⟩
  · rw [← opened.current]
    exact opened.files _ _ ((contentAt?_eq_some _ _ _).mpr (read_stands _ _ _ read))
  · rw [← stands]
    refine locateRoot_course w'.files _ unpacked.leads once fun name standing => ?_
    have plain := unpacked.names [name] .directory (current ▸ standing) name (by simp)
    have located := locate_standing w'.files after _ unpacked.leads [name]
      (fun other member => List.mem_singleton.mp member ▸ ⟨plain.1.noDots,plain.2⟩) .directory standing
    have place : destination w'.files.current (directory.child name) =
        destination w'.files.current directory ++ [name] :=
      Archive.destination_below _ _ [name] fun member => plain.1.noDots (List.mem_singleton.mp member).symm
    exact ⟨⟨place ▸ located,place ▸ standing⟩,place⟩

theorem analyze_extracted (present : w.files.isFile archive = .ok true)
    (ok : a.extract archive w = (.ok directory,a',w')) :
    (a.analyze archive w).1 = locateRoot w'.files directory >>= analyzeDirectory w'.files := by
  unfold Analyzer.analyze
  rw [present]
  dsimp only
  rw [ok]
  dsimp only
  cases locateRoot w'.files directory <;> rfl

section Nested
open Archive (Member nameParts)

/-- A member that holds all that an archive has to hold, two directories down. -/
def nestedMember : Member := ⟨"a/b/src/public/package.json",.ok ByteArray.empty⟩

def nested : ByteArray := Archive.pack [(nestedMember.name,ByteArray.empty)]

theorem nested_unpacked : Archive.isArchive nested = true ∧ nested.size = 152 ∧
    Archive.unpack nested = .ok [nestedMember] :=
  ⟨by decide +kernel,by decide +kernel,Archive.unpack_pack _ (by decide) (by decide) (by decide)⟩

def nestedTree : FileTree := ⟨[(["tmp"],.directory),(["n.zip"],.file (.bytes nested))],[]⟩

def nestedWorkspace : Workspace := .start nestedTree [] ⟨1,["tmp"]⟩ 0.0

theorem nested_valid : ∃ report, Archive.Rules.standard.validate nestedTree ⟨1,["n.zip"]⟩ "" = .ok report := by
  obtain ⟨archive,size,unpacked⟩ := nested_unpacked
  have file : nestedTree.isFile ⟨1,["n.zip"]⟩ = .ok true := by
    simp only [isFile,look,locate_chars]
    rfl
  have read : nestedTree.read ⟨1,["n.zip"]⟩ = .ok (.bytes nested) := by
    simp only [FileTree.read,locate_chars]
    rfl
  have small : Archive.Rules.standard.checkSize (Content.bytes nested).data.size = .ok () := by
    rw [show (Content.bytes nested).data.size = 152 from size]
    rfl
  have named : Archive.openNames nested "n.zip" = .ok [nestedMember.name] := by
    unfold Archive.openNames
    rw [archive,unpacked]
    rfl
  exact ⟨_,Archive.Rules.validate_done _ _ _ "" _ _ _ file read small named rfl⟩

def nestedPath : Path := ⟨1,["tmp","l2wp-00000001"]⟩

def nestedFile : Path := ⟨1,["tmp","l2wp-00000001","a","b","src","public","package.json"]⟩

/-- The tree with the directory of the archive and what is in it. -/
def unnested (inside : List (Place × Entry)) : FileTree :=
  ⟨nestedTree.entries ++ (["tmp","l2wp-00000001"],.directory) :: inside,[]⟩

def nestedFolders : List (Place × Entry) :=
  [(["tmp","l2wp-00000001","a"],.directory),(["tmp","l2wp-00000001","a","b"],.directory),
    (["tmp","l2wp-00000001","a","b","src"],.directory),(["tmp","l2wp-00000001","a","b","src","public"],.directory)]

def nestedOpened : FileTree := unnested (nestedFolders ++ [(nestedFile.parts,.file (.bytes ByteArray.empty))])

theorem nested_extracted : (Analyzer.new none).extract ⟨1,["n.zip"]⟩ nestedWorkspace = (.ok nestedPath,
    ⟨none,some nestedPath,none,true,1⟩,{ nestedWorkspace with files := nestedOpened, drawnDirectories := 1 }) := by
  have made : nestedTree.makeDirectory nestedPath = .ok (unnested []) := by
    simp only [makeDirectory,locate_chars]
    rfl
  have read : (unnested []).read ⟨1,["n.zip"]⟩ = .ok (.bytes nested) := by
    simp only [FileTree.read,locate_chars]
    rfl
  have above : Archive.makeMissing 6 (unnested []) nestedFile.parent = .ok (unnested nestedFolders) := by
    simp only [Archive.makeMissing,Archive.taken,exists?,look,makeDirectory,locate_chars]
    rfl
  have missing : Archive.taken (unnested []) nestedFile.parent = false := by
    simp only [Archive.taken,exists?,look,locate_chars]
    rfl
  have leads : Archive.targetOf nestedPath nestedMember = nestedFile := by
    unfold Archive.targetOf
    rw [show nameParts nestedMember.name = ["a","b","src","public","package.json"] by decide +kernel]
    rfl
  have first : (unnested nestedFolders).write nestedFile (.bytes ByteArray.empty) = .ok nestedOpened := by
    simp only [FileTree.write,locate_chars]
    rfl
  have second : nestedOpened.write nestedFile (.bytes ByteArray.empty) = .ok nestedOpened := by
    simp only [FileTree.write,locate_chars]
    rfl
  have written : Archive.writeMember (unnested []) nestedPath nestedMember = .ok nestedOpened :=
    Archive.writeMember_run _ _ _ _ nestedFile ByteArray.empty (unnested nestedFolders) nestedOpened
      (by decide +kernel) rfl (by decide +kernel) leads
      (by rw [missing,if_neg Bool.false_ne_true]; exact above) first second
  have stays : Archive.staysInside (unnested []) nestedPath nestedMember.name = true := by decide +kernel
  have extracted : Archive.extract (unnested []) nestedPath (Content.bytes nested).data = .ok nestedOpened := by
    show Archive.unpack nested >>= _ = _
    rw [nested_unpacked.2.2]
    show Archive.extractMembers (unnested []) nestedPath [nestedMember] = _
    unfold Archive.extractMembers
    rw [List.foldlM_cons,if_pos stays,written]
    rfl
  exact extract_first nestedWorkspace _ _ _ _ _ (by decide) made read extracted

theorem nested_wellFormed : nestedTree.WellFormed := archive_wellFormed "n.zip" _ (by decide)

/-- The members make up a project neither at the top nor one directory down. -/
theorem nested_unrooted : ¬ Rooted nestedTree nestedPath [nestedMember] := by
  have parts : nameParts nestedMember.name = ["a","b","src","public","package.json"] := by decide +kernel
  have file : nestedMember.isDirectory = false := by decide +kernel
  have noFile (names : List String) (short : names.length < 5) : ¬ HasFile nestedTree nestedPath [nestedMember] names := by
    rintro ⟨m,member,_,_,rfl⟩
    cases List.mem_singleton.mp member
    rw [parts] at short
    exact absurd short (by decide)
  have folder (names : List String) (has : HasDirectory nestedTree nestedPath [nestedMember] names) :
      names <+: ["a","b","src","public","package.json"] := by
    obtain ⟨m,member,_,⟨isDirectory,_⟩ | ⟨name,rest,longer⟩⟩ := has
    · cases List.mem_singleton.mp member
      cases file.symm.trans isDirectory
    · cases List.mem_singleton.mp member
      rw [← parts,longer]
      exact List.prefix_append _ _
  rintro (root | ⟨name,_,root⟩) <;> rcases root with package | source | index
  · exact noFile _ (by decide) package
  · exact absurd (folder _ source) (by decide)
  · exact noFile _ (by decide) index
  · exact noFile _ (by simp) package
  · have second := List.cons_prefix_cons.mp (List.cons_prefix_cons.mp (folder _ source)).2
    exact absurd second.1 (by decide)
  · exact noFile _ (by simp) index

end Nested

end Judging

end Project

end Pagewright
