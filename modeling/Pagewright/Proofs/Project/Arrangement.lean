import Pagewright.Proofs.Archive.Packing
import Pagewright.Proofs.Archive.Rearranged
import Pagewright.Proofs.Host.Directories
import Pagewright.Proofs.Project.Alike
import Pagewright.Proofs.Project.Ownership

/-! The analysis depends on the set of files in an archive alone. The order of its members does not matter, nor does a
directory that is put around all of them, as long as that can stand at all and does not look like a source directory. -/
namespace Pagewright
open FileTree

/-- What kind of failure this is. -/
def Failure.kind : Failure → String
  | .general .. => "general"
  | .archiveNotFound .. => "archive not found"
  | .validation .. => "validation"
  | .extraction .. => "extraction"
  | .malformedInput .. => "malformed input"
  | .notFound .. => "not found"
  | .collaborator .. => "collaborator"
  | .config .. => "config"
  | .fault reason => reason.label

namespace Project
open Archive (Member Item Stands Sound FileAt FolderAt ProjectAt Rearranged PlainMembers Wrapper contents pack
  unpack_pack)

section Rooted

variable (t : FileTree) (directory : Path) (items : List Item)
  (stands : ∀ names entry, t.find? (destination t.current directory ++ names) = some entry ↔ Stands items names entry)
  (storable : ∀ i ∈ items, i.Storable)
include stands storable

theorem looksRoot_projectAt (names : List String) :
    t.looksRoot (destination t.current directory ++ names) = true ↔ ProjectAt items names := by
  have file (names : List String) : (∃ content, t.find? (destination t.current directory ++ names) = some (.file content)) ↔
      FileAt items names := by
    simp only [stands]
    constructor
    · rintro ⟨content,i,member,isFile,same,_⟩
      exact ⟨i,member,isFile,same⟩
    · rintro ⟨i,member,isFile,same⟩
      obtain ⟨data,given⟩ := Option.isSome_iff_exists.mp ((storable i member).readable isFile)
      exact ⟨.bytes data,i,member,isFile,same,congrArg _ given⟩
  unfold looksRoot ProjectAt
  rw [Bool.or_eq_true,Bool.or_eq_true,t.any_isFile,t.any_isFile,t.any_isDirectory,List.append_assoc,List.append_assoc,
    List.append_assoc,file,file,stands,or_assoc]
  rfl

/-- The root is found at the top, or in the directory around everything. -/
theorem locateRoot_rearranged (leads : t.LeadsToDirectory directory)
    (once : Archive.ListedOnce (destination t.current directory) t) (wrapper : Option String) (inner : List Item)
    (perm : (inner.map (Item.below wrapper.toList)).Perm items) (sound : Sound inner) (project : ProjectAt inner [])
    (other : ∀ name ∈ wrapper, name ≠ "src")
    (below : t.LeadsToDirectory ⟨directory.slashes,directory.parts ++ wrapper.toList⟩)
    (place : destination t.current ⟨directory.slashes,directory.parts ++ wrapper.toList⟩ =
      destination t.current directory ++ wrapper.toList) :
    locateRoot t directory = .ok ⟨directory.slashes,directory.parts ++ wrapper.toList⟩ := by
  have looks := looksRoot_projectAt t directory items stands storable
  have root : t.looksRoot (destination t.current directory ++ wrapper.toList) = true := by
    have inside := (Archive.projectAt_below wrapper.toList []).mpr project
    rw [List.append_nil] at inside
    exact (looks _).mpr ((Archive.projectAt_perm perm _).mp inside)
  have found := t.hasProjectFiles_looks _ below
  rw [place,root] at found
  cases wrapper with
  | none =>
    have same : (⟨directory.slashes,directory.parts ++ Option.toList none⟩ : Path) = directory := by simp
    rw [same] at found ⊢
    unfold locateRoot
    rw [found]
    rfl
  | some name =>
    have bare : t.looksRoot (destination t.current directory) = false := by
      rw [← Bool.not_eq_true,← List.append_nil (destination t.current directory),looks,← Archive.projectAt_perm perm]
      exact Archive.projectAt_wrapped sound name (other name rfl)
    have only (other : String) : t.find? (destination t.current directory ++ [other]) = some .directory ↔ other = name := by
      rw [stands]
      show FolderAt items [other] ↔ _
      rw [← Archive.folderAt_perm perm]
      exact Archive.folderAt_wrapped sound name other project.filled
    rw [locateRoot_below t directory leads bare,(t.directoriesAt_single _ once _).mpr ⟨name,rfl,only⟩]
    simp only [List.map_cons,List.map_nil,List.getLast?_concat,Option.getD_some]
    have found : hasProjectFiles t (directory.child name) = .ok true := found
    rw [found]
    rfl

end Rooted

section Running

variable (a a' : Analyzer) (w w' : Workspace) (archive directory : Path) (content : Content)

/-- The way to an archive does not lead through the directory of the archive before. -/
def Analyzer.Leaves (a : Analyzer) (w : Workspace) (archive : Path) : Prop :=
  ∀ before, a.extracted = some before → ∀ place, OnPath w.files.current archive place →
    ¬ destination w.files.current before <+: place

theorem read_spared {ground : Place → Prop} {t t' : FileTree} (spares : Spares ground t t') (p : Path)
    (off : ∀ other, OnPath t.current p other → ¬ ground other) (read : t.read p = .ok content) :
    t'.read p = .ok content :=
  t'.read_standing p _ content (locate_spared t t' spares p _ off (t.read_located p content read))
    (spares.stands _ _ (off _ (onPath_self _ p)) (t.read_stands p content read))

/-- The archive is still there once the new directory is. -/
theorem newDirectory_read (leaves : a.Leaves w archive) (read : w.files.read archive = .ok content)
    (ok : a.newDirectory w = .ok (directory,a',w')) : w'.files.read archive = .ok content := by
  obtain ⟨n,files,_,making,_,_,rfl⟩ := newDirectory_making w a a' w' directory ok
  obtain ⟨opened,_,spares,made⟩ := making
  have spares := spares.trans (makeDirectory_spares _ _ _ made)
  have still := read_spared content spares archive (fun _ _ never => never) read
  rcases cleanup_cases a { w with files, drawnDirectories := n } with ⟨_,same⟩ | ⟨before,last,same⟩
  · rw [same]
    exact still
  · rw [same]
    refine read_spared content (removeTree_spares _ before) archive (fun place onPath => ?_) still
    show ¬ destination files.current before <+: place
    rw [spares.current] at onPath ⊢
    exact leaves before last place onPath

/-- Without a new directory nothing is unpacked. -/
theorem analyze_stuck (fault : Fault) (read : w.files.read archive = .ok content)
    (stuck : a.newDirectory w = .error fault) : (a.analyze archive w).1 = .error (.fault fault) := by
  unfold Analyzer.analyze Analyzer.extract
  rw [isFile_read w.files archive content read]
  dsimp only
  rw [stuck]

/-- An archive is analyzed in its directory, or it cannot be unpacked. -/
theorem analyze_course (members : List Member) (read : w.files.read archive = .ok content)
    (given : Archive.unpack content.data = .ok members) (new : a.newDirectory w = .ok (directory,a',w'))
    (still : w'.files.read archive = .ok content) :
    (∀ t, Archive.extractMembers w'.files directory members = .ok t →
      (a.analyze archive w).1 = locateRoot t directory >>= analyzeDirectory t) ∧
    ∀ reason, Archive.extractMembers w'.files directory members = .error reason →
      ∃ message, (a.analyze archive w).1 = .error (.extraction message archive.text) := by
  have run : Archive.extract w'.files directory content.data = Archive.extractMembers w'.files directory members := by
    unfold Archive.extract
    rw [given]
    rfl
  refine ⟨fun t ran => ?_,fun reason ran => ?_⟩
  · have extracted : a.extract archive w = (.ok directory,a',{ w' with files := t }) := by
      unfold Analyzer.extract
      rw [new]
      dsimp only
      rw [still]
      dsimp only
      rw [run,ran]
    exact analyze_extracted a a' archive directory w { w' with files := t } (isFile_read w.files archive content read)
      extracted
  · have refused : ∃ message, a.extract archive w =
        (.error (.extraction message archive.text),(a'.cleanup w').1,(a'.cleanup w').2) := by
      unfold Analyzer.extract
      rw [new]
      dsimp only
      rw [still]
      dsimp only
      rw [run,ran]
      exact ⟨_,rfl⟩
    obtain ⟨message,refused⟩ := refused
    refine ⟨message,?_⟩
    unfold Analyzer.analyze
    rw [isFile_read w.files archive content read]
    dsimp only
    rw [refused]

end Running

/-- Analyses with one outcome: the same project but for its paths, or failures of one kind. -/
def SameOutcome : Except Failure Project → Except Failure Project → Prop
  | .ok project,.ok project' => project.unplaced = project'.unplaced
  | .error failure,.error failure' => failure.kind = failure'.kind
  | _,_ => False

theorem kind_reading (failure : Failure) (reading : failure.IsReading) : failure.kind ≠ "extraction" := by
  cases reading with
  | malformed => exact show "malformed input" ≠ "extraction" by decide
  | fault reason =>
    show reason.label ≠ "extraction"
    unfold Fault.label
    split
    case h_12 fault _ => cases fault <;> decide
    all_goals decide

theorem sameOutcome_of_map (r r' : Except Failure Project) (same : r.map Project.unplaced = r'.map Project.unplaced) :
    SameOutcome r r' := by
  match r,r' with
  | .ok project,.ok project' => exact Except.ok.inj same
  | .error failure,.error failure' => exact congrArg Failure.kind (Except.error.inj same)
  | .ok _,.error _ => cases same
  | .error _,.ok _ => cases same

section Opening

variable (w : Workspace) (directory : Path) (start : FileTree) (opened : Opened w directory start)
include opened

/-- Plain members are unpacked exactly if each of them can be stored. -/
theorem unpacked_iff (members : List Member) (plain : ∀ m ∈ members, Archive.IsPlain m.name)
    (sound : Sound (members.map Member.item)) (clean : ∀ m ∈ members, Char.ofNat 0 ∉ m.name.toList) :
    (∃ t, Archive.extractMembers start directory members = .ok t) ↔ ∀ m ∈ members, m.item.Storable := by
  constructor
  · rintro ⟨t,ran⟩
    exact extracted_storable w directory start t members opened ran (fun m member => (plain m member).staysInside _ _)
      sound
  · refine Archive.extractMembers_total start directory opened.leads opened.nothing opened.wellFormed members
      (fun m member => (plain m member).staysInside _ _) (fun m member part inside null => ?_) sound
    exact clean m member (Archive.mem_of_nameParts m.name part inside _ null)

variable (members members' : List Member) (plain : PlainMembers members) (wrapper : Option String)
  (same : Rearranged wrapper members members')
include plain same

/-- Rearranged members are unpacked exactly if the directory around them can stand and each of them can be stored. -/
theorem rearranged_storable (proper : ∀ name ∈ wrapper, Archive.Proper name) (filled : members ≠ [])
    (clean : ∀ m ∈ members', Char.ofNat 0 ∉ m.name.toList) :
    (∃ t, Archive.extractMembers start directory members' = .ok t) ↔
      (∀ name ∈ wrapper, Fits name) ∧ ∀ m ∈ members, m.item.Storable := by
  have perm := Archive.items_rearranged plain wrapper proper same
  have sound := Archive.sound_perm perm (Archive.sound_below _ plain.sound)
  rw [unpacked_iff w directory start opened members' (Archive.plain_rearranged plain wrapper proper same) sound clean]
  constructor
  · intro storable
    have outer : ∀ m ∈ members, (m.item.below wrapper.toList).Storable := by
      intro m member
      have among : m.item.below wrapper.toList ∈ members'.map Member.item :=
        perm.mem_iff.mp (List.mem_map_of_mem (List.mem_map_of_mem member))
      obtain ⟨m',member',said⟩ := List.mem_map.mp among
      exact said ▸ storable m' member'
    obtain ⟨m,member⟩ := List.exists_mem_of_ne_nil members filled
    refine ⟨fun name is => ?_,fun m member => Archive.storable_inner wrapper.toList m.item (outer m member)⟩
    exact (outer m member).fits name (List.mem_append_left _ (Option.mem_toList.mpr is))
  · rintro ⟨fits,storable⟩ m member
    obtain ⟨i,among,said⟩ := List.mem_map.mp (perm.mem_iff.mpr (List.mem_map_of_mem member))
    obtain ⟨other,inside,rfl⟩ := List.mem_map.mp among
    rw [← said]
    exact Archive.storable_below _ _ (fun name is => fits name (Option.mem_toList.mp is)) (storable other inside)

variable (wrap : ∀ name ∈ wrapper, Wrapper name)
include wrap

/-- However a project is arranged in an archive, its root is found, and there stands what its members say. -/
theorem rearranged_root (project : ProjectAt (members.map Member.item) []) (t : FileTree)
    (ran : Archive.extractMembers start directory members' = .ok t) :
    ∃ root, locateRoot t directory = .ok root ∧ t.Settled root ∧ ∀ names entry,
      t.find? (destination t.current root ++ names) = some entry ↔ Stands (members.map Member.item) names entry := by
  have perm := Archive.items_rearranged plain wrapper (fun name is => (wrap name is).proper) same
  have sound := Archive.sound_perm perm (Archive.sound_below _ plain.sound)
  have plain' := Archive.plain_rearranged plain wrapper (fun name is => (wrap name is).proper) same
  have stays : ∀ m ∈ members', Archive.staysInside w.files directory m.name = true :=
    fun m member => (plain' m member).staysInside _ _
  have filled : members' ≠ [] := by
    have some := project.filled
    rintro rfl
    have none := perm.length_eq
    simp only [List.map_nil,List.length_nil,List.length_map,List.length_eq_zero_iff] at none
    rw [none] at some
    exact some rfl
  obtain ⟨wellFormed,leads,current⟩ := extracted_wellFormed w directory start t members' opened ran
  have stands := extracted_stands w directory start t members' opened ran stays sound filled
  have unpacked := Archive.unpacked_members start t directory members' opened.leads opened.nothing ran
  have once := unpacked.once
  rw [← unpacked.inside.current] at once
  have inner (names : List String) (entry : Entry) : t.find? (destination t.current directory ++ wrapper.toList ++ names) =
      some entry ↔ Stands (members.map Member.item) names entry := by
    rw [List.append_assoc,stands,← Archive.stands_perm perm,Archive.stands_below]
  -- The directory around the project stands, so that its name is one that a path can have.
  have standing : t.find? (destination t.current directory ++ wrapper.toList) = some .directory := by
    have top := (inner [] .directory).mpr (Archive.folderAt_top plain.sound project.filled)
    rwa [List.append_nil] at top
  have proper : ∀ name ∈ wrapper.toList, name ≠ ".." ∧ Char.ofNat 0 ∉ name.toList := by
    intro name is
    have proper := unpacked.names wrapper.toList .directory (unpacked.inside.current ▸ standing) name is
    exact ⟨proper.1.noDots,proper.2⟩
  have below := Archive.leads_below t directory wellFormed leads _ proper standing
  have place := Archive.destination_below t.current directory wrapper.toList fun dots => (proper _ dots).1 rfl
  refine ⟨⟨directory.slashes,directory.parts ++ wrapper.toList⟩,?_,⟨below,wellFormed,?_⟩,?_⟩
  · refine locateRoot_rearranged t directory _ stands (fun i among => ?_) leads once wrapper _ perm plain.sound project
      (fun name is => (wrap name is).other) below place
    obtain ⟨m,member,rfl⟩ := List.mem_map.mp among
    exact extracted_storable w directory start t members' opened ran stays sound m member
  · rw [place]
    exact listedOnce_inside t _ _ once
  · rw [place]
    exact inner

/-- Rearranged members are unpacked alike, or neither they nor the members in their first order are unpacked. -/
theorem rearranged_alike (project : ProjectAt (members.map Member.item) [])
    (clean : ∀ m ∈ members, Char.ofNat 0 ∉ m.name.toList) (clean' : ∀ m ∈ members', Char.ofNat 0 ∉ m.name.toList) :
    (∃ t t' root root', Archive.extractMembers start directory members = .ok t ∧
      Archive.extractMembers start directory members' = .ok t' ∧ locateRoot t directory = .ok root ∧
      locateRoot t' directory = .ok root' ∧ Alike t t' root root') ∨
    ∃ reason reason', Archive.extractMembers start directory members = .error reason ∧
      Archive.extractMembers start directory members' = .error reason' := by
  have filled : members ≠ [] := by simpa using project.filled
  have itself : Rearranged none members members := List.Perm.refl _
  have storable := rearranged_storable w directory start opened members members plain none itself nofun filled clean
  have storable' := rearranged_storable w directory start opened members members' plain wrapper same
    (fun name is => (wrap name is).proper) filled clean'
  have fits : (∀ name ∈ none, Fits name) ↔ ∀ name ∈ wrapper, Fits name :=
    ⟨fun _ name is => (wrap name is).fits,fun _ => nofun⟩
  rw [fits,← storable'] at storable
  cases first : Archive.extractMembers start directory members with
  | error reason =>
    cases second : Archive.extractMembers start directory members' with
    | error reason' => exact .inr ⟨reason,reason',rfl,rfl⟩
    | ok t' =>
      obtain ⟨t,never⟩ := storable.mpr ⟨t',second⟩
      cases first.symm.trans never
  | ok t =>
    obtain ⟨t',second⟩ := storable.mp ⟨t,first⟩
    obtain ⟨root,located,settled,stands⟩ := rearranged_root w directory start opened members members plain none itself
      nofun project t first
    obtain ⟨root',located',settled',stands'⟩ := rearranged_root w directory start opened members members' plain wrapper
      same wrap project t' second
    refine .inl ⟨t,t',root,root',rfl,second,located,located',settled,settled',fun names => Option.ext fun entry => ?_⟩
    exact (stands names entry).trans (stands' names entry).symm

end Opening

section Archives

/-- Two archives side by side. -/
def archives (first second : ByteArray) : FileTree :=
  ⟨[(["tmp"],.directory),(["p.zip"],.file (.bytes first)),(["q.zip"],.file (.bytes second))],[]⟩

def archivesWorkspace (first second : ByteArray) : Workspace := .start (archives first second) [] ⟨1,["tmp"]⟩ 0.0

theorem archives_wellFormed (first second : ByteArray) : (archives first second).WellFormed := by
  refine wellFormed_of_entries _ ?_
  simp only [archives,List.forall_mem_cons,List.not_mem_nil,false_implies,implies_true,and_true]
  refine ⟨⟨rfl,?_⟩,⟨rfl,?_⟩,rfl,?_⟩ <;> rintro last ⟨⟩ <;> decide

theorem archives_read (first second : ByteArray) :
    (archives first second).read ⟨1,["p.zip"]⟩ = .ok (.bytes first) ∧
    (archives first second).read ⟨1,["q.zip"]⟩ = .ok (.bytes second) := by
  constructor <;>
  · simp only [FileTree.read,locate_chars]
    rfl

theorem archives_directory (first second : ByteArray) : ∃ directory a' w',
    (Analyzer.new none).newDirectory (archivesWorkspace first second) = .ok (directory,a',w') := by
  have made : ∃ made, (archives first second).makeDirectory ⟨1,["tmp","l2wp-00000001"]⟩ = .ok made := by
    refine ⟨⟨(archives first second).entries ++ [(["tmp","l2wp-00000001"],.directory)],[]⟩,?_⟩
    simp only [makeDirectory,locate_chars]
    rfl
  obtain ⟨made,making⟩ := made
  exact ⟨_,_,_,newDirectory_first (archivesWorkspace first second) _ made
    (show (Path.mk 1 ["tmp"]).child (directoryName 1) = _ by decide) making⟩

/-- A small project, and the same in a directory of its own. -/
def site : List (String × ByteArray) := [("index.html",ByteArray.empty),("src/pages/Home.tsx",⟨#[120]⟩)]

def siteBelow : List (String × ByteArray) := [("app/src/pages/Home.tsx",⟨#[120]⟩),("app/index.html",ByteArray.empty)]

end Archives

section Standing

variable (a a₁ : Analyzer) (w w₁ : Workspace) (archive directory : Path) (content : Content)
  (members members' : List Member) (wellFormed : w.files.WellFormed) (owning : a.Owning w) (leaves : a.Leaves w archive)
  (read : w.files.read archive = .ok content) (new : a.newDirectory w = .ok (directory,a₁,w₁))
  (plain : PlainMembers members) (project : ProjectAt (members.map Member.item) [])
include wellFormed owning leaves read new plain project

/-- If all members of a project can be stored, its analysis fails only where it reads. -/
theorem analysis_reading (unpacked : Archive.unpack content.data = .ok members)
    (storable : ∀ m ∈ members, m.item.Storable) : RefusedBy Failure.IsReading (a.analyze archive w).1 := by
  have opened := newDirectory_opened a a₁ w w₁ directory wellFormed owning new
  have itself : Rearranged none members members := List.Perm.refl _
  obtain ⟨t,ran⟩ := (unpacked_iff w directory w₁.files opened members plain.plain plain.sound
    (Archive.unpack_clean _ members unpacked)).mpr storable
  obtain ⟨root,located,_⟩ := rearranged_root w directory w₁.files opened members members plain none itself nofun project
    t ran
  rw [(analyze_course a a₁ w w₁ archive directory content members read unpacked new
    (newDirectory_read a a₁ w w₁ archive directory content leaves read new)).1 t ran,located]
  exact analyzeDirectory_reading t root

/-- In a directory with a name that none can have, no project is unpacked. -/
theorem analysis_unfit (unpacked : Archive.unpack content.data = .ok members') (name : String)
    (proper : Archive.Proper name) (long : ¬ Fits name) (same : Rearranged (some name) members members') :
    ∃ message, (a.analyze archive w).1 = .error (.extraction message archive.text) := by
  have opened := newDirectory_opened a a₁ w w₁ directory wellFormed owning new
  have storable := rearranged_storable w directory w₁.files opened members members' plain (some name) same
    (fun _ is => Option.some.inj is ▸ proper) (by simpa using project.filled) (Archive.unpack_clean _ members' unpacked)
  obtain ⟨_,stuck⟩ := analyze_course a a₁ w w₁ archive directory content members' read unpacked new
    (newDirectory_read a a₁ w w₁ archive directory content leaves read new)
  cases ran : Archive.extractMembers w₁.files directory members' with
  | error reason => exact stuck reason ran
  | ok t => exact absurd ((storable.mp ⟨t,ran⟩).1 name rfl) long

end Standing

section Pages

/-- A name of more bytes than a directory can have in its name. -/
def longName : String := String.ofList (List.replicate 256 'w')

def page : String × ByteArray := ("index.html",ByteArray.empty)

def longPage : String × ByteArray := (Archive.wrapped (some longName) page.1,page.2)

def bothPages : Workspace := archivesWorkspace (pack [page]) (pack [longPage])

theorem longName_chars : longName.toList = List.replicate 256 'w' := String.toList_ofList

theorem longName_size : longName.utf8ByteSize = 256 := by
  have single : ∀ c ∈ List.replicate 256 'w', c.utf8Size = 1 := by
    intro c member
    rw [List.eq_of_mem_replicate member]
    rfl
  exact (Decimal.utf8ByteSize_single _ single).trans List.length_replicate

theorem longName_proper : Archive.Proper longName := by
  have differs (other : String) (short : other.toList.length ≠ 256) : longName ≠ other := by
    rintro rfl
    exact short (by rw [longName_chars,List.length_replicate])
  refine ⟨⟨?_,differs _ (by decide),differs _ (by decide)⟩,differs _ (by decide)⟩
  rw [longName_chars]
  exact fun member => absurd (List.eq_of_mem_replicate member) (by decide)

theorem longPage_unpacked : Archive.unpack (pack [longPage]) = .ok (contents [longPage]) := by
  have name : longPage.1 = longName ++ "/" ++ page.1 := rfl
  have size : longPage.1.utf8ByteSize = 267 := by
    rw [name,String.utf8ByteSize_append,String.utf8ByteSize_append,longName_size]
    rfl
  refine unpack_pack [longPage] (List.forall_mem_singleton.mpr ?_) (List.forall_mem_singleton.mpr ?_) ?_
  · rw [name,String.toList_append,String.toList_append,longName_chars,List.mem_append,List.mem_append]
    rintro ((member | slash) | inside)
    · exact absurd (List.eq_of_mem_replicate member) (by decide)
    · exact absurd slash (by decide)
    · exact absurd inside (by decide)
  · rw [size]
    decide
  · rw [Archive.packedSize,List.map_singleton,size]
    decide

theorem page_plain : PlainMembers (contents [page]) ∧ ProjectAt ((contents [page]).map Member.item) [] ∧
    ∀ m ∈ contents [page], m.item.Storable := by
  refine ⟨by decide +kernel,by decide +kernel,?_⟩
  exact List.forall_mem_singleton.mpr ⟨by decide +kernel,fun _ => rfl⟩

end Pages

end Project

end Pagewright
