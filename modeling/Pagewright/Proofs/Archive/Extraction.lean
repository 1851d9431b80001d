import Pagewright.Archive.Extract
import Pagewright.Proofs.Files.Progress
import Pagewright.Proofs.Files.Texts

/-! What unpacking an archive leaves. Everything comes up below the directory, under names that are
components of the member names, and a file holds the data of the last member that is written there. -/
namespace Pagewright

namespace Archive
open FileTree

instance decidableEqExcept {ε α : Type} [DecidableEq ε] [DecidableEq α] : DecidableEq (Except ε α)
  | .error e, .error e' => decidable_of_iff (e = e') ⟨congrArg _,Except.error.inj⟩
  | .ok a, .ok a' => decidable_of_iff (a = a') ⟨congrArg _,Except.ok.inj⟩
  | .error _, .ok _ => .isFalse nofun
  | .ok _, .error _ => .isFalse nofun

-- Bytes have two instances where the whole library is imported, so the one that is meant is named.
instance decidableEqData : DecidableEq (Except String ByteArray) :=
  @decidableEqExcept String ByteArray _ ByteArray.instDecidableEq

deriving instance DecidableEq for Member

/-- A name that a file or directory below a directory can go by in a path. -/
structure Proper (name : String) : Prop where
  component : Path.IsComponent name
  noDots : name ≠ ".."

instance (name : String) : Decidable (Proper name) :=
  decidable_of_iff (Path.IsComponent name ∧ name ≠ "..") ⟨fun ⟨component,noDots⟩ => ⟨component,noDots⟩,
    fun ⟨component,noDots⟩ => ⟨component,noDots⟩⟩

theorem proper_nameParts (name part : String) (member : part ∈ nameParts name) : Proper part := by
  obtain ⟨mapped,kept⟩ := List.mem_filter.mp member
  obtain ⟨piece,split,rfl⟩ := List.mem_map.mp mapped
  simp only [Bool.and_eq_true,bne_iff_ne,ne_eq] at kept
  refine ⟨⟨?_,kept.1.1,kept.1.2⟩,kept.2⟩
  rw [String.toList_ofList]
  exact Path.mem_splitOn '/' name.toList piece split

theorem noDots_nameParts (name : String) : ".." ∉ nameParts name :=
  fun member => (proper_nameParts name _ member).noDots rfl

/-- The place of names below a directory. -/
theorem destination_below (current : Place) (directory : Path) (names : List String) (noDots : ".." ∉ names) :
    destination current ⟨directory.slashes,directory.parts ++ names⟩ =
      destination current directory ++ names := by
  rw [destination_append,foldl_enter_names _ _ noDots]

/-- A later tree in which things came up below a place alone, and no file is lost. -/
def Inside (place : Place) (t t' : FileTree) : Prop :=
  Changes (fun other => isBelow place other = true) (fun other => isBelow place other = true) nowhere t t'

/-- The places on the way from a place along names. -/
def Along (place : Place) (names : List String) (other : Place) : Prop :=
  ∃ start, start ≠ [] ∧ start <+: names ∧ other = place ++ start

theorem along_self (place : Place) (names : List String) (proper : names ≠ []) :
    Along place names (place ++ names) := ⟨names,proper,List.prefix_refl _,rfl⟩

theorem along_more (place : Place) (names more : List String) (within : names <+: more) (other : Place)
    (along : Along place names other) : Along place more other := by
  obtain ⟨start,proper,inside,same⟩ := along
  exact ⟨start,proper,inside.trans within,same⟩

theorem along_below (place : Place) (names : List String) (other : Place) (along : Along place names other) :
    isBelow place other = true := by
  obtain ⟨start,proper,_,rfl⟩ := along
  exact isBelow_append _ _ proper

section Members

variable (t t' : FileTree) (directory : Path)

theorem taken_leads (leads : t.LeadsToDirectory directory) : taken t directory = true := by
  simp only [taken,exists?,look,leads.1,leads.2]
  rfl

theorem makeDirectory_along (names : List String) (proper : names ≠ []) (noDots : ".." ∉ names)
    (ok : t.makeDirectory ⟨directory.slashes,directory.parts ++ names⟩ = .ok t') :
    Changes nowhere (Along (destination t.current directory) names) nowhere t t' := by
  refine (makeDirectory_changes t t' _ ok).weaken (fun _ => id) ?_ fun _ => id
  rintro place rfl
  rw [destination_below _ _ _ noDots]
  exact along_self _ _ proper

theorem makeMissing_succ (fuel : Nat) (p : Path) : makeMissing (fuel + 1) t p =
    (if taken t p.parent then .ok t else makeMissing fuel t p.parent) >>= (·.makeDirectory p) := by
  rw [makeMissing]
  cases taken t p.parent <;> rfl

/-- The directories that are missing above a member come up below the directory, which stands already. -/
theorem makeMissing_along (fuel : Nat) (leads : t.LeadsToDirectory directory) (names : List String)
    (proper : names ≠ []) (noDots : ".." ∉ names)
    (ok : makeMissing fuel t ⟨directory.slashes,directory.parts ++ names⟩ = .ok t') :
    Changes nowhere (Along (destination t.current directory) names) nowhere t t' := by
  induction fuel generalizing names t' with
  | zero => exact makeDirectory_along t t' directory names proper noDots ok
  | succ fuel ih =>
    obtain ⟨names,name,rfl⟩ := (List.eq_nil_or_concat names).resolve_left proper
    rw [List.concat_eq_append] at *
    have parent : Path.parent ⟨directory.slashes,directory.parts ++ (names ++ [name])⟩ =
        ⟨directory.slashes,directory.parts ++ names⟩ := by
      simp [Path.parent,← List.append_assoc]
    rw [makeMissing_succ,parent] at ok
    obtain ⟨middle,above,ok⟩ := except_bind_success _ _ _ ok
    have first : Changes nowhere (Along (destination t.current directory) (names ++ [name])) nowhere
        t middle := by
      split at above
      · cases above
        exact Changes.refl t
      next free =>
        refine (ih middle names ?_ (fun member => noDots (List.mem_append_left _ member)) above).weaken
          (fun _ => id) (along_more _ _ _ (List.prefix_append _ _)) fun _ => id
        rintro rfl
        rw [List.append_nil] at free
        exact free (taken_leads t directory leads)
    have last := makeDirectory_along middle t' directory (names ++ [name]) (by simp) noDots ok
    rw [first.current] at last
    exact first.trans last

/-- What has to stand before a member is written: all but the last component. -/
theorem upper_eq (m : Member) :
    (if nameParts m.name == [] then directory else (targetOf directory m).parent) =
      ⟨directory.slashes,directory.parts ++ (nameParts m.name).dropLast⟩ := by
  unfold targetOf Path.parent
  cases nameParts m.name with
  | nil => simp
  | cons part rest => simp [List.dropLast_append_of_ne_nil]

section Keeping

variable (property : FileTree → Prop)

/-- A property that is kept wherever something is put in no directory's place. -/
def KeptByPut : Prop := ∀ (t : FileTree) place entry, t.find? place ≠ some .directory → property t →
  property (t.put place entry)

theorem keptByPut_leads : KeptByPut (·.LeadsToDirectory directory) := by
  intro t place entry noDirectory leads
  refine leads_put t directory place entry ?_ noDirectory leads
  rintro rfl
  exact noDirectory rfl

variable (kept : KeptByPut property)
include kept

theorem makeDirectory_keeps (p : Path) (ok : t.makeDirectory p = .ok t') (before : property t) : property t' := by
  obtain ⟨_,free,_,rfl⟩ := makeDirectory_success t t' p ok
  exact kept t _ _ (by simp [free]) before

theorem write_keeps (p : Path) (content : Content) (ok : t.write p content = .ok t') (before : property t) :
    property t' := by
  obtain ⟨_,noDirectory,rfl⟩ := write_success t t' p content ok
  exact kept t _ _ noDirectory before

theorem makeMissing_keeps (fuel : Nat) (p : Path) (ok : makeMissing fuel t p = .ok t') (before : property t) :
    property t' := by
  induction fuel generalizing p t' with
  | zero => exact makeDirectory_keeps t t' property kept p ok before
  | succ fuel ih =>
    rw [makeMissing_succ] at ok
    obtain ⟨middle,above,ok⟩ := except_bind_success _ _ _ ok
    refine makeDirectory_keeps middle t' property kept p ok ?_
    split at above
    · exact Except.ok.inj above ▸ before
    · exact ih middle p.parent above

theorem writeMember_keeps (m : Member) (ok : writeMember t directory m = .ok t') (before : property t) :
    property t' := by
  obtain ⟨middle,above,ok⟩ := except_bind_success _ _ _ ok
  have reached : property middle := by
    rw [upper_eq] at above
    have above := except_mapError_success _ _ _ above
    split at above
    · exact Except.ok.inj above ▸ before
    · exact makeMissing_keeps t middle property kept _ _ above before
  split at ok
  · have ok := except_mapError_success _ _ _ ok
    unfold writeDirectory at ok
    split at ok
    · exact Except.ok.inj ok ▸ reached
    · exact makeDirectory_keeps middle t' property kept _ ok reached
  · obtain ⟨opened,opening,ok⟩ := except_bind_success _ _ _ ok
    obtain ⟨data,_,ok⟩ := except_bind_success _ _ _ ok
    have opened := write_keeps middle opened property kept _ _ (except_mapError_success _ _ _ opening) reached
    exact write_keeps _ t' property kept _ _ (except_mapError_success _ _ _ ok) opened

end Keeping

/-- What a member leaves at a place. -/
inductive Left (m : Member) (place : Place) : FileTree → FileTree → Prop
  | directory (t : FileTree) : m.isDirectory = true → Left m place t t
  | made (t : FileTree) : m.isDirectory = true → t.find? place = none →
      Left m place t (t.put place .directory)
  | file (t : FileTree) (data : ByteArray) : m.isDirectory = false → m.data = .ok data →
      t.find? place ≠ some .directory → Left m place t (t.put place (.file (.bytes data)))

/-- A member that was written where a path leads. -/
structure Placed (m : Member) (target : Path) (t t' : FileTree) : Prop where
  located : t'.locate target = .ok (destination t.current target)
  left : Left m (destination t.current target) t t'
  changes : Changes (· = destination t.current target) (· = destination t.current target) nowhere t t'

theorem put_put (place : Place) (first second : Entry) : (t.put place first).put place second = t.put place second := by
  simp only [put,FileTree.mk.injEq,and_true]
  induction t.entries with
  | nil => simp [putEntry]
  | cons entry rest ih =>
    by_cases same : entry.1 = place
    · simp [putEntry,same]
    · simp [putEntry,same,ih]

theorem writeDirectory_success (m : Member) (isDirectory : m.isDirectory = true) (target : Path)
    (ok : writeDirectory t target = .ok t') : Placed m target t t' := by
  unfold writeDirectory at ok
  split at ok
  next standing =>
    cases ok
    exact ⟨(isDirectory_success t target standing).1,.directory t isDirectory,Changes.refl t⟩
  next =>
    obtain ⟨located,_⟩ := makeDirectory_leads t t' target ok
    have changes := makeDirectory_changes t t' target ok
    obtain ⟨_,free,_,rfl⟩ := makeDirectory_success t t' target ok
    exact ⟨located,.made t isDirectory free,
      changes.weaken (fun _ => False.elim) (fun _ => id) (fun _ => id)⟩

theorem writeFile_success (m : Member) (isFile : m.isDirectory = false) (target : Path)
    (proper : target.parts ≠ []) (opened : FileTree) (data : ByteArray) (given : m.data = .ok data)
    (first : t.write target (.bytes ByteArray.empty) = .ok opened)
    (second : opened.write target (.bytes data) = .ok t') : Placed m target t t' := by
  have opening := write_changes t opened target _ proper first
  have changes := write_changes opened t' target _ proper second
  obtain ⟨located,_⟩ := write_leads opened t' target _ second
  obtain ⟨_,noDirectory,rfl⟩ := write_success t opened target _ first
  obtain ⟨_,_,rfl⟩ := write_success _ t' target _ second
  have left := Left.file t data isFile given noDirectory
  rw [← put_put t _ (.file (.bytes ByteArray.empty))] at left
  exact ⟨located,left,(opening.trans changes).weaken (fun _ => id) (fun _ => False.elim) (fun _ => id)⟩

/-- A member makes the directories that are missing above it, and then what it is. -/
theorem writeMember_success (leads : t.LeadsToDirectory directory) (m : Member)
    (ok : writeMember t directory m = .ok t') :
    ∃ middle, Changes nowhere (Along (destination t.current directory) (nameParts m.name)) nowhere t middle ∧
      middle.LeadsToDirectory directory ∧ Placed m (targetOf directory m) middle t' := by
  obtain ⟨middle,above,ok⟩ := except_bind_success _ _ _ ok
  rw [upper_eq] at above
  have above := except_mapError_success _ _ _ above
  have first : Changes nowhere (Along (destination t.current directory) (nameParts m.name)) nowhere t middle ∧
      middle.LeadsToDirectory directory := by
    split at above
    · exact Except.ok.inj above ▸ ⟨Changes.refl t,leads⟩
    next free =>
      refine ⟨?_,makeMissing_keeps t middle _ (keptByPut_leads directory) _ _ above leads⟩
      refine (makeMissing_along t middle directory _ leads _ ?_ ?_ above).weaken (fun _ => id)
        (along_more _ _ _ (List.dropLast_prefix _)) fun _ => id
      · intro none
        rw [none,List.append_nil] at free
        exact free (taken_leads t directory leads)
      · exact fun member => noDots_nameParts m.name (List.dropLast_subset _ member)
  refine ⟨middle,first.1,first.2,?_⟩
  split at ok
  next isDirectory => exact writeDirectory_success middle t' m isDirectory _ (except_mapError_success _ _ _ ok)
  next isFile =>
    obtain ⟨opened,opening,ok⟩ := except_bind_success _ _ _ ok
    obtain ⟨data,given,ok⟩ := except_bind_success _ _ _ ok
    have opening := except_mapError_success _ _ _ opening
    refine writeFile_success middle t' m (Bool.eq_false_iff.mpr isFile) _ ?_ opened data given opening
      (except_mapError_success _ _ _ ok)
    -- Where the target has no components, it is the directory itself.
    obtain ⟨_,noDirectory,_⟩ := write_success middle opened _ _ opening
    intro none
    have parts := List.append_eq_nil_iff.mp none
    refine noDirectory ?_
    rw [targetOf,parts.2,List.append_nil]
    exact first.2.2

/-- Where a directory stands, nothing new comes up. -/
theorem left_standing (m : Member) (place : Place) (left : Left m place t t')
    (standing : t.find? place = some .directory) : t' = t := by
  cases left with
  | directory => rfl
  | made _ free => cases free.symm.trans standing
  | file _ _ _ noDirectory => exact absurd standing noDirectory

theorem left_find? (m : Member) (place other : Place) (left : Left m place t t') (different : other ≠ place) :
    t'.find? other = t.find? other := by
  cases left with
  | directory => rfl
  | made => exact find?_put_of_ne t _ different
  | file => exact find?_put_of_ne t _ different

/-- The content that a member leaves is its own data, in one place. -/
theorem left_content (m : Member) (place other : Place) (left : Left m place t t') :
    t'.contentAt? other = if !m.isDirectory && other == place then m.data.toOption.map .bytes
      else t.contentAt? other := by
  by_cases same : other = place
  · subst same
    unfold contentAt?
    cases left with
    | directory isDirectory => simp [isDirectory]
    | made isDirectory free =>
      have proper : other ≠ [] := by rintro rfl; cases free
      simp [isDirectory,free,find?_put_self t _ proper]
    | file data isFile given noDirectory =>
      have proper : other ≠ [] := by rintro rfl; exact noDirectory rfl
      simp [isFile,given,find?_put_self t _ proper,Except.toOption]
  · have kept := left_find? t t' m place other left same
    unfold contentAt?
    rw [kept]
    simp [same]

theorem noNull_of_locate (p : Path) (place : Place) (located : t.locate p = .ok place) (part : String)
    (member : part ∈ p.parts) : Char.ofNat 0 ∉ part.toList := by
  unfold locate at located
  split at located
  · cases located
  next clean =>
    intro null
    refine clean (List.any_eq_true.mpr ⟨part,member,?_⟩)
    rw [String.contains_char_eq]
    exact decide_eq_true null

end Members

/-- Every place below a place is listed once at most. -/
def ListedOnce (place : Place) (t : FileTree) : Prop :=
  ((t.entries.map (·.1)).filter (isBelow place)).Nodup

theorem keptByPut_listedOnce (place : Place) : KeptByPut (ListedOnce place) := by
  intro t other entry _ once
  have keys : (putEntry other entry t.entries).map (·.1) = t.entries.map (·.1) ∨
      other ∉ t.entries.map (·.1) ∧
        (putEntry other entry t.entries).map (·.1) = t.entries.map (·.1) ++ [other] := by
    induction t.entries with
    | nil => exact .inr ⟨by simp,rfl⟩
    | cons first rest ih =>
      by_cases same : first.1 = other
      · exact .inl (by simp [putEntry,same])
      · simpa [putEntry,same,Ne.symm same] using ih
  unfold ListedOnce
  show (((putEntry other entry t.entries).map (·.1)).filter (isBelow place)).Nodup
  rcases keys with same | ⟨new,more⟩
  · rw [same]
    exact once
  · rw [more,List.filter_append,List.nodup_append]
    refine ⟨once,List.Pairwise.filter _ (List.pairwise_singleton _ _),fun a inside b added same => ?_⟩
    rw [List.mem_singleton.mp (List.mem_filter.mp added).1] at same
    exact new (same ▸ (List.mem_filter.mp inside).1)

/-- What is listed below the place stands there. -/
theorem listed_stands (place : Place) (t : FileTree) (once : ListedOnce place t) (e : Place × Entry)
    (member : e ∈ t.entries) (below : isBelow place e.1 = true) : t.find? e.1 = some e.2 := by
  have proper : e.1 ≠ [] := by
    intro root
    rw [root] at below
    obtain ⟨name,rest,split⟩ := (isBelow_iff _ _).mp below
    simp at split
  have found : t.entries.lookup e.1 = some e.2 := by
    unfold ListedOnce at once
    generalize t.entries = entries at once member
    induction entries with
    | nil => cases member
    | cons first rest ih =>
      obtain ⟨other,entry⟩ := first
      rw [List.map_cons,List.filter_cons] at once
      by_cases same : other = e.1
      · rw [same,if_pos below,List.nodup_cons] at once
        rcases List.mem_cons.mp member with is | later
        · simp [is]
        · exact absurd (List.mem_filter.mpr ⟨List.mem_map_of_mem later,below⟩) once.1
      · have later : e ∈ rest := (List.mem_cons.mp member).resolve_left fun is => same (by rw [is])
        have different : (e.1 == other) = false := by simp [Ne.symm same]
        rw [List.lookup_cons,different]
        refine ih ?_ later
        split at once
        · exact (List.nodup_cons.mp once).2
        · exact once
  simpa [find?,proper] using found

theorem listedOnce_nothing (place : Place) (t : FileTree)
    (empty : ∀ other, isBelow place other = true → t.find? other = none) : ListedOnce place t := by
  unfold ListedOnce
  suffices none : (t.entries.map (·.1)).filter (isBelow place) = [] by rw [none]; exact List.Pairwise.nil
  refine List.filter_eq_nil_iff.mpr fun other listed below => ?_
  have missing := empty other below
  obtain ⟨e,member,rfl⟩ := List.mem_map.mp listed
  have proper : e.1 ≠ [] := by
    intro root
    rw [root] at missing
    cases missing
  simp only [find?,List.isEmpty_iff,proper,if_false] at missing
  exact absurd rfl (bne_iff_ne.mp (List.lookup_eq_none_iff.mp missing e member))

/-- The data that members leave under names below the directory: those of the last file of these names. -/
def archived (files : FileTree) (directory : Path) (members : List Member) (names : List String) :
    Option ByteArray :=
  (members.reverse.find? fun m =>
    staysInside files directory m.name && !m.isDirectory && nameParts m.name == names).bind
      fun m => m.data.toOption

/-- A tree in which members are unpacked below a directory. -/
structure Unpacked (files : FileTree) (directory : Path) (members : List Member) (t : FileTree) : Prop where
  inside : Inside (destination files.current directory) files t
  leads : t.LeadsToDirectory directory
  names : ∀ names entry, t.find? (destination files.current directory ++ names) = some entry →
    ∀ name ∈ names, Proper name ∧ Char.ofNat 0 ∉ name.toList
  content : ∀ names, t.contentAt? (destination files.current directory ++ names) =
    (archived files directory members names).map .bytes
  once : ListedOnce (destination files.current directory) t

section Unpacking

variable (files t t' : FileTree) (directory : Path) (members : List Member)

theorem unpacked_nothing (leads : files.LeadsToDirectory directory)
    (empty : ∀ place, isBelow (destination files.current directory) place = true → files.find? place = none) :
    Unpacked files directory [] files where
  inside := Changes.refl files
  leads := leads
  names names entry standing name member := by
    have proper : names ≠ [] := List.ne_nil_of_mem member
    rw [empty _ (isBelow_append _ _ proper)] at standing
    cases standing
  content names := by
    unfold contentAt?
    cases names with
    | nil => rw [List.append_nil,leads.2]; rfl
    | cons name rest => rw [empty _ (isBelow_append _ _ (by simp))]; rfl
  once := listedOnce_nothing _ files empty

theorem archived_snoc (m : Member) (names : List String) :
    archived files directory (members ++ [m]) names =
      if staysInside files directory m.name && !m.isDirectory && nameParts m.name == names then m.data.toOption
      else archived files directory members names := by
  unfold archived
  rw [List.reverse_append,List.reverse_singleton,List.singleton_append,List.find?_cons]
  split <;> simp_all

theorem unpacked_written (unpacked : Unpacked files directory members t) (m : Member)
    (stays : staysInside files directory m.name = true) (ok : writeMember t directory m = .ok t') :
    Unpacked files directory (members ++ [m]) t' := by
  have current : t.current = files.current := unpacked.inside.current
  obtain ⟨middle,above,standing,placed⟩ := writeMember_success t t' directory unpacked.leads m ok
  have target : destination middle.current (targetOf directory m) =
      destination files.current directory ++ nameParts m.name := by
    rw [above.current,current]
    exact destination_below _ directory _ (noDots_nameParts m.name)
  obtain ⟨located,left,changes⟩ := placed
  rw [current] at above
  rw [target] at located left changes
  constructor
  case inside =>
    have opened : Inside (destination files.current directory) t middle :=
      above.weaken (fun _ => False.elim) (along_below _ _) (fun _ => id)
    refine unpacked.inside.trans (opened.trans ?_)
    by_cases some : nameParts m.name = []
    · -- A member without a name of its own is the directory, which stands already.
      have same := left_standing middle t' m _ left (by
        rw [some,List.append_nil,← current,← above.current]
        exact standing.2)
      exact same ▸ Changes.refl t'
    · have below := isBelow_append (destination files.current directory) _ some
      exact changes.weaken (fun place same => same ▸ below) (fun place same => same ▸ below) (fun _ => id)
  case leads => exact writeMember_keeps t t' directory _ (keptByPut_leads directory) m ok unpacked.leads
  case names =>
    intro names entry standing name member
    by_cases same : names = nameParts m.name
    · refine ⟨proper_nameParts m.name name (same ▸ member),?_⟩
      exact noNull_of_locate t' _ _ located name (List.mem_append_right _ (same ▸ member))
    · rw [left_find? middle t' m _ _ left fun places => same (List.append_cancel_left places)] at standing
      cases entry with
      | file content =>
        exact unpacked.names names _ ((above.files _ content standing).resolve_right fun never => never) name member
      | directory =>
        rcases above.directories _ standing with before | ⟨start,_,inside,places⟩
        · exact unpacked.names names _ before name member
        · have within := inside.subset (List.append_cancel_left places ▸ member)
          exact ⟨proper_nameParts m.name name within,
            noNull_of_locate t' _ _ located name (List.mem_append_right _ within)⟩
  case content =>
    intro names
    rw [left_content middle t' m _ _ left,contentAt?_kept above _ (fun never => never) (fun never => never),
      unpacked.content,archived_snoc,stays]
    have places : (destination files.current directory ++ names ==
        destination files.current directory ++ nameParts m.name) = (nameParts m.name == names) := by
      rw [Bool.eq_iff_iff,beq_iff_eq,beq_iff_eq,List.append_cancel_left_eq,eq_comm]
    rw [places,Bool.true_and]
    split <;> rfl
  case once => exact writeMember_keeps t t' directory _ (keptByPut_listedOnce _) m ok unpacked.once

theorem staysInside_current (other : FileTree) (same : other.current = files.current) (name : String) :
    staysInside other directory name = staysInside files directory name := by
  unfold staysInside placeOf
  rw [same]

/-- The last member is written where the ones before have left the tree, or skipped. -/
theorem extractMembers_snoc (m : Member) (ok : extractMembers files directory (members ++ [m]) = .ok t) :
    ∃ before, extractMembers files directory members = .ok before ∧ (before.current = files.current →
      staysInside files directory m.name = true ∧ writeMember before directory m = .ok t ∨
        staysInside files directory m.name = false ∧ t = before) := by
  unfold extractMembers at ok
  rw [List.foldlM_append] at ok
  obtain ⟨before,earlier,ok⟩ := except_bind_success _ _ _ ok
  obtain ⟨after,last,ok⟩ := except_bind_success _ _ _ ok
  cases ok
  refine ⟨before,earlier,fun current => ?_⟩
  dsimp only at last
  rw [staysInside_current files directory before current] at last
  split at last
  next stays => exact .inl ⟨stays,last⟩
  next skipped => cases last; exact .inr ⟨Bool.eq_false_iff.mpr skipped,rfl⟩

theorem unpacked_members (leads : files.LeadsToDirectory directory)
    (empty : ∀ place, isBelow (destination files.current directory) place = true → files.find? place = none)
    (ok : extractMembers files directory members = .ok t) : Unpacked files directory members t := by
  -- The last member decides, so the members are taken from their end.
  induction members using List.reverseRecOn generalizing t with
  | nil =>
    cases ok
    exact unpacked_nothing files directory leads empty
  | append_singleton members m ih =>
    obtain ⟨before,earlier,last⟩ := extractMembers_snoc files t directory members m ok
    have unpacked := ih before earlier
    rcases last unpacked.inside.current with ⟨stays,written⟩ | ⟨skipped,rfl⟩
    · exact unpacked_written files before t directory members unpacked m stays written
    · refine ⟨unpacked.inside,unpacked.leads,unpacked.names,fun names => ?_,unpacked.once⟩
      rw [unpacked.content,archived_snoc,skipped]
      rfl

/-- An archive that is unpacked into an empty directory leaves the data of its members there. -/
theorem extract_success (leads : files.LeadsToDirectory directory)
    (empty : ∀ place, isBelow (destination files.current directory) place = true → files.find? place = none)
    (data : ByteArray) (ok : extract files directory data = .ok t) :
    ∃ members, unpack data = .ok members ∧ Unpacked files directory members t := by
  obtain ⟨members,given,ok⟩ := except_bind_success _ _ _ ok
  exact ⟨members,given,unpacked_members files t directory members leads empty ok⟩

end Unpacking

end Archive

end Pagewright
