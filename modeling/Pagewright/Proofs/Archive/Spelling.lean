import Pagewright.Proofs.Project.Confinement

/-! Plain names of members. A plain name spells the components under which its member is written, so the member never
leads out of the directory. With a directory put in front, the name spells that directory and the same components. -/
namespace Pagewright.Archive
open FileTree

/-- The name that components make up; that of a directory ends in a slash. -/
def spell (parts : List String) (isDirectory : Bool) : String :=
  "/".intercalate parts ++ if isDirectory then "/" else ""

/-- A relative name without empty components and without dots. -/
def IsPlain (name : String) : Prop :=
  ∃ parts isDirectory, parts ≠ [] ∧ (∀ part ∈ parts, Proper part) ∧ name = spell parts isDirectory

section Spelling

theorem spell_cons (first : String) (parts : List String) (isDirectory : Bool) (filled : parts ≠ []) :
    first ++ "/" ++ spell parts isDirectory = spell (first :: parts) isDirectory := by
  obtain ⟨second,rest,rfl⟩ := List.exists_cons_of_ne_nil filled
  unfold spell
  rw [String.intercalate_cons_cons]
  exact String.append_assoc.symm

variable (parts : List String) (isDirectory : Bool) (filled : parts ≠ []) (proper : ∀ part ∈ parts, Proper part)
include filled proper

theorem pieces_spell : Text.splitOn '/' (spell parts isDirectory).toList =
    parts.map String.toList ++ if isDirectory then [[]] else [] := by
  have names : Text.splitOn '/' ("/".intercalate parts).toList = parts.map String.toList := by
    rw [Path.splitOn_eq,String.toList_intercalate]
    refine List.splitOn_intercalate '/' (fun piece member => ?_) (by simpa using filled)
    obtain ⟨part,inside,rfl⟩ := List.mem_map.mp member
    exact (proper part inside).component.1
  unfold spell
  cases isDirectory with
  | false => simpa using names
  | true =>
    rw [Path.splitOn_eq] at names ⊢
    rw [if_pos rfl,if_pos rfl,String.toList_append,← names]
    exact List.splitOnP_append_cons _ [] (beq_self_eq_true '/')

theorem nameParts_spell : nameParts (spell parts isDirectory) = parts := by
  have kept : ∀ part ∈ parts, (part != "" && part != "." && part != "..") = true := by
    intro part member
    have is := proper part member
    simp [is.component.2.1,is.component.2.2,is.noDots]
  have last : ((if isDirectory then [[]] else [] : List (List Char)).map String.ofList).filter
      (fun part => part != "" && part != "." && part != "..") = [] := by cases isDirectory <;> rfl
  unfold nameParts
  rw [pieces_spell parts isDirectory filled proper,List.map_append,List.map_map,List.filter_append,last,
    List.append_nil]
  simp only [Function.comp_def,String.ofList_toList,List.map_id']
  exact List.filter_eq_self.mpr kept

/-- A name ends in a slash where its last piece is empty. -/
theorem endsWith_spell : (spell parts isDirectory).endsWith "/" = isDirectory := by
  have pieces := pieces_spell parts isDirectory filled proper
  rw [Bool.eq_iff_iff,← String.endsWith_toSlice,String.Slice.endsWith_string_iff,String.copy_toSlice]
  constructor
  · rintro ⟨before,whole⟩
    by_contra file
    rw [Bool.not_eq_true] at file
    have split := List.splitOnP_append_cons (p := (· == '/')) before [] (beq_self_eq_true '/')
    rw [← whole,file,if_neg (by decide),List.append_nil,Path.splitOn_eq] at pieces
    have empty : [] ∈ parts.map String.toList := by
      rw [← pieces]
      show [] ∈ List.splitOnP _ (before ++ '/' :: [])
      rw [split]
      simp
    obtain ⟨part,member,none⟩ := List.mem_map.mp empty
    exact (proper part member).component.2.1 (String.toList_inj.mp none)
  · rintro rfl
    exact ⟨("/".intercalate parts).toList,by simp [spell]⟩

theorem ofText_spell : Path.ofText (spell parts isDirectory) = ⟨0,parts⟩ := by
  have pieces := pieces_spell parts isDirectory filled proper
  have components : Path.componentsOf (spell parts isDirectory).toList = parts := by
    have kept : ∀ chars ∈ parts.map String.toList, (!chars.isEmpty && chars != ['.']) = true := by
      intro chars member
      obtain ⟨part,inside,rfl⟩ := List.mem_map.mp member
      have is := (proper part inside).component
      exact (Path.isComponent_iff part.toList is.1).mp (by rwa [String.ofList_toList])
    have last : (if isDirectory then [[]] else [] : List (List Char)).filter
        (fun chars => !chars.isEmpty && chars != ['.']) = [] := by cases isDirectory <;> rfl
    rw [Path.componentsOf,pieces,List.filter_append,last,List.append_nil,List.filter_eq_self.mpr kept,List.map_map]
    simp [Function.comp_def]
  -- The first component is no empty one, so that the name starts with no slash.
  obtain ⟨first,rest,rfl⟩ := List.exists_cons_of_ne_nil filled
  obtain ⟨more,head,_⟩ := Path.splitOn_head '/' (spell (first :: rest) isDirectory).toList
  have starts := (List.cons.inj (pieces.symm.trans head)).1
  have is := (proper first List.mem_cons_self).component
  have name : first.toList ≠ [] ∧ first.toList ≠ ['.'] := by
    have kept := (Path.isComponent_iff first.toList is.1).mp (by rwa [String.ofList_toList])
    simpa using kept
  obtain ⟨_,path,_⟩ := Path.ofText_first _ first.toList starts name
  have slashes : (Path.ofText (spell (first :: rest) isDirectory)).slashes = 0 := by rw [path]
  calc Path.ofText (spell (first :: rest) isDirectory)
      = ⟨(Path.ofText (spell (first :: rest) isDirectory)).slashes,
          Path.componentsOf (spell (first :: rest) isDirectory).toList⟩ := rfl
    _ = ⟨0,first :: rest⟩ := by rw [slashes,components]

end Spelling

section Plain

variable {name : String} (plain : IsPlain name)
include plain

theorem IsPlain.filled : nameParts name ≠ [] := by
  obtain ⟨parts,isDirectory,filled,proper,rfl⟩ := plain
  rw [nameParts_spell parts isDirectory filled proper]
  exact filled

theorem IsPlain.spelled : name = spell (nameParts name) (name.endsWith "/") := by
  obtain ⟨parts,isDirectory,filled,proper,rfl⟩ := plain
  rw [nameParts_spell parts isDirectory filled proper,endsWith_spell parts isDirectory filled proper]

theorem IsPlain.staysInside (files : FileTree) (directory : Path) : staysInside files directory name = true := by
  obtain ⟨parts,isDirectory,filled,proper,rfl⟩ := plain
  have path : directory / spell parts isDirectory = ⟨directory.slashes,directory.parts ++ parts⟩ := by
    show directory.append (Path.ofText _) = _
    rw [ofText_spell parts isDirectory filled proper]
    rfl
  have noDots : ".." ∉ parts := fun member => (proper _ member).noDots rfl
  unfold Archive.staysInside placeOf Path.normalize
  rw [path,List.isPrefixOf_iff_prefix,enter_stack,enter_stack,List.foldl_append,List.foldl_append,List.foldl_append,
    foldl_enter_names _ parts noDots]
  exact List.prefix_append _ _

/-- Behind a directory, a plain name spells that directory and its own components. -/
theorem IsPlain.behind (first : String) (proper : Proper first) : IsPlain (first ++ "/" ++ name) ∧
    nameParts (first ++ "/" ++ name) = first :: nameParts name ∧
    (first ++ "/" ++ name).endsWith "/" = name.endsWith "/" := by
  obtain ⟨parts,isDirectory,filled,each,rfl⟩ := plain
  have every : ∀ part ∈ first :: parts, Proper part := List.forall_mem_cons.mpr ⟨proper,each⟩
  rw [spell_cons first parts isDirectory filled,nameParts_spell _ _ (by simp) every,
    nameParts_spell parts isDirectory filled each,endsWith_spell _ _ (by simp) every,
    endsWith_spell parts isDirectory filled each]
  exact ⟨⟨first :: parts,isDirectory,by simp,every,rfl⟩,rfl,rfl⟩

end Plain

/-- A name is plain if its components spell it. -/
theorem isPlain_iff (name : String) :
    IsPlain name ↔ nameParts name ≠ [] ∧ name = spell (nameParts name) (name.endsWith "/") :=
  ⟨fun plain => ⟨plain.filled,plain.spelled⟩,
    fun ⟨filled,spelled⟩ => ⟨nameParts name,name.endsWith "/",filled,proper_nameParts name,spelled⟩⟩

instance (name : String) : Decidable (IsPlain name) := decidable_of_iff' _ (isPlain_iff name)

section Clean

theorem mem_of_splitOn (separator : Char) (s piece : List Char) (member : piece ∈ Text.splitOn separator s) :
    ∀ c ∈ piece, c ∈ s := by
  induction s generalizing piece with
  | nil =>
    cases List.mem_singleton.mp member
    nofun
  | cons d s ih =>
    by_cases same : d = separator
    · simp only [Text.splitOn,same,beq_self_eq_true,if_true,List.mem_cons] at member
      obtain rfl | member := member
      · nofun
      · exact fun c inside => List.mem_cons_of_mem d (ih piece member c inside)
    · obtain ⟨first,pieces,split,next⟩ := Path.splitOn_cons separator d s same
      rw [next,List.mem_cons] at member
      obtain rfl | member := member
      · refine List.forall_mem_cons.mpr ⟨List.mem_cons_self,fun c inside => ?_⟩
        exact List.mem_cons_of_mem d (ih first (split ▸ List.mem_cons_self) c inside)
      · exact fun c inside => List.mem_cons_of_mem d (ih piece (split ▸ List.mem_cons_of_mem first member) c inside)

/-- The components of a name have its characters alone. -/
theorem mem_of_nameParts (name part : String) (member : part ∈ nameParts name) : ∀ c ∈ part.toList, c ∈ name.toList := by
  obtain ⟨mapped,_⟩ := List.mem_filter.mp member
  obtain ⟨piece,split,rfl⟩ := List.mem_map.mp mapped
  rw [String.toList_ofList]
  exact mem_of_splitOn '/' name.toList piece split

theorem nameOf_clean (utf8 : Bool) (bytes : ByteArray) : Char.ofNat 0 ∉ (nameOf utf8 bytes).toList := by
  unfold nameOf
  intro null
  rw [String.toList_ofList] at null
  have kept := List.mem_takeWhile_imp null
  simp at kept

theorem readDirectory_clean (data : ByteArray) (shift stop fuel position : Nat) (members : List Member)
    (ok : readDirectory data shift stop fuel position = .ok members) : ∀ m ∈ members, Char.ofNat 0 ∉ m.name.toList := by
  induction fuel generalizing position members with
  | zero => cases ok; nofun
  | succ fuel ih =>
    unfold readDirectory at ok
    split at ok
    · cases ok; nofun
    · split at ok
      · cases ok
      · split at ok
        · cases ok
        · obtain ⟨rest,later,ok⟩ := except_bind_success _ _ _ ok
          cases ok
          exact List.forall_mem_cons.mpr ⟨nameOf_clean _ _,ih _ rest later⟩

/-- No name in an archive has a zero byte. -/
theorem unpack_clean (data : ByteArray) (members : List Member) (ok : unpack data = .ok members) :
    ∀ m ∈ members, Char.ofNat 0 ∉ m.name.toList := by
  unfold unpack at ok
  split at ok
  · cases ok
  · dsimp only at ok
    split at ok
    · cases ok
    · exact readDirectory_clean _ _ _ _ _ members ok

end Clean

end Pagewright.Archive
