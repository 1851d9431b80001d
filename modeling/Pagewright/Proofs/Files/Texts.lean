import Mathlib.Data.List.TakeWhile
import Pagewright.Path

/-! Paths written as texts and read again. A name without slashes is a path of one component, and the first
component of any relative path ends at its first slash. A path that a text writes has components that are names, and
every path of names is the one that its text writes. -/
namespace Pagewright.Path

theorem splitOn_cons (separator c : Char) (s : List Char) (other : c ≠ separator) :
    ∃ piece pieces, Text.splitOn separator s = piece :: pieces ∧
      Text.splitOn separator (c :: s) = (c :: piece) :: pieces := by
  have nonempty : Text.splitOn separator s ≠ [] := by
    cases s with
    | nil => simp [Text.splitOn]
    | cons d s =>
      simp only [Text.splitOn]
      split
      · simp
      · split <;> simp
  cases split : Text.splitOn separator s with
  | nil => exact absurd split nonempty
  | cons piece pieces => exact ⟨piece,pieces,rfl,by simp [Text.splitOn,other,split]⟩

/-- The first piece of a text ends at the first separator. -/
theorem splitOn_head (separator : Char) (s : List Char) :
    ∃ pieces, Text.splitOn separator s = s.takeWhile (· != separator) :: pieces ∧
      (separator ∉ s → pieces = []) := by
  induction s with
  | nil => exact ⟨[],rfl,fun _ => rfl⟩
  | cons c s ih =>
    by_cases same : c = separator
    · refine ⟨Text.splitOn separator s,by simp [Text.splitOn,same],?_⟩
      intro absent
      exact absurd (same ▸ List.mem_cons_self) absent
    · obtain ⟨piece,pieces,split,next⟩ := splitOn_cons separator c s same
      obtain ⟨others,first,only⟩ := ih
      obtain ⟨rfl,rfl⟩ := List.cons.inj (split.symm.trans first)
      refine ⟨pieces,by simp [next,same],?_⟩
      exact fun absent => only fun member => absent (List.mem_cons_of_mem c member)

/-- A text that starts with a character of a name is a relative path, and its first component ends at
the first slash. -/
theorem ofText_first (text : String) (first : List Char)
    (starts : first = text.toList.takeWhile (· != '/')) (name : first ≠ [] ∧ first ≠ ['.']) :
    ∃ more, ofText text = ⟨0,String.ofList first :: more⟩ ∧ ('/' ∉ text.toList → more = []) := by
  obtain ⟨pieces,split,only⟩ := splitOn_head '/' text.toList
  have relative : text.toList.takeWhile (· == '/') = [] := by
    cases chars : text.toList with
    | nil => rfl
    | cons c s =>
      have other : c ≠ '/' := by
        rintro rfl
        simp [chars,starts] at name
      simp [other]
  rw [← starts] at split
  refine ⟨(pieces.filter fun part => !part.isEmpty && part != ['.']).map String.ofList,?_,?_⟩
  · simp only [ofText,relative,componentsOf,split]
    simp [name]
  · intro absent
    rw [only absent]
    rfl

theorem takeWhile_name (s : List Char) (absent : '/' ∉ s) : s.takeWhile (· != '/') = s := by
  rw [List.takeWhile_eq_self_iff]
  intro c member
  simp only [bne_iff_ne,ne_eq]
  rintro rfl
  exact absent member

theorem ofText_name (name : String) (absent : '/' ∉ name.toList) (proper : name ≠ "" ∧ name ≠ ".") :
    ofText name = ⟨0,[name]⟩ := by
  obtain ⟨more,path,only⟩ := ofText_first name name.toList (takeWhile_name _ absent).symm
    ⟨fun empty => proper.1 (String.toList_inj.mp empty),
      fun dot => proper.2 (String.toList_inj.mp dot)⟩
  rw [path,only absent,String.ofList_toList]

/-- A component that stays as it is in the text of a path. -/
def IsComponent (part : String) : Prop := '/' ∉ part.toList ∧ part ≠ "" ∧ part ≠ "."

instance (part : String) : Decidable (IsComponent part) :=
  inferInstanceAs (Decidable ('/' ∉ part.toList ∧ part ≠ "" ∧ part ≠ "."))

structure Written (p : Path) : Prop where
  slashes : p.slashes ≤ 2
  parts : ∀ part ∈ p.parts, IsComponent part

theorem splitOn_eq (separator : Char) (s : List Char) : Text.splitOn separator s = s.splitOn separator := by
  induction s with
  | nil => rfl
  | cons c s ih =>
    rw [Text.splitOn,ih,List.splitOn,List.splitOn,List.splitOnP_cons_eq_if_modifyHead]
    cases pieces : List.splitOnP (· == separator) s with
    | nil => exact absurd pieces (List.splitOnP_ne_nil _ s)
    | cons piece pieces => rfl

theorem isComponent_iff (part : List Char) (whole : '/' ∉ part) :
    IsComponent (String.ofList part) ↔ (!part.isEmpty && part != ['.']) = true := by
  have empty : String.ofList part = "" ↔ part = [] := by
    rw [← String.toList_inj,String.toList_ofList]
    rfl
  have dot : String.ofList part = "." ↔ part = ['.'] := by
    rw [← String.toList_inj,String.toList_ofList]
    rfl
  simp [IsComponent,whole,empty,dot]

theorem mem_splitOn (separator : Char) (s piece : List Char) (member : piece ∈ Text.splitOn separator s) :
    separator ∉ piece := by
  induction s generalizing piece with
  | nil =>
    cases List.mem_singleton.mp member
    exact List.not_mem_nil
  | cons c s ih =>
    by_cases same : c = separator
    · simp only [Text.splitOn,same,beq_self_eq_true,if_true,List.mem_cons] at member
      obtain rfl | member := member
      · exact List.not_mem_nil
      · exact ih piece member
    · obtain ⟨first,pieces,split,next⟩ := splitOn_cons separator c s same
      rw [next,List.mem_cons] at member
      obtain rfl | member := member
      · have absent := ih first (split ▸ List.mem_cons_self)
        simp [absent,Ne.symm same]
      · exact ih piece (split ▸ List.mem_cons_of_mem first member)

theorem written_ofText (text : String) : (ofText text).Written := by
  refine ⟨?_,fun part member => ?_⟩
  · simp only [ofText]
    split
    · omega
    · split <;> omega
  · obtain ⟨piece,kept,rfl⟩ := List.mem_map.mp member
    obtain ⟨split,proper⟩ := List.mem_filter.mp kept
    exact (isComponent_iff piece (mem_splitOn '/' text.toList piece split)).mpr proper

theorem componentsOf_slash (s : List Char) : componentsOf ('/' :: s) = componentsOf s := by
  simp [componentsOf,Text.splitOn]

theorem componentsOf_slashes (n : Nat) (s : List Char) :
    componentsOf (List.replicate n '/' ++ s) = componentsOf s := by
  induction n with
  | zero => rfl
  | succ n ih => rw [List.replicate_succ,List.cons_append,componentsOf_slash,ih]

theorem componentsOf_join (parts : List String) (components : ∀ part ∈ parts, IsComponent part) :
    componentsOf ("/".intercalate parts).toList = parts := by
  rcases parts.eq_nil_or_concat with rfl | ⟨_,_,rfl⟩
  · rfl
  · rename_i first last
    have split : Text.splitOn '/' ("/".intercalate (first.concat last)).toList =
        (first.concat last).map String.toList := by
      rw [splitOn_eq,String.toList_intercalate]
      refine List.splitOn_intercalate '/' ?_ (by simp)
      intro chars member
      obtain ⟨part,inside,rfl⟩ := List.mem_map.mp member
      exact (components part inside).1
    have all : ((first.concat last).map String.toList).filter
        (fun part => !part.isEmpty && part != ['.']) = (first.concat last).map String.toList := by
      rw [List.filter_eq_self]
      intro chars member
      obtain ⟨part,inside,rfl⟩ := List.mem_map.mp member
      have component := components part inside
      exact (isComponent_iff part.toList component.1).mp (by rwa [String.ofList_toList])
    rw [componentsOf,split,all,List.map_map]
    simp [Function.comp_def]

theorem text_toList (p : Path) :
    p = ⟨0,[]⟩ ∨ p.text.toList =
      List.replicate p.slashes '/' ++ ("/".intercalate p.parts).toList := by
  by_cases bare : p.slashes = 0 ∧ p.parts = []
  · obtain ⟨slashes,parts⟩ := p
    obtain ⟨rfl,rfl⟩ := bare
    exact .inl rfl
  · refine .inr ?_
    have rooted : (p.slashes == 0 && p.parts.isEmpty) = false := by
      simpa using bare
    rw [text,rooted]
    simp

/-- The components of a path do not start with a slash. -/
theorem join_start (parts : List String) (components : ∀ part ∈ parts, IsComponent part) :
    ("/".intercalate parts).toList.takeWhile (· == '/') = [] := by
  cases parts with
  | nil => rfl
  | cons part rest =>
    obtain ⟨whole,proper,_⟩ := components part List.mem_cons_self
    cases chars : part.toList with
    | nil => exact absurd (String.toList_inj.mp chars) proper
    | cons c more =>
      have other : c ≠ '/' := by
        rintro rfl
        simp [chars] at whole
      cases rest with
      | nil => simp [chars,other]
      | cons => simp [String.toList_intercalate,chars,other]

theorem ofText_text (p : Path) (written : p.Written) : ofText p.text = p := by
  obtain rfl | chars := text_toList p
  · rfl
  · have lead : (p.text.toList.takeWhile (· == '/')).length = p.slashes := by
      rw [chars,List.takeWhile_append_of_pos (by simp),join_start p.parts written.parts]
      simp
    have slashes : (if p.slashes == 0 then 0 else if p.slashes == 2 then 2 else 1) = p.slashes := by
      have bound := written.slashes
      simp only [beq_iff_eq]
      split
      · omega
      · split <;> omega
    rw [ofText,lead,slashes,chars,componentsOf_slashes,componentsOf_join p.parts written.parts]

theorem append_name (p : Path) (name : String) (component : IsComponent name) :
    p / name = ⟨p.slashes,p.parts ++ [name]⟩ := by
  show p.append (ofText name) = _
  rw [ofText_name name component.1 component.2]
  rfl

theorem written_child (p : Path) (written : p.Written) (name : String) (component : IsComponent name) :
    (p.child name).Written := by
  refine ⟨written.slashes,fun part member => ?_⟩
  obtain member | member := List.mem_append.mp member
  · exact written.parts part member
  · exact List.mem_singleton.mp member ▸ component

theorem written_join (p : Path) (written : p.Written) (text : String) : (p / text).Written := by
  have other := written_ofText text
  show (p.append (ofText text)).Written
  unfold append
  split
  · exact other
  · exact ⟨written.slashes,fun part member => (List.mem_append.mp member).elim (written.parts part) (other.parts part)⟩

end Pagewright.Path
