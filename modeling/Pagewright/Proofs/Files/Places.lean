import Mathlib.Data.List.Induction
import Pagewright.Files.Tree
import Pagewright.Proofs.Except

/-! Where paths lead. A path that is found leads to the place that its components spell, double dots
taking one back; so the place depends on the path and the current directory alone. -/
namespace Pagewright.FileTree

/-- A name that a directory entry can have. -/
def Fits (name : String) : Prop := name.utf8ByteSize ≤ maxName

instance (name : String) : Decidable (Fits name) := inferInstanceAs (Decidable (_ ≤ _))

/-- One component further. -/
def enter (here : Place) (part : String) : Place :=
  if part == ".." then here.dropLast else here ++ [part]

/-- The place that a path leads to, whatever stands on the way. -/
def destination (current : Place) (p : Path) : Place :=
  p.parts.foldl enter (if p.isAbsolute then [] else current)

theorem enter_name (here : Place) (part : String) (name : part ≠ "..") :
    enter here part = here ++ [part] := by simp [enter,name]

theorem enter_dots (here : Place) : enter here ".." = here.dropLast := by simp [enter]

theorem foldl_enter_names (here : Place) (names : List String) (noDots : ".." ∉ names) :
    names.foldl enter here = here ++ names := by
  induction names generalizing here with
  | nil => simp
  | cons name rest ih =>
    rw [List.foldl_cons,ih _ fun member => noDots (List.mem_cons_of_mem name member),enter_name]
    · simp
    · exact fun same => noDots (same ▸ List.mem_cons_self)

theorem destination_append (current : Place) (p : Path) (more : List String) :
    destination current ⟨p.slashes,p.parts ++ more⟩ = more.foldl enter (destination current p) := by
  simp [destination,Path.isAbsolute]

section Resolving

variable (t : FileTree)

theorem resolve_cons_success (here : Place) (part : String) (rest : List String) (place : Place)
    (ok : t.resolve here (part :: rest) = .ok place) :
    t.find? here = some .directory ∧ Fits part ∧
      t.resolve (enter here part) rest = .ok place := by
  simp only [resolve] at ok
  split at ok
  · cases ok
  · cases ok
  next standing =>
    split at ok
    · cases ok
    next short =>
      refine ⟨standing,Nat.le_of_not_lt short,?_⟩
      unfold enter
      split at ok
      next dots => rw [if_pos dots]; exact ok
      next name => rw [if_neg name]; exact ok

theorem resolve_success (here : Place) (parts : List String) (place : Place)
    (ok : t.resolve here parts = .ok place) :
    place = parts.foldl enter here ∧ ∀ part ∈ parts, Fits part := by
  induction parts generalizing here with
  | nil =>
    cases ok
    exact ⟨rfl,fun part member => by cases member⟩
  | cons part rest ih =>
    obtain ⟨_,short,ok⟩ := resolve_cons_success t here part rest place ok
    obtain ⟨same,others⟩ := ih _ ok
    exact ⟨same,List.forall_mem_cons.mpr ⟨short,others⟩⟩

theorem resolve_append_success (here : Place) (parts more : List String) (place : Place)
    (ok : t.resolve here (parts ++ more) = .ok place) :
    ∃ middle, t.resolve here parts = .ok middle ∧ t.resolve middle more = .ok place := by
  induction parts generalizing here with
  | nil => exact ⟨here,rfl,ok⟩
  | cons part rest ih =>
    obtain ⟨standing,short,ok⟩ := resolve_cons_success t here part _ place ok
    obtain ⟨middle,reached,ok⟩ := ih _ ok
    refine ⟨middle,?_,ok⟩
    rw [← reached,resolve,standing]
    simp only [Nat.not_lt.mpr (show _ ≤ maxName from short),if_false,enter]
    split <;> rfl

theorem resolve_append (here middle : Place) (parts more : List String)
    (reached : t.resolve here parts = .ok middle) :
    t.resolve here (parts ++ more) = t.resolve middle more := by
  induction parts generalizing here with
  | nil => cases reached; rfl
  | cons part rest ih =>
    obtain ⟨standing,short,reached⟩ := resolve_cons_success t here part rest middle reached
    have next := ih _ reached
    rw [List.cons_append,resolve,standing,← next]
    simp only [Nat.not_lt.mpr (show _ ≤ maxName from short),if_false,enter]
    split <;> rfl

theorem locate_success (p : Path) (place : Place) (ok : t.locate p = .ok place) :
    t.resolve (if p.isAbsolute then [] else t.current) p.parts = .ok place := by
  unfold locate at ok
  split at ok
  · cases ok
  · cases resolved : t.resolve (if p.isAbsolute then [] else t.current) p.parts with
    | error fault => rw [resolved] at ok; cases ok
    | ok found => rw [resolved] at ok; cases ok; rfl

/-- Locating a path in a form that evaluates: the characters of its components as lists. -/
theorem locate_chars (p : Path) : t.locate p =
    if p.parts.any fun part => part.toList.any (· == Char.ofNat 0) then
      .error (.badValue "embedded null byte")
    else (t.resolve (if p.isAbsolute then [] else t.current) p.parts).mapError
      (Fault.file · p.text) := by
  have same (part : String) :
      part.contains (Char.ofNat 0) = part.toList.any (· == Char.ofNat 0) := by
    rw [String.contains_char_eq,List.any_beq']
    simp
  simp only [locate,same]

/-- A path that is found leads to its destination, and its components are short. -/
theorem locate_place (p : Path) (place : Place) (ok : t.locate p = .ok place) :
    place = destination t.current p ∧ ∀ part ∈ p.parts, Fits part :=
  resolve_success t _ _ _ (locate_success t p place ok)

/-- On the way of a path that is found stand directories. -/
theorem locate_through (slashes : Nat) (parts : List String) (part : String) (more : List String)
    (place : Place) (ok : t.locate ⟨slashes,parts ++ part :: more⟩ = .ok place) :
    t.find? (destination t.current ⟨slashes,parts⟩) = some .directory := by
  obtain ⟨here,reached,ok⟩ := resolve_append_success t _ _ _ _ (locate_success t _ _ ok)
  obtain ⟨same,_⟩ := resolve_success t _ _ _ reached
  obtain ⟨standing,_,_⟩ := resolve_cons_success t _ _ _ _ ok
  rw [same] at standing
  exact standing

end Resolving

/-- Whatever stands in a tree stands in a directory, under a name that is not too long. -/
def WellFormed (t : FileTree) : Prop :=
  ∀ place name entry, t.find? (place ++ [name]) = some entry →
    t.find? place = some .directory ∧ Fits name

theorem child_inj (here : Place) (name other : String) (same : here ++ [name] = here ++ [other]) :
    name = other := (List.cons.inj (List.append_cancel_left same)).1

theorem isBelow_iff (above place : Place) :
    isBelow above place = true ↔ ∃ name rest, place = above ++ name :: rest := by
  simp only [isBelow,Bool.and_eq_true,List.isPrefixOf_iff_prefix,bne_iff_ne]
  constructor
  · rintro ⟨⟨rest,rfl⟩,proper⟩
    cases rest with
    | nil => exact absurd (List.append_nil above).symm proper
    | cons name rest => exact ⟨name,rest,rfl⟩
  · rintro ⟨name,rest,rfl⟩
    exact ⟨List.prefix_append _ _,by simp⟩

theorem isBelow_append (above : Place) (rest : List String) (proper : rest ≠ []) :
    isBelow above (above ++ rest) = true := by
  cases rest with
  | nil => exact absurd rfl proper
  | cons name rest => exact (isBelow_iff _ _).mpr ⟨name,rest,rfl⟩

theorem isBelow_snoc (above place : Place) (name : String)
    (below : isBelow above (place ++ [name]) = true) : place = above ∨ isBelow above place = true := by
  obtain ⟨first,rest,split⟩ := (isBelow_iff _ _).mp below
  cases rest using List.reverseRecOn with
  | nil =>
    left
    exact (List.append_inj' split rfl).1
  | append_singleton rest last =>
    right
    rw [← List.cons_append,← List.append_assoc] at split
    exact (isBelow_iff _ _).mpr ⟨first,rest,(List.append_inj' split rfl).1⟩

/-- Nothing stands below what is no directory. -/
theorem find?_below (t : FileTree) (wellFormed : t.WellFormed) (above place : Place)
    (below : isBelow above place = true) (noDirectory : t.find? above ≠ some .directory) :
    t.find? place = none := by
  induction place using List.reverseRecOn with
  | nil =>
    obtain ⟨name,rest,split⟩ := (isBelow_iff _ _).mp below
    simp at split
  | append_singleton place name ih =>
    cases found : t.find? (place ++ [name]) with
    | none => rfl
    | some entry =>
      obtain ⟨parent,_⟩ := wellFormed place name entry found
      rcases isBelow_snoc above place name below with rfl | inside
      · exact absurd parent noDirectory
      · rw [ih inside] at parent
        cases parent

/-- What stands somewhere stands in a directory, however far above, and its name is short. -/
theorem stands_in (t : FileTree) (wellFormed : t.WellFormed) (above : Place) (name : String)
    (rest : List String) (entry : Entry) (found : t.find? (above ++ name :: rest) = some entry) :
    t.find? above = some .directory ∧ Fits name := by
  have inner : ∃ standing, t.find? (above ++ [name]) = some standing := by
    cases rest with
    | nil => exact ⟨entry,found⟩
    | cons next rest =>
      by_cases directory : t.find? (above ++ [name]) = some .directory
      · exact ⟨_,directory⟩
      · have below : isBelow (above ++ [name]) (above ++ name :: next :: rest) = true :=
          (isBelow_iff _ _).mpr ⟨next,rest,by simp⟩
        rw [find?_below t wellFormed _ _ below directory] at found
        cases found
  obtain ⟨standing,inner⟩ := inner
  exact wellFormed above name standing inner

/-- The way to what stands somewhere is found. -/
theorem resolve_standing (t : FileTree) (wellFormed : t.WellFormed) (here : Place)
    (names : List String) (noDots : ".." ∉ names) (entry : Entry)
    (found : t.find? (here ++ names) = some entry) : t.resolve here names = .ok (here ++ names) := by
  induction names generalizing here with
  | nil => rw [List.append_nil]; rfl
  | cons name rest ih =>
    obtain ⟨standing,short⟩ := stands_in t wellFormed here name rest entry found
    have further := ih (here ++ [name]) (fun member => noDots (List.mem_cons_of_mem name member))
      (by rw [List.append_assoc]; exact found)
    rw [List.append_assoc] at further
    have noDot : name ≠ ".." := fun same => noDots (same ▸ List.mem_cons_self)
    simpa [resolve,standing,Nat.not_lt.mpr short,noDot] using further

/-- A path that leads to a directory in a tree. -/
def LeadsToDirectory (t : FileTree) (p : Path) : Prop :=
  t.locate p = .ok (destination t.current p) ∧
    t.find? (destination t.current p) = some .directory

theorem locate_append (t : FileTree) (p : Path) (leads : t.LeadsToDirectory p) (names : List String)
    (noNull : ∀ name ∈ names, Char.ofNat 0 ∉ name.toList) :
    t.locate ⟨p.slashes,p.parts ++ names⟩ =
      (t.resolve (destination t.current p) names).mapError
        (Fault.file · (Path.text ⟨p.slashes,p.parts ++ names⟩)) := by
  obtain ⟨located,_⟩ := leads
  have reached := locate_success t p _ located
  have without : (names.any fun name => name.contains (Char.ofNat 0)) = false := by
    rw [List.any_eq_false]
    intro name member
    rw [String.contains_char_eq,decide_eq_true_iff]
    exact noNull name member
  unfold locate at located ⊢
  split at located
  · cases located
  next pathNull =>
    rw [List.any_append,without,Bool.or_false,if_neg pathNull]
    show Except.mapError _ (t.resolve (if p.isAbsolute then [] else t.current) (p.parts ++ names)) = _
    rw [resolve_append t _ _ _ _ reached]

/-- What a path passes are directories. -/
theorem leads_above (t : FileTree) (p : Path) (name : String) (place : Place)
    (ok : t.locate ⟨p.slashes,p.parts ++ [name]⟩ = .ok place) : t.LeadsToDirectory p := by
  refine ⟨?_,locate_through t p.slashes p.parts name [] place ok⟩
  obtain ⟨here,reached,_⟩ := resolve_append_success t _ _ _ _ (locate_success t _ _ ok)
  have same := (resolve_success t _ _ _ reached).1
  unfold locate at ok ⊢
  split at ok
  · cases ok
  next clean =>
    rw [List.any_append,Bool.or_eq_true,not_or] at clean
    rw [if_neg clean.1]
    change t.resolve (if p.isAbsolute then [] else t.current) p.parts = _ at reached
    rw [reached,same]
    rfl

/-- What stands below a directory is found by its names behind a path of the directory. -/
theorem locate_standing (t : FileTree) (wellFormed : t.WellFormed) (p : Path)
    (leads : t.LeadsToDirectory p) (names : List String)
    (plain : ∀ name ∈ names, name ≠ ".." ∧ Char.ofNat 0 ∉ name.toList) (entry : Entry)
    (found : t.find? (destination t.current p ++ names) = some entry) :
    t.locate ⟨p.slashes,p.parts ++ names⟩ = .ok (destination t.current p ++ names) := by
  have noDots : ".." ∉ names := fun member => (plain _ member).1 rfl
  rw [locate_append t p leads names fun name member => (plain name member).2,
    resolve_standing t wellFormed _ names noDots entry found]
  rfl

theorem lookup_filter (keep : Place → Bool) (entries : List (Place × Entry)) (place : Place) :
    (entries.filter fun e => keep e.1).lookup place =
      if keep place then entries.lookup place else none := by
  induction entries with
  | nil => simp
  | cons first rest ih =>
    obtain ⟨name,entry⟩ := first
    by_cases same : place = name
    · subst same
      cases kept : keep place with
      | true => simp [kept]
      | false => simpa [kept] using ih
    · have other : (place == name) = false := by simp [same]
      cases kept : keep name <;> simp [kept,List.lookup_cons,other,ih]

/-- What stands in a tree after a removal. -/
theorem find?_removeWhere (t : FileTree) (condition : Place → Bool) (place : Place) :
    (t.removeWhere condition).find? place =
      if place ≠ [] ∧ condition place = true then none else t.find? place := by
  unfold find? removeWhere
  rw [lookup_filter (fun place => !condition place)]
  cases place with
  | nil => simp
  | cons name rest => cases condition (name :: rest) <;> simp

theorem find?_put (t : FileTree) (place other : Place) (entry : Entry) (proper : place ≠ []) :
    (t.put place entry).find? other = if other = place then some entry else t.find? other := by
  split
  next same => rw [same]; exact find?_put_self t entry proper
  next different => exact find?_put_of_ne t entry different

theorem wellFormed_put (t : FileTree) (wellFormed : t.WellFormed) (here : Place) (name : String)
    (entry : Entry) (parent : t.find? here = some .directory) (short : Fits name)
    (kind : t.find? (here ++ [name]) = some .directory → entry = .directory) :
    (t.put (here ++ [name]) entry).WellFormed := by
  intro place child standing found
  rw [find?_put _ _ _ _ (by simp)] at found ⊢
  obtain ⟨stands,fits⟩ : t.find? place = some .directory ∧ Fits child := by
    split at found
    next same =>
      obtain ⟨rfl,last⟩ := List.append_inj' same rfl
      exact ⟨parent,by rw [List.cons.inj last |>.1]; exact short⟩
    next => exact wellFormed place child standing found
  refine ⟨?_,fits⟩
  split
  next same => rw [kind (same ▸ stands)]
  next => exact stands

/-- A tree is well formed where every entry stands in a directory and has a short name. -/
theorem wellFormed_of_entries (t : FileTree)
    (each : ∀ e ∈ t.entries, t.find? e.1.dropLast = some .directory ∧ ∀ name ∈ e.1.getLast?, Fits name) :
    t.WellFormed := by
  intro place name entry found
  have listed : t.entries.lookup (place ++ [name]) = some entry := by
    unfold find? at found
    rwa [if_neg (by simp)] at found
  obtain ⟨before,after,same,_⟩ := List.lookup_eq_some_iff.mp listed
  obtain ⟨parent,short⟩ := each (place ++ [name],entry) (by rw [same]; simp)
  rw [List.dropLast_concat] at parent
  exact ⟨parent,short name (by simp)⟩

/-- A removal that takes the inside of what it takes leaves the tree well formed. -/
theorem wellFormed_removeWhere (t : FileTree) (wellFormed : t.WellFormed) (condition : Place → Bool)
    (closed : ∀ place name entry, t.find? (place ++ [name]) = some entry → place ≠ [] →
      condition place = true → condition (place ++ [name]) = true) :
    (t.removeWhere condition).WellFormed := by
  intro place name entry found
  rw [find?_removeWhere] at found ⊢
  split at found
  · cases found
  next stays =>
    rw [if_neg fun removed => stays ⟨by simp,closed place name entry found removed.1 removed.2⟩]
    exact wellFormed place name entry found

end Pagewright.FileTree
