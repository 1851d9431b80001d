import Mathlib.Data.List.Nodup
import Mathlib.Data.String.Basic
import Pagewright.Proofs.Archive.Extraction

/-! What is found below a directory, seen from that directory. It is the same list wherever the directory is, so paths
come in the order of the names alone. -/
namespace Pagewright

namespace Path

theorem compareLex_trans (a b c : List String) (first : le.compareLex a b = true) (second : le.compareLex b c = true) :
    le.compareLex a c = true := by
  induction a generalizing b c with
  | nil => rfl
  | cons x xs ih =>
    cases b with
    | nil => cases first
    | cons y ys =>
      cases c with
      | nil => cases second
      | cons z zs =>
        unfold le.compareLex at first second ⊢
        simp only [beq_iff_eq] at first second ⊢
        split at first
        next same =>
          subst same
          split at second
          next same => rw [if_pos same]; exact ih ys zs first second
          next different => rw [if_neg different]; exact second
        next different =>
          have less := of_decide_eq_true first
          split at second
          next same => subst same; rw [if_neg different]; exact first
          next =>
            have lesser := String.lt_trans less (of_decide_eq_true second)
            rw [if_neg (ne_of_lt lesser)]
            exact decide_eq_true lesser

theorem compareLex_total (a b : List String) : (le.compareLex a b || le.compareLex b a) = true := by
  induction a generalizing b with
  | nil => rfl
  | cons x xs ih =>
    cases b with
    | nil => rfl
    | cons y ys =>
      unfold le.compareLex
      rcases lt_trichotomy x y with less | same | greater
      · simp [less,ne_of_lt less]
      · subst same
        simpa using ih ys
      · simp [greater,ne_of_lt greater]

theorem compareLex_antisymm (a b : List String) (first : le.compareLex a b = true) (second : le.compareLex b a = true) :
    a = b := by
  induction a generalizing b with
  | nil =>
    cases b with
    | nil => rfl
    | cons y ys => cases second
  | cons x xs ih =>
    cases b with
    | nil => cases first
    | cons y ys =>
      unfold le.compareLex at first second
      simp only [beq_iff_eq] at first second
      split at first
      next same =>
        subst same
        rw [if_pos rfl] at second
        rw [ih ys first second]
      next different =>
        rw [if_neg (Ne.symm different)] at second
        exact absurd (of_decide_eq_true second) (String.lt_asymm (of_decide_eq_true first))

/-- A common start does not matter for the order. -/
theorem compareLex_append (start a b : List String) :
    le.compareLex (start ++ a) (start ++ b) = le.compareLex a b := by
  induction start with
  | nil => rfl
  | cons x xs ih => simpa [le.compareLex] using ih

end Path

namespace FileTree
open Archive (ListedOnce listed_stands)

variable (t : FileTree)

/-- What is listed below a place, with the names from there. -/
def below (place : Place) : List (List String × Entry) :=
  (t.entries.filter fun e => isBelow place e.1).map fun e => (e.1.drop place.length,e.2)

/-- What is found under names, at the path that it has from a directory. -/
def placed (p : Path) (found : List String × Entry) : Path × Entry := (⟨p.slashes,p.parts ++ found.1⟩,found.2)

/-- The order in which things below a directory come. -/
def inOrder (found : List (List String × Entry)) : List (List String × Entry) :=
  found.mergeSort fun a b => Path.le.compareLex a.1 b.1

theorem perm_inOrder (found : List (List String × Entry)) : (inOrder found).Perm found := List.mergeSort_perm _ _

theorem placed_inOrder (p : Path) (found : List (List String × Entry)) :
    (found.map (placed p)).mergeSort (fun a b => Path.le a.1 b.1) = (inOrder found).map (placed p) := by
  refine (List.map_mergeSort fun a _ b _ => ?_).symm
  exact (Path.compareLex_append p.parts a.1 b.1).symm

/-- The order does not depend on how things are listed, if each name is there once. -/
theorem inOrder_eq_of_perm (found found' : List (List String × Entry)) (perm : found.Perm found')
    (once : (found.map (·.1)).Nodup) : inOrder found = inOrder found' := by
  have sorted (found : List (List String × Entry)) : (inOrder found).Pairwise fun a b =>
      Path.le.compareLex a.1 b.1 = true :=
    List.pairwise_mergeSort (fun a b c => Path.compareLex_trans a.1 b.1 c.1) (fun a b => Path.compareLex_total a.1 b.1)
      found
  have same : (inOrder found).Perm (inOrder found') :=
    (perm_inOrder found).trans (perm.trans (perm_inOrder found').symm)
  refine List.Perm.eq_of_pairwise (fun a b here there first second => ?_) (sorted found) (sorted found') same
  refine List.inj_on_of_nodup_map once ((perm_inOrder found).mem_iff.mp here) ?_
    (Path.compareLex_antisymm a.1 b.1 first second)
  exact perm.mem_iff.mpr ((perm_inOrder found').mem_iff.mp there)

theorem listedOnce_inside (above : Place) (rest : List String) (once : ListedOnce above t) :
    ListedOnce (above ++ rest) t := by
  unfold ListedOnce at *
  have within : ∀ place, isBelow (above ++ rest) place = true → isBelow above place = true := by
    intro place below
    obtain ⟨name,more,rfl⟩ := (isBelow_iff _ _).mp below
    rw [List.append_assoc]
    exact isBelow_append _ _ (by simp)
  have narrowed : (t.entries.map (·.1)).filter (isBelow (above ++ rest)) =
      ((t.entries.map (·.1)).filter (isBelow above)).filter (isBelow (above ++ rest)) := by
    rw [List.filter_filter]
    refine List.filter_congr fun place _ => ?_
    cases below : isBelow (above ++ rest) place with
    | false => rfl
    | true => rw [within place below]; rfl
  rw [narrowed]
  exact once.filter _

section Listed

variable (place : Place)

theorem below_names (e : List String × Entry) (member : e ∈ t.below place) : e.1 ≠ [] := by
  obtain ⟨listed,kept,rfl⟩ := List.mem_map.mp member
  obtain ⟨name,rest,split⟩ := (isBelow_iff _ _).mp (List.mem_filter.mp kept).2
  simp [split]

variable (once : ListedOnce place t)
include once

theorem mem_below (names : List String) (entry : Entry) :
    (names,entry) ∈ t.below place ↔ names ≠ [] ∧ t.find? (place ++ names) = some entry := by
  constructor
  · intro member
    refine ⟨t.below_names place _ member,?_⟩
    obtain ⟨listed,kept,same⟩ := List.mem_map.mp member
    obtain ⟨inside,below⟩ := List.mem_filter.mp kept
    have standing := listed_stands _ t once listed inside below
    obtain ⟨name,rest,split⟩ := (isBelow_iff _ _).mp below
    obtain ⟨rfl,rfl⟩ := Prod.mk.inj same
    rw [split] at standing ⊢
    rw [List.drop_left]
    exact standing
  · rintro ⟨proper,standing⟩
    have looked : t.entries.lookup (place ++ names) = some entry := by simpa [find?,proper] using standing
    obtain ⟨before,after,same,_⟩ := List.lookup_eq_some_iff.mp looked
    refine List.mem_map.mpr ⟨(place ++ names,entry),List.mem_filter.mpr ⟨by rw [same]; simp,?_⟩,by simp⟩
    exact isBelow_append _ _ proper

theorem below_nodup : ((t.below place).map (·.1)).Nodup := by
  unfold ListedOnce at once
  rw [List.filter_map] at once
  unfold below
  rw [List.map_map]
  have names := List.Nodup.map_on (f := (·.drop place.length)) ?_ once
  · rw [List.map_map] at names
    exact names
  -- A place below the directory is known by what comes after the directory.
  intro first member second member' same
  have split (other : Place) (member : other ∈ (t.entries.filter (isBelow place ∘ fun e => e.1)).map (·.1)) :
      ∃ rest, other = place ++ rest := by
    obtain ⟨e,kept,rfl⟩ := List.mem_map.mp member
    obtain ⟨name,rest,split⟩ := (isBelow_iff _ _).mp (List.mem_filter.mp kept).2
    exact ⟨name :: rest,split⟩
  obtain ⟨rest,rfl⟩ := split first member
  obtain ⟨more,rfl⟩ := split second member'
  simpa using same

end Listed

theorem isChild_iff (above place : Place) :
    (!place.isEmpty && place.dropLast == above) = true ↔ ∃ name, place = above ++ [name] := by
  simp only [Bool.and_eq_true,Bool.not_eq_true',List.isEmpty_eq_false_iff,beq_iff_eq]
  constructor
  · rintro ⟨proper,rfl⟩
    exact ⟨place.getLast proper,(List.dropLast_append_getLast proper).symm⟩
  · rintro ⟨name,rfl⟩
    simp

theorem isBelow_single (above place : Place) :
    (isBelow above place && (place.drop above.length).length == 1) = true ↔ ∃ name, place = above ++ [name] := by
  rw [Bool.and_eq_true,isBelow_iff,beq_iff_eq]
  constructor
  · rintro ⟨⟨name,rest,rfl⟩,single⟩
    rw [List.drop_left,List.length_cons,Nat.add_eq_right,List.length_eq_zero_iff] at single
    exact ⟨name,by rw [single]⟩
  · rintro ⟨name,rfl⟩
    exact ⟨⟨name,[],rfl⟩,by simp⟩

section Directory

variable (p : Path) (leads : t.LeadsToDirectory p)
include leads

theorem descendants_below :
    t.descendants p = .ok ((inOrder (t.below (destination t.current p))).map (placed p)) := by
  have listed : (t.entries.filter fun e => isBelow (destination t.current p) e.1).map
      (fun e => ((⟨p.slashes,p.parts ++ e.1.drop (destination t.current p).length⟩ : Path),e.2)) =
        (t.below (destination t.current p)).map (placed p) := by
    unfold below
    rw [List.map_map]
    rfl
  rw [← placed_inOrder,← listed]
  unfold descendants
  rw [leads.1]
  dsimp only
  rw [leads.2]
  rfl

theorem children_below : t.children p =
    .ok (((t.below (destination t.current p)).filter fun e => e.1.length == 1).map (placed p)) := by
  have listed : (t.childrenAt (destination t.current p)).map (fun e => (p.child (e.1.getLast?.getD ""),e.2)) =
      ((t.below (destination t.current p)).filter fun e => e.1.length == 1).map (placed p) := by
    unfold below childrenAt
    rw [List.filter_map,List.filter_filter,List.map_map]
    have same : t.entries.filter (fun e => !e.1.isEmpty && e.1.dropLast == destination t.current p) =
        t.entries.filter fun e => ((fun e : List String × Entry => e.1.length == 1) ∘
          fun e : Place × Entry => (e.1.drop (destination t.current p).length,e.2)) e &&
            isBelow (destination t.current p) e.1 := by
      refine List.filter_congr fun e _ => ?_
      rw [Bool.eq_iff_iff,isChild_iff,Bool.and_comm]
      exact (isBelow_single _ _).symm
    rw [same]
    refine List.map_congr_left fun e member => ?_
    obtain ⟨name,child⟩ := (isBelow_single _ _).mp ((Bool.and_comm _ _).trans (List.mem_filter.mp member).2)
    simp [placed,Path.child,child]
  rw [← listed]
  simp only [children,leads.1,leads.2,bind,Except.bind]
  rfl

end Directory

section Looking

theorem resolve_fits (here : Place) (parts : List String) (fits : ∀ part ∈ parts, Fits part) :
    t.resolve here parts ≠ .error .nameTooLong := by
  induction parts generalizing here with
  | nil => nofun
  | cons part rest ih =>
    have short : ¬ maxName < part.utf8ByteSize := Nat.not_lt.mpr (fits part List.mem_cons_self)
    have further (next : Place) := ih next fun other member => fits other (List.mem_cons_of_mem part member)
    unfold resolve
    split
    · nofun
    · nofun
    · rw [if_neg short]
      split
      · exact further _
      · exact further _

variable (wellFormed : t.WellFormed) (p : Path) (leads : t.LeadsToDirectory p) (names : List String)
  (plain : ∀ name ∈ names, Plain name)
include wellFormed leads plain

/-- Names lead to what stands below a directory; where nothing does, they are not found at worst. -/
theorem locate_below : t.locate ⟨p.slashes,p.parts ++ names⟩ = .ok (destination t.current p ++ names) ∨
    t.find? (destination t.current p ++ names) = none ∧
      ∃ kind text, kind ≠ .nameTooLong ∧ t.locate ⟨p.slashes,p.parts ++ names⟩ = .error (.file kind text) := by
  have located := locate_append t p leads names fun name member => (plain name member).noNull
  cases standing : t.find? (destination t.current p ++ names) with
  | some entry =>
    exact .inl (locate_standing t wellFormed p leads names
      (fun name member => ⟨(plain name member).noDots,(plain name member).noNull⟩) entry standing)
  | none =>
    cases resolved : t.resolve (destination t.current p) names with
    | ok place =>
      have same := (resolve_success t _ _ _ resolved).1
      rw [foldl_enter_names _ _ fun dots => (plain _ dots).noDots rfl] at same
      rw [resolved,same] at located
      exact .inl located
    | error kind =>
      rw [resolved] at located
      refine .inr ⟨rfl,kind,_,fun long => ?_,located⟩
      exact t.resolve_fits _ names (fun name member => (plain name member).fits) (long ▸ resolved)

theorem look_below : t.look ⟨p.slashes,p.parts ++ names⟩ = .ok (t.find? (destination t.current p ++ names)) := by
  rcases t.locate_below wellFormed p leads names plain with located | ⟨none,kind,text,short,located⟩
  · unfold look
    rw [located]
  · unfold look
    rw [located,none]
    cases kind <;> first | rfl | exact absurd rfl short

theorem descendants_nowhere (noDirectory : t.find? (destination t.current p ++ names) ≠ some .directory) :
    t.descendants ⟨p.slashes,p.parts ++ names⟩ = .ok [] := by
  rcases t.locate_below wellFormed p leads names plain with located | ⟨_,kind,text,short,located⟩
  · unfold descendants
    rw [located]
    dsimp only
    split
    next standing => exact absurd standing noDirectory
    next => rfl
  · unfold descendants
    rw [located]
    cases kind <;> first | rfl | exact absurd rfl short

end Looking

end FileTree

end Pagewright
