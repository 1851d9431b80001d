import Mathlib.Data.List.Infix
import Mathlib.Data.List.TakeWhile
import Pagewright.Proofs.Text.Marks

/-! Replacing and erasing without a bound on the number of steps. A pattern asks at every place of a text that is not
part of an earlier find, and what it finds is decided by the found text alone; so the places that are kept and the text
between them tell what a pass has done. -/
namespace Pagewright.Text

/-- What comes after a find is shorter than the text that the find was made in. -/
def Shortens (next : List Char → Option (List Char)) : Prop :=
  ∀ c s rest, next (c :: s) = some rest → rest.length ≤ s.length

/-- Enough fuel is as good as more of it, for a pass whose steps go on with later places of the text. -/
theorem pass_enough {α β : Type} (recognise : Recogniser α) (shortens : Shortens fun s => (recognise s).map Prod.snd)
    (pass : Nat → List Char → β) (nil : ∀ fuel more, pass fuel [] = pass more [])
    (step : ∀ fuel more c s, (recognise (c :: s) = none → pass fuel s = pass more s) →
      (∀ find, recognise (c :: s) = some find → pass fuel find.2 = pass more find.2) →
      pass (fuel + 1) (c :: s) = pass (more + 1) (c :: s))
    (s : List Char) (fuel more : Nat) (enough : s.length ≤ fuel) (plenty : s.length ≤ more) :
    pass fuel s = pass more s := by
  induction fuel generalizing s more with
  | zero =>
    obtain rfl := List.eq_nil_of_length_eq_zero (Nat.le_zero.mp enough)
    exact nil _ _
  | succ fuel ih =>
    cases s with
    | nil => exact nil _ _
    | cons c s =>
      cases more with
      | zero => cases plenty
      | succ more =>
        rw [List.length_cons] at enough plenty
        refine step fuel more c s (fun _ => ih s more (by omega) (by omega)) fun find found => ?_
        have shorter := shortens c s find.2 (by simp [found])
        exact ih find.2 more (by omega) (by omega)

section Substituting

variable (recognise : Recogniser (List Char)) (shortens : Shortens fun s => (recognise s).map Prod.snd)
include shortens

theorem substituteWithin_enough (s : List Char) (fuel more : Nat) (enough : s.length ≤ fuel)
    (plenty : s.length ≤ more) : substituteWithin recognise fuel s = substituteWithin recognise more s := by
  refine pass_enough recognise shortens _ (fun fuel more => ?_) (fun fuel more c s kept found => ?_) s fuel more enough
    plenty
  · cases fuel <;> cases more <;> rfl
  · rw [substituteWithin,substituteWithin]
    cases here : recognise (c :: s) with
    | none => simp only [kept here]
    | some find => simp only [found find here]

theorem substitute_found (c : Char) (s replacement rest : List Char)
    (found : recognise (c :: s) = some (replacement,rest)) :
    substitute recognise (c :: s) = replacement ++ substitute recognise rest := by
  have shorter := shortens c s rest (by simp [found])
  unfold substitute
  rw [List.length_cons,substituteWithin,found]
  exact congrArg _ (substituteWithin_enough recognise shortens rest _ _ shorter (Nat.le_refl _))

omit shortens in
theorem substitute_kept (c : Char) (s : List Char) (passed : recognise (c :: s) = none) :
    substitute recognise (c :: s) = c :: substitute recognise s := by
  unfold substitute
  rw [List.length_cons,substituteWithin,passed]

end Substituting

section Finding

variable {α : Type} (recognise : Recogniser α) (shortens : Shortens fun s => (recognise s).map Prod.snd)
include shortens

theorem findsWithin_enough (s : List Char) (fuel more : Nat) (enough : s.length ≤ fuel) (plenty : s.length ≤ more) :
    findsWithin recognise fuel s = findsWithin recognise more s := by
  refine pass_enough recognise shortens _ (fun fuel more => ?_) (fun fuel more c s kept found => ?_) s fuel more enough
    plenty
  · cases fuel <;> cases more <;> rfl
  · rw [findsWithin,findsWithin]
    cases here : recognise (c :: s) with
    | none => simp only [kept here]
    | some find => simp only [found find here]

theorem finds_found (c : Char) (s rest : List Char) (find : α) (found : recognise (c :: s) = some (find,rest)) :
    finds recognise (c :: s) = find :: finds recognise rest := by
  have shorter := shortens c s rest (by simp [found])
  unfold finds
  rw [List.length_cons,findsWithin,found]
  exact congrArg _ (findsWithin_enough recognise shortens rest _ _ shorter (Nat.le_refl _))

omit shortens in
/-- A piece of text is passed over if nothing is found at any of its places. -/
theorem finds_skip (skipped rest : List Char)
    (silent : ∀ s, s ≠ [] → s <:+ skipped → recognise (s ++ rest) = none) :
    finds recognise (skipped ++ rest) = finds recognise rest := by
  have passed := findsWithin_skip recognise skipped rest (skipped ++ rest).length (by simp) silent
  rw [finds,passed,List.length_append,Nat.add_sub_cancel_left,finds]

end Finding

section Erasing

variable (pattern : List Char → Option (List Char)) (shortens : Shortens pattern)

theorem erase_kept (c : Char) (s : List Char) (passed : pattern (c :: s) = none) :
    erase pattern (c :: s) = c :: erase pattern s :=
  substitute_kept _ c s (by rw [passed]; rfl)

include shortens

theorem erase_found (c : Char) (s rest : List Char) (found : pattern (c :: s) = some rest) :
    erase pattern (c :: s) = erase pattern rest := by
  refine substitute_found _ (fun c s rest finds => shortens c s rest ?_) c s [] rest (by rw [found]; rfl)
  simpa [Option.map_map,Function.comp_def] using finds

/-- A text is gone through find by find and, where there is none, character by character. -/
theorem erase_induct (motive : List Char → Prop) (nil : motive [])
    (found : ∀ c s rest, pattern (c :: s) = some rest → motive rest → motive (c :: s))
    (kept : ∀ c s, pattern (c :: s) = none → motive s → motive (c :: s)) (s : List Char) : motive s := by
  induction size : s.length using Nat.strong_induction_on generalizing s with
  | _ n ih =>
    cases s with
    | nil => exact nil
    | cons c s =>
      subst size
      cases here : pattern (c :: s) with
      | none => exact kept c s here (ih s.length (by simp) s rfl)
      | some rest =>
        have shorter := shortens c s rest here
        exact found c s rest here (ih rest.length (by simp; omega) rest rfl)

end Erasing

/-- A character that stands neither in a piece nor in what replaces it is not touched by the replacement. -/
theorem mem_replace (piece replacement s : List Char) (proper : piece ≠ []) (c : Char) (old : c ∉ piece)
    (new : c ∉ replacement) : c ∈ replace piece replacement s ↔ c ∈ s := by
  have shortens : Shortens (after? piece) := by
    intro d t rest found
    have split := congrArg List.length (after?_eq_some_iff.mp found)
    have size := List.length_pos_iff.mpr proper
    rw [List.length_cons,List.length_append] at split
    omega
  unfold replace
  induction s using erase_induct (after? piece) shortens with
  | nil => exact Iff.rfl
  | found d t rest found ih =>
    have replaced := substitute_found (fun t => (after? piece t).map fun rest => (replacement,rest))
      (fun d t rest finds => shortens d t rest (by simpa [Option.map_map,Function.comp_def] using finds))
      d t replacement rest (by rw [found]; rfl)
    rw [replaced,after?_eq_some_iff.mp found,List.mem_append,List.mem_append,or_iff_right new,or_iff_right old]
    exact ih
  | kept d t passed ih =>
    rw [substitute_kept _ d t (by rw [passed]; rfl),List.mem_cons,List.mem_cons]
    exact or_congr Iff.rfl ih

/-- Nothing is found at any place of a text. -/
def Silent (pattern : List Char → Option (List Char)) (s : List Char) : Prop := ∀ t, t <:+ s → pattern t = none

/-- A pattern that finds exactly the pieces of a sort where they start. -/
structure Recognises (pattern : List Char → Option (List Char)) (piece : List Char → Prop) : Prop where
  found_iff : ∀ s rest, pattern s = some rest ↔ ∃ found, piece found ∧ s = found ++ rest
  proper : ¬ piece []

namespace Recognises

variable {pattern : List Char → Option (List Char)} {piece : List Char → Prop}
  (recognises : Recognises pattern piece)
include recognises

theorem shortens : Shortens pattern := by
  intro c s rest found
  obtain ⟨first,is,split⟩ := (recognises.found_iff _ _).mp found
  cases first with
  | nil => exact absurd is recognises.proper
  | cons d first =>
    obtain ⟨rfl,rfl⟩ := List.cons.inj split
    simp

theorem at_nil : pattern [] = none := by
  cases here : pattern [] with
  | none => rfl
  | some rest =>
    obtain ⟨found,is,split⟩ := (recognises.found_iff _ _).mp here
    obtain ⟨rfl,_⟩ := List.append_eq_nil_iff.mp split.symm
    exact absurd is recognises.proper

theorem more (s rest tail : List Char) (found : pattern s = some rest) : pattern (s ++ tail) = some (rest ++ tail) := by
  obtain ⟨first,is,rfl⟩ := (recognises.found_iff _ _).mp found
  exact (recognises.found_iff _ _).mpr ⟨first,is,List.append_assoc _ _ _⟩

theorem none_of_more (s tail : List Char) (passed : pattern (s ++ tail) = none) : pattern s = none := by
  cases here : pattern s with
  | none => rfl
  | some rest =>
    rw [recognises.more s rest tail here] at passed
    cases passed

/-- Nothing is found in a text exactly if none of the pieces occurs in it. -/
theorem silent_iff (s : List Char) : Silent pattern s ↔ ∀ found, piece found → ¬ found <:+: s := by
  constructor
  · rintro silent found is ⟨before,after,split⟩
    have here := silent (found ++ after) ⟨before,by rw [← split,List.append_assoc]⟩
    rw [(recognises.found_iff _ _).mpr ⟨found,is,rfl⟩] at here
    cases here
  · intro absent t suffix
    cases here : pattern t with
    | none => rfl
    | some rest =>
      obtain ⟨found,is,rfl⟩ := (recognises.found_iff _ _).mp here
      exact absurd ((List.infix_append' [] found rest).trans suffix.isInfix) (absent found is)

theorem silent_part (s part : List Char) (silent : Silent pattern s) (within : part <:+: s) : Silent pattern part :=
  (recognises.silent_iff part).mpr fun found is inside =>
    (recognises.silent_iff s).mp silent found is (inside.trans within)

theorem erase_sublist (s : List Char) : (erase pattern s).Sublist s := by
  induction s using erase_induct pattern recognises.shortens with
  | nil => exact List.Sublist.refl _
  | found c s rest found ih =>
    obtain ⟨first,_,split⟩ := (recognises.found_iff _ _).mp found
    rw [erase_found pattern recognises.shortens c s rest found,split]
    exact ih.trans (List.sublist_append_right first rest)
  | kept c s passed ih =>
    rw [erase_kept pattern c s passed]
    exact ih.cons_cons c

/-- A pass leaves a text as it is exactly if nothing is found in it. -/
theorem erase_eq_self_iff (s : List Char) : erase pattern s = s ↔ Silent pattern s := by
  constructor
  · induction s using erase_induct pattern recognises.shortens with
    | nil =>
      intro _ t suffix
      rw [List.suffix_nil.mp suffix,recognises.at_nil]
    | found c s rest found ih =>
      intro same
      -- What is left would have to be as long as the whole text.
      have shorter := recognises.shortens c s rest found
      have less := (recognises.erase_sublist rest).length_le
      rw [erase_found pattern recognises.shortens c s rest found] at same
      rw [same,List.length_cons] at less
      omega
    | kept c s passed ih =>
      intro same t suffix
      rw [erase_kept pattern c s passed] at same
      obtain rfl | within := List.suffix_cons_iff.mp suffix
      · exact passed
      · exact ih (List.cons.inj same).2 t within
  · induction s with
    | nil => exact fun _ => rfl
    | cons c s ih =>
      intro silent
      rw [erase_kept pattern c s (silent _ (List.suffix_refl _)),
        ih fun t suffix => silent t (suffix.trans (List.suffix_cons c s))]

/-- The parts of a text are gone through one by one if no find reaches from one into the other. -/
theorem erase_append (s tail : List Char)
    (apart : ∀ t, t <:+ s → t ≠ [] → pattern (t ++ tail) ≠ none → pattern t ≠ none) :
    erase pattern (s ++ tail) = erase pattern s ++ erase pattern tail := by
  induction s using erase_induct pattern recognises.shortens with
  | nil => rfl
  | found c s rest found ih =>
    obtain ⟨first,_,split⟩ := (recognises.found_iff _ _).mp found
    have longer := recognises.more _ _ tail found
    rw [List.cons_append] at longer ⊢
    rw [erase_found pattern recognises.shortens c _ _ longer,erase_found pattern recognises.shortens c s rest found]
    exact ih fun t suffix => apart t (suffix.trans ⟨first,split.symm⟩)
  | kept c s passed ih =>
    have still : pattern (c :: s ++ tail) = none := by
      by_contra found
      exact apart (c :: s) (List.suffix_refl _) (List.cons_ne_nil c s) found passed
    rw [List.cons_append] at still ⊢
    rw [erase_kept pattern c _ still,erase_kept pattern c s passed,
      ih fun t suffix => apart t (suffix.trans (List.suffix_cons c s))]
    rfl

/-- A character of what is left stands in the text at a place where nothing is found, between two parts that are gone
through by themselves. -/
theorem erase_split (s before after : List Char) (c : Char) (split : erase pattern s = before ++ c :: after) :
    ∃ first rest, s = first ++ c :: rest ∧ erase pattern first = before ∧ pattern (c :: rest) = none ∧
      erase pattern rest = after := by
  induction s using erase_induct pattern recognises.shortens generalizing before with
  | nil => simp [erase,substitute,substituteWithin] at split
  | found d s rest found ih =>
    obtain ⟨piece,is,cut⟩ := (recognises.found_iff _ _).mp found
    rw [erase_found pattern recognises.shortens d s rest found] at split
    obtain ⟨first,last,rfl,same,passed,left⟩ := ih before split
    refine ⟨piece ++ first,last,by rw [cut,List.append_assoc],?_,passed,left⟩
    cases piece with
    | nil => exact absurd is recognises.proper
    | cons e piece =>
      have here : pattern (e :: (piece ++ first)) = some first := (recognises.found_iff _ _).mpr ⟨e :: piece,is,rfl⟩
      rw [List.cons_append,erase_found pattern recognises.shortens e _ _ here,same]
  | kept d s passed ih =>
    rw [erase_kept pattern d s passed] at split
    cases before with
    | nil =>
      obtain ⟨rfl,rfl⟩ := List.cons.inj split
      exact ⟨[],s,rfl,rfl,passed,rfl⟩
    | cons e before =>
      obtain ⟨rfl,tail⟩ := List.cons.inj split
      obtain ⟨first,last,rfl,same,quiet,left⟩ := ih before tail
      have still := recognises.none_of_more (d :: first) (c :: last) passed
      exact ⟨d :: first,last,rfl,by rw [erase_kept pattern d first still,same],quiet,left⟩

end Recognises

end Pagewright.Text
