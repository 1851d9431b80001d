import Mathlib.Data.List.Infix
import Mathlib.Data.List.TakeWhile
import Pagewright.Text.Scan

/-! Marks in a text. A mark starts with a character that comes only once in it, so two marks in a row never make a
third one between them, and a text is cut at the place where the mark was put. -/
namespace Pagewright.Text

/-- A run of a class ends where a character outside of the class follows. -/
theorem span_eq_iff (p : Char → Bool) (s before rest : List Char) (c : Char) :
    s.span p = (before,c :: rest) ↔ (∀ d ∈ before, p d = true) ∧ p c = false ∧ s = before ++ c :: rest := by
  rw [List.span_eq_takeWhile_dropWhile,Prod.mk.injEq]
  constructor
  · rintro ⟨rfl,dropped⟩
    have stops := List.head?_dropWhile_not p s
    rw [dropped] at stops
    refine ⟨fun d inside => List.mem_takeWhile_imp inside,by simpa using stops,?_⟩
    rw [← dropped,List.takeWhile_append_dropWhile]
  · rintro ⟨passed,stops,rfl⟩
    rw [List.takeWhile_append_of_pos passed,List.dropWhile_append_of_pos passed]
    simp [stops]

theorem after?_eq_none_iff (piece s : List Char) : after? piece s = none ↔ ¬ piece <+: s := by
  rw [← startsWith_iff,startsWith,Option.not_isSome_iff_eq_none]

theorem cut?_of_occurs (piece s : List Char) (here : occurs piece s = true) :
    ∃ before rest, cut? piece s = some (before,rest) := by
  induction s with
  | nil => exact ⟨[],[],by simpa [cut?,occurs] using here⟩
  | cons c s ih =>
    rw [cut?]
    cases now : after? piece (c :: s) with
    | some rest => exact ⟨[],rest,rfl⟩
    | none =>
      rw [occurs,startsWith,now,Option.isSome_none,Bool.false_or] at here
      obtain ⟨before,rest,later⟩ := ih here
      exact ⟨c :: before,rest,by simp [later]⟩

/-- A piece of text in which no cut begins stays before the cut. -/
theorem cut?_skip (piece skipped rest : List Char)
    (silent : ∀ s, s ≠ [] → s <:+ skipped → ¬ piece <+: s ++ rest) :
    cut? piece (skipped ++ rest) = (cut? piece rest).map fun parts => (skipped ++ parts.1,parts.2) := by
  induction skipped with
  | nil => simp
  | cons c skipped ih =>
    have here := (after?_eq_none_iff _ _).mpr (silent (c :: skipped) (List.cons_ne_nil c skipped) (List.suffix_refl _))
    rw [List.cons_append] at here ⊢
    rw [cut?,here]
    dsimp only
    rw [ih fun s proper part => silent s proper (part.trans (List.suffix_cons c _)),Option.map_map]
    rfl

section Marks

variable (c : Char) (mark : List Char) (once : c ∉ mark)
include once

/-- A mark does not start in a text without marks, even if another mark comes next. -/
theorem mark_not_prefix (s next : List Char) (proper : s ≠ []) (absent : ¬ c :: mark <:+: s)
    (comes : ∀ d ∈ next.head?, d = c) : ¬ c :: mark <+: s ++ next := by
  rintro ⟨rest,split⟩
  obtain ⟨more,inside,_⟩ | ⟨more,cut,rfl⟩ := List.append_eq_append_iff.mp split
  · exact absent (inside ▸ List.infix_append' [] _ more)
  · cases more with
    | nil => exact absent (by rw [cut,List.append_nil])
    | cons d more =>
      -- The rest of the mark would hold its first character again.
      obtain rfl := comes d rfl
      cases s with
      | nil => exact proper rfl
      | cons e s =>
        obtain ⟨_,rfl⟩ := List.cons.inj cut
        exact once (List.mem_append_right s List.mem_cons_self)

theorem cut?_mark (before rest : List Char) (absent : ¬ c :: mark <:+: before) :
    cut? (c :: mark) (before ++ c :: mark ++ rest) = some (before,rest) := by
  induction before with
  | nil =>
    have here : after? (c :: mark) (c :: mark ++ rest) = some rest := after?_eq_some_iff.mpr rfl
    simp only [List.nil_append,List.cons_append] at here ⊢
    rw [cut?,here]
  | cons d before ih =>
    have later : after? (c :: mark) (d :: (before ++ c :: mark ++ rest)) = none := by
      rw [after?_eq_none_iff,← List.cons_append,← List.cons_append,List.append_assoc]
      exact mark_not_prefix c mark once (d :: before) _ (List.cons_ne_nil d before) absent
        fun e first => (Option.some.inj first).symm
    have tail := ih fun inside => absent (List.infix_cons inside)
    simp only [List.cons_append] at later ⊢
    rw [cut?,later]
    dsimp only
    rw [tail]
    rfl

omit once in
/-- In a text with two marks in it nothing else starts like a mark. -/
theorem suffix_between_marks (s t part : List Char) (first : c ∉ s) (second : c ∉ t)
    (suffix : part <:+ c :: (s ++ c :: t)) : part = c :: (s ++ c :: t) ∨ part = c :: t ∨ part.head? ≠ some c := by
  obtain rfl | within := List.suffix_cons_iff.mp suffix
  · exact .inl rfl
  right
  clear suffix
  induction s with
  | nil =>
    obtain rfl | within := List.suffix_cons_iff.mp within
    · exact .inl rfl
    · exact .inr fun head => second (within.subset (List.mem_of_mem_head? head))
  | cons d s ih =>
    rw [List.mem_cons,not_or] at first
    obtain rfl | within := List.suffix_cons_iff.mp within
    · exact .inr fun head => first.1 (Option.some.inj head).symm
    · exact ih first.2 within

end Marks

section Finding

variable {α : Type} (recognise : Recogniser α)

theorem findsWithin_nil (fuel : Nat) : findsWithin recognise fuel [] = [] := by
  cases fuel <;> rfl

/-- A text in which nothing is found is passed over. -/
theorem findsWithin_skip (skipped rest : List Char) (fuel : Nat) (enough : skipped.length ≤ fuel)
    (silent : ∀ s, s ≠ [] → s <:+ skipped → recognise (s ++ rest) = none) :
    findsWithin recognise fuel (skipped ++ rest) = findsWithin recognise (fuel - skipped.length) rest := by
  induction skipped generalizing fuel with
  | nil => rfl
  | cons c skipped ih =>
    cases fuel with
    | zero => cases enough
    | succ fuel =>
      have here := silent (c :: skipped) (List.cons_ne_nil c skipped) (List.suffix_refl _)
      simp only [List.cons_append] at here ⊢
      rw [findsWithin,here]
      dsimp only
      rw [ih fuel (Nat.le_of_succ_le_succ enough) fun s proper part => silent s proper (part.trans (List.suffix_cons c _)),
        List.length_cons,Nat.add_sub_add_right]

theorem findsWithin_found (s rest : List Char) (found : α) (fuel : Nat) (proper : s ≠ [])
    (here : recognise s = some (found,rest)) :
    findsWithin recognise (fuel + 1) s = found :: findsWithin recognise fuel rest := by
  cases s with
  | nil => exact absurd rfl proper
  | cons c s => rw [findsWithin,here]

end Finding

end Pagewright.Text
