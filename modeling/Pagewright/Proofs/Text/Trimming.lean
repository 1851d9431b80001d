import Mathlib.Data.List.Infix
import Mathlib.Data.List.TakeWhile
import Pagewright.Text.Scan

/-! White space at the ends of a text. What trimming takes away is white space only, so a piece that has none at its
own ends is in a text exactly when it is in the trimmed text. -/
namespace Pagewright.Text

theorem trimBy_self (strip : Char → Bool) (s : List Char) (kept : ∀ c ∈ s, strip c = false) :
    trimBy strip s = s := by
  have stays (t : List Char) (kept : ∀ c ∈ t, strip c = false) : t.dropWhile strip = t := by
    cases t with
    | nil => rfl
    | cons c t => simp [kept c List.mem_cons_self]
  unfold trimBy
  rw [stays s kept,stays s.reverse (by simpa using kept),List.reverse_reverse]

theorem mem_trimBy (strip : Char → Bool) (s : List Char) (c : Char) (member : c ∈ trimBy strip s) :
    c ∈ s := by
  unfold trimBy at member
  rw [List.mem_reverse] at member
  have back := (List.dropWhile_sublist strip).mem member
  rw [List.mem_reverse] at back
  exact (List.dropWhile_sublist strip).mem back

/-- White space, code point by code point. -/
def blanks : List Char := (List.range' 9 5 ++ List.range' 28 5 ++ [0x85,0xa0,0x1680] ++ List.range' 0x2000 11 ++
  [0x2028,0x2029,0x202f,0x205f,0x3000]).map Char.ofNat

theorem mem_blanks (c : Char) (blank : isBlank c = true) : c ∈ blanks := by
  refine List.mem_map.mpr ⟨c.toNat,?_,Char.ofNat_toNat c⟩
  simp only [List.mem_append,List.mem_range'_1,List.mem_cons,List.not_mem_nil,or_false]
  simp only [isBlank,Bool.or_eq_true,Bool.and_eq_true,decide_eq_true_eq,beq_iff_eq] at blank
  omega

/-- Nothing but white space. -/
def AllBlank (s : List Char) : Prop := ∀ c ∈ s, isBlank c = true

instance (s : List Char) : Decidable (AllBlank s) := List.decidableBAll (fun c => isBlank c = true) s

/-- A text that neither starts nor ends in white space. -/
structure Inked (s : List Char) : Prop where
  head : ∀ c ∈ s.head?, isBlank c = false
  last : ∀ c ∈ s.getLast?, isBlank c = false

theorem trim_split (s : List Char) : ∃ lead trail, AllBlank lead ∧ AllBlank trail ∧ s = lead ++ trim s ++ trail := by
  refine ⟨s.takeWhile isBlank,((s.dropWhile isBlank).reverse.takeWhile isBlank).reverse,?_,?_,?_⟩
  · exact fun c member => List.mem_takeWhile_imp member
  · exact fun c member => List.mem_takeWhile_imp (List.mem_reverse.mp member)
  · have back := List.takeWhile_append_dropWhile (p := isBlank) (l := (s.dropWhile isBlank).reverse)
    have kept : s.dropWhile isBlank = trim s ++ ((s.dropWhile isBlank).reverse.takeWhile isBlank).reverse := by
      rw [trim,trimBy,← List.reverse_append,back,List.reverse_reverse]
    rw [List.append_assoc,← kept,List.takeWhile_append_dropWhile]

theorem trim_within (s : List Char) : trim s <:+: s := by
  obtain ⟨lead,trail,_,_,split⟩ := trim_split s
  exact ⟨lead,trail,split.symm⟩

theorem dropWhile_head (s : List Char) : ∀ c ∈ (s.dropWhile isBlank).head?, isBlank c = false := by
  intro c first
  have stops := List.head?_dropWhile_not isBlank s
  rw [Option.mem_def.mp first] at stops
  simpa using stops

theorem trim_inked (s : List Char) : Inked (trim s) := by
  constructor
  · intro c first
    have start : trim s <+: s.dropWhile isBlank := by
      rw [trim,trimBy,← List.reverse_suffix,List.reverse_reverse]
      exact List.dropWhile_suffix isBlank
    obtain ⟨rest,split⟩ := start
    refine dropWhile_head s c ?_
    rw [← split,List.head?_append,Option.mem_def.mp first]
    rfl
  · intro c final
    rw [trim,trimBy,List.getLast?_reverse] at final
    exact dropWhile_head (s.dropWhile isBlank).reverse c final

theorem trim_of_inked (s : List Char) (inked : Inked s) : trim s = s := by
  have stays (t : List Char) (first : ∀ c ∈ t.head?, isBlank c = false) : t.dropWhile isBlank = t := by
    cases t with
    | nil => rfl
    | cons c t => simp [first c rfl]
  have last := stays s.reverse (by rw [List.head?_reverse]; exact inked.last)
  rw [trim,trimBy,stays s inked.head,last,List.reverse_reverse]

theorem trim_start (s start rest : List Char) (split : trim s = start ++ rest) (proper : start ≠ []) :
    ¬ AllBlank start := by
  intro blank
  cases start with
  | nil => exact proper rfl
  | cons c start =>
    have ink := (trim_inked s).head c (by rw [split]; rfl)
    rw [blank c List.mem_cons_self] at ink
    cases ink

theorem last_ink (s : List Char) (filled : ¬ AllBlank s) :
    ∃ first c blank, s = first ++ c :: blank ∧ isBlank c = false ∧ AllBlank blank := by
  induction s with
  | nil => exact absurd (fun _ inside => absurd inside List.not_mem_nil) filled
  | cons d s ih =>
    by_cases rest : AllBlank s
    · refine ⟨[],d,s,rfl,?_,rest⟩
      by_contra blank
      rw [Bool.not_eq_false] at blank
      exact filled (List.forall_mem_cons.mpr ⟨blank,rest⟩)
    · obtain ⟨first,c,blank,rfl,ink,white⟩ := ih rest
      exact ⟨d :: first,c,blank,rfl,ink,white⟩

section Pieces

variable (piece s : List Char)

theorem infix_after_blanks (lead : List Char) (blank : AllBlank lead) (start : ∀ c ∈ piece.head?, isBlank c = false) :
    piece <:+: lead ++ s ↔ piece <:+: s := by
  induction lead with
  | nil => rfl
  | cons c lead ih =>
    rw [List.cons_append,List.infix_cons_iff,ih fun d member => blank d (List.mem_cons_of_mem c member)]
    refine or_iff_right_of_imp fun here => ?_
    cases piece with
    | nil => exact List.nil_infix
    | cons d piece =>
      obtain ⟨rfl,_⟩ := List.cons_prefix_cons.mp here
      exact absurd (blank d List.mem_cons_self) (by simp [start d rfl])

/-- A piece without white space at its ends is not touched by white space around a text. -/
theorem infix_between_blanks (lead trail : List Char) (leading : AllBlank lead) (trailing : AllBlank trail)
    (inked : Inked piece) : piece <:+: lead ++ s ++ trail ↔ piece <:+: s := by
  rw [List.append_assoc,infix_after_blanks piece (s ++ trail) lead leading inked.head,← List.reverse_infix,
    List.reverse_append,infix_after_blanks,List.reverse_infix]
  · exact fun c member => trailing c (List.mem_reverse.mp member)
  · rw [List.head?_reverse]
    exact inked.last

end Pieces

end Pagewright.Text
