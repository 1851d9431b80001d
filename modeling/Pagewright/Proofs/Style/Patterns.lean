import Mathlib.Data.List.Basic
import Pagewright.Proofs.Text.Replacing
import Pagewright.Proofs.Text.Trimming
import Pagewright.Style.Sheet

/-! What the passes over a stylesheet take away: directives up to their semicolon, layer starts up to their brace, and
rules that hold nothing but white space. -/
namespace Pagewright.Style
open Text (isBlank Silent Recognises span_eq_iff)

/-- A directive: its word, white space, and more up to the next semicolon. -/
def IsDirective (word found : List Char) : Prop :=
  ∃ blank body, isBlank blank = true ∧ body ≠ [] ∧ ';' ∉ body ∧ found = word ++ blank :: (body ++ [';'])

/-- The start of a layer: its word, white space, and names up to the brace. -/
def IsLayerStart (found : List Char) : Prop :=
  ∃ blank names, isBlank blank = true ∧ names ≠ [] ∧ (∀ c ∈ names, isLayerChar c = true) ∧
    found = "@layer".toList ++ blank :: (names ++ ['\x7b'])

def Braceless (s : List Char) : Prop := ∀ c ∈ s, isBrace c = false

instance (s : List Char) : Decidable (Braceless s) := List.decidableBAll (fun c => isBrace c = false) s

theorem blank_unbraced (c : Char) (blank : isBlank c = true) : isBrace c = false := by
  by_contra brace
  simp only [isBrace,Bool.not_eq_false,Bool.or_eq_true,beq_iff_eq] at brace
  rcases brace with rfl | rfl <;> cases blank

namespace Braceless

theorem blank (s : List Char) (white : Text.AllBlank s) : Braceless s := fun c inside =>
  blank_unbraced c (white c inside)

theorem append (s t : List Char) (first : Braceless s) (last : Braceless t) : Braceless (s ++ t) :=
  List.forall_mem_append.mpr ⟨first,last⟩

variable (s : List Char) (braceless : Braceless s)
include braceless

theorem unopened : '\x7b' ∉ s := fun inside => absurd (braceless _ inside) (by decide)

theorem unclosed : '\x7d' ∉ s := fun inside => absurd (braceless _ inside) (by decide)

theorem span (rest : List Char) (c : Char) (brace : isBrace c = true) :
    (s ++ c :: rest).span (!isBrace ·) = (s,c :: rest) := by
  rw [span_eq_iff]
  exact ⟨fun d inside => by rw [braceless d inside]; rfl,by rw [brace]; rfl,rfl⟩

end Braceless

/-- A text with one opening brace is cut at it in one way. -/
theorem cut_at_opening (selector inside before rest : List Char) (plain : Braceless selector)
    (braceless : Braceless inside) (split : selector ++ '\x7b' :: (inside ++ ['\x7d']) = before ++ '\x7b' :: rest) :
    selector = before ∧ inside ++ ['\x7d'] = rest := by
  have unopened : '\x7b' ∉ inside ++ ['\x7d'] := by
    rw [List.mem_append,not_or]
    exact ⟨braceless.unopened,by decide⟩
  obtain ⟨same,_,left⟩ := (List.append_cons_inj_of_notMem plain.unopened unopened).mp split
  exact ⟨same,left⟩

/-- A rule with nothing but white space between its braces. -/
def IsEmptyRule (found : List Char) : Prop :=
  ∃ selector inside, selector ≠ [] ∧ Braceless selector ∧ Text.AllBlank inside ∧
    found = selector ++ '\x7b' :: (inside ++ ['\x7d'])

theorem untilSemicolon?_eq_some_iff (s body rest : List Char) :
    untilSemicolon? s = some (body,rest) ↔ body ≠ [] ∧ ';' ∉ body ∧ s = body ++ ';' :: rest := by
  constructor
  · intro found
    unfold untilSemicolon? at found
    cases spanned : s.span (· != ';') with
    | mk first last =>
      rw [spanned] at found
      cases first with
      | nil => cases found
      | cons d first =>
        cases last with
        | nil => cases found
        | cons c last =>
          cases found
          obtain ⟨passed,stops,split⟩ := (span_eq_iff _ _ _ _ _).mp spanned
          obtain rfl : c = ';' := by simpa using stops
          exact ⟨List.cons_ne_nil _ _,fun inside => by simpa using passed _ inside,split⟩
  · rintro ⟨proper,within,split⟩
    have spanned := (span_eq_iff (· != ';') s body rest ';').mpr
      ⟨fun d inside => bne_iff_ne.mpr fun same => within (same ▸ inside),by decide,split⟩
    unfold untilSemicolon?
    rw [spanned]
    cases body with
    | nil => exact absurd rfl proper
    | cons c body => rfl

/-- A directive has no semicolon but the one at its end. -/
theorem IsDirective.ends (word found : List Char) (is : IsDirective word found) (plain : ';' ∉ word) :
    ∃ front, ';' ∉ front ∧ found = front ++ [';'] := by
  obtain ⟨blank,body,white,_,within,rfl⟩ := is
  refine ⟨word ++ blank :: body,?_,by simp⟩
  rw [List.mem_append,List.mem_cons,not_or,not_or]
  refine ⟨plain,?_,within⟩
  rintro rfl
  exact absurd white (by decide)

theorem first_semicolon (s first front left rest : List Char) (one : ';' ∉ first) (two : ';' ∉ front)
    (split : s = first ++ ';' :: left) (again : s = front ++ ';' :: rest) : left = rest := by
  have spanned (part more : List Char) (within : ';' ∉ part) (cut : s = part ++ ';' :: more) :=
    (span_eq_iff (· != ';') s part more ';').mpr
      ⟨fun c inside => bne_iff_ne.mpr fun same => within (same ▸ inside),rfl,cut⟩
  have same := (spanned first left one split).symm.trans (spanned front rest two again)
  rw [Prod.mk.injEq,List.cons.injEq] at same
  exact same.2.2

/-- The white space behind the word of a directive, with something behind it. -/
theorem spaced_iff (s : List Char) : (s.head?.any Text.isBlank && decide (2 ≤ s.length)) = true ↔
    ∃ blank rest, Text.isBlank blank = true ∧ rest ≠ [] ∧ s = blank :: rest := by
  constructor
  · intro spaced
    cases s with
    | nil => simp at spaced
    | cons blank rest =>
      simp only [List.head?_cons,Option.any_some,List.length_cons,Bool.and_eq_true,decide_eq_true_eq] at spaced
      exact ⟨blank,rest,spaced.1,List.length_pos_iff.mp (by omega),rfl⟩
  · rintro ⟨blank,rest,white,filled,rfl⟩
    have size := List.length_pos_iff.mpr filled
    simp only [List.head?_cons,Option.any_some,white,List.length_cons,Bool.true_and,decide_eq_true_eq]
    omega

theorem directive?_recognises (word : List Char) (proper : word ≠ []) :
    Recognises (directive? word) (IsDirective word) where
  proper := by
    rintro ⟨blank,body,_,_,_,none⟩
    cases word <;> simp at none
  found_iff s rest := by
    constructor
    · intro found
      obtain ⟨after,named,found⟩ := Option.bind_eq_some_iff.mp found
      obtain ⟨⟨body,left⟩,ended,found⟩ := Option.bind_eq_some_iff.mp found
      obtain ⟨_,within,split⟩ := (untilSemicolon?_eq_some_iff _ _ _).mp ended
      dsimp only at found
      split at found
      · rename_i formed
        cases found
        obtain ⟨blank,body,white,filled,rfl⟩ := (spaced_iff _).mp formed
        rw [List.mem_cons,not_or] at within
        refine ⟨word ++ blank :: (body ++ [';']),⟨blank,body,white,filled,within.2,rfl⟩,?_⟩
        rw [Text.after?_eq_some_iff.mp named,split]
        simp
      · cases found
    · rintro ⟨_,⟨blank,body,white,filled,within,rfl⟩,rfl⟩
      have named : Text.after? word (word ++ blank :: (body ++ [';']) ++ rest) = some (blank :: body ++ ';' :: rest) :=
        Text.after?_eq_some_iff.mpr (by simp)
      have other : ';' ≠ blank := by
        rintro rfl
        exact absurd white (by decide)
      have ended := (untilSemicolon?_eq_some_iff (blank :: body ++ ';' :: rest) (blank :: body) rest).mpr
        ⟨List.cons_ne_nil _ _,by simp [other,within],rfl⟩
      unfold directive?
      rw [named]
      dsimp only [bind,Option.bind]
      rw [ended]
      exact if_pos ((spaced_iff _).mpr ⟨blank,body,white,filled,rfl⟩)

theorem layerStart?_recognises : Recognises layerStart? IsLayerStart where
  proper := by
    rintro ⟨blank,names,_,_,_,none⟩
    simp at none
  found_iff s rest := by
    constructor
    · intro found
      obtain ⟨after,named,found⟩ := Option.bind_eq_some_iff.mp found
      dsimp only at found
      cases spanned : after.span isLayerChar with
      | mk names last =>
        rw [spanned] at found
        dsimp only at found
        split at found
        · rename_i more
          obtain ⟨passed,_,split⟩ := (span_eq_iff _ _ _ _ _).mp spanned
          split at found
          · rename_i formed
            cases found
            obtain ⟨blank,names,white,filled,rfl⟩ := (spaced_iff _).mp formed
            refine ⟨_,⟨blank,names,white,filled,(List.forall_mem_cons.mp passed).2,rfl⟩,?_⟩
            rw [Text.after?_eq_some_iff.mp named,split]
            simp
          · cases found
        · cases found
    · rintro ⟨_,⟨blank,names,white,filled,layers,rfl⟩,rfl⟩
      have named : Text.after? "@layer".toList ("@layer".toList ++ blank :: (names ++ ['\x7b']) ++ rest) =
          some (blank :: names ++ '\x7b' :: rest) := Text.after?_eq_some_iff.mpr (by simp)
      have passed : ∀ c ∈ blank :: names, isLayerChar c = true :=
        List.forall_mem_cons.mpr ⟨by simp [isLayerChar,white],layers⟩
      have spanned := (span_eq_iff isLayerChar _ _ rest '\x7b').mpr ⟨passed,by decide,rfl⟩
      unfold layerStart?
      rw [named]
      dsimp only [bind,Option.bind]
      rw [spanned]
      exact if_pos ((spaced_iff _).mpr ⟨blank,names,white,filled,rfl⟩)

theorem emptyRule?_recognises : Recognises emptyRule? IsEmptyRule where
  proper := by
    rintro ⟨selector,inside,_,_,_,none⟩
    simp at none
  found_iff s rest := by
    constructor
    · intro found
      unfold emptyRule? at found
      split at found
      · cases found
      · rename_i selector more proper spanned
        obtain ⟨passed,_,split⟩ := (span_eq_iff _ _ _ _ _).mp spanned
        split at found
        · rename_i after dropped
          cases found
          refine ⟨_,⟨selector,more.takeWhile isBlank,proper,fun c inside => by simpa using passed c inside,
            fun c inside => List.mem_takeWhile_imp inside,rfl⟩,?_⟩
          have cut := List.takeWhile_append_dropWhile (p := isBlank) (l := more)
          unfold Text.dropBlanks at dropped
          rw [dropped] at cut
          rw [split,List.append_assoc,List.cons_append,List.append_assoc,List.singleton_append,cut]
        · cases found
      · cases found
    · rintro ⟨_,⟨selector,inside,proper,plain,white,rfl⟩,rfl⟩
      have spanned := plain.span selector (inside ++ '\x7d' :: rest) '\x7b' rfl
      have dropped : Text.dropBlanks (inside ++ '\x7d' :: rest) = '\x7d' :: rest := by
        have brace : isBlank '\x7d' = false := by decide
        rw [Text.dropBlanks,List.dropWhile_append_of_pos white]
        simp [brace]
      have split : selector ++ '\x7b' :: (inside ++ ['\x7d']) ++ rest =
          selector ++ '\x7b' :: (inside ++ '\x7d' :: rest) := by
        simp
      rw [split]
      unfold emptyRule?
      rw [spanned]
      cases selector with
      | nil => exact absurd rfl proper
      | cons c selector => simp only [dropped]

theorem silent_unopened (s : List Char) (unopened : '\x7b' ∉ s) : Silent emptyRule? s := by
  rw [emptyRule?_recognises.silent_iff]
  rintro _ ⟨selector,inside,_,_,_,rfl⟩ within
  exact unopened (within.subset (by simp))

/-- The brace at the end of a selector tells whether a rule starts there. -/
theorem emptyRule?_closing (selector rest : List Char) (plain : Braceless selector) :
    emptyRule? (selector ++ '\x7d' :: rest) = none := by
  unfold emptyRule?
  rw [plain.span selector rest '\x7d' rfl]
  cases selector <;> rfl

theorem erase_rule (rule rest : List Char) (empty : IsEmptyRule rule) :
    Text.erase emptyRule? (rule ++ rest) = Text.erase emptyRule? rest := by
  have found := (emptyRule?_recognises.found_iff (rule ++ rest) rest).mpr ⟨rule,empty,rfl⟩
  cases rule with
  | nil => exact absurd empty emptyRule?_recognises.proper
  | cons c rule => exact Text.erase_found _ emptyRule?_recognises.shortens c _ rest found

end Pagewright.Style
