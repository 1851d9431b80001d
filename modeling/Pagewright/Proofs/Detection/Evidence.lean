import Mathlib.Data.List.Infix
import Pagewright.Detection.Detect
import Pagewright.Proofs.Text.Lowering
import Pagewright.Proofs.Text.Marks

/-! What the evidence of a match shows. The match is looked for in the lower-case text and the window is cut from the
text itself, at the same number of characters. These are two places as soon as there are dotted capitals `İ` before the
window, since every one of them is two characters in lower case: with each of them the window moves on by a character, and
with more than `contextBefore` of them the match begins before it. -/
namespace Pagewright.Detection
open Text

/-- The piece of a text that the evidence is cut from. -/
def window (content : List Char) (start : Nat) : List Char := (content.drop start).take contextWindow

/-- The lower-case text, in which the window is lowered by itself. -/
def loweredAround (content : List Char) (start : Nat) : List Char :=
  (lower content).take (lower (content.take start)).length ++ lower (window content start) ++
    (lower content).drop (lower (content.take (start + contextWindow))).length

/-- Whether a match at a place of the lower-case text comes from the window alone. -/
def Covered (content pattern : List Char) (start place : Nat) : Prop :=
  (lower (content.take start)).length ≤ place ∧
    place + (lower pattern).length ≤ (lower (content.take (start + contextWindow))).length

section Pieces

variable {α : Type} (piece before middle after : List α)

/-- A piece is in the middle part of a list exactly when it is in the list at a place within that part. -/
theorem infix_middle_iff : piece <:+: middle ↔ ∃ earlier later,
    before ++ middle ++ after = earlier ++ piece ++ later ∧
      before.length ≤ earlier.length ∧ earlier.length + piece.length ≤ before.length + middle.length := by
  constructor
  · rintro ⟨earlier,later,rfl⟩
    refine ⟨before ++ earlier,later ++ after,by simp,by simp,?_⟩
    simp only [List.length_append]
    omega
  · rintro ⟨earlier,later,split,low,high⟩
    have starts : before <+: earlier ++ piece ++ later := ⟨middle ++ after,by rw [← split,List.append_assoc]⟩
    obtain ⟨inner,rfl⟩ := List.prefix_of_prefix_length_le starts ⟨piece ++ later,by rw [List.append_assoc]⟩ low
    have rest : middle ++ after = inner ++ piece ++ later := by
      simpa only [List.append_assoc,List.append_cancel_left_eq] using split
    have ends : inner ++ piece <+: middle := by
      refine List.prefix_of_prefix_length_le (rest ▸ List.prefix_append _ later) (List.prefix_append middle after) ?_
      simp only [List.length_append] at high ⊢
      omega
    obtain ⟨tail,whole⟩ := ends
    exact ⟨inner,tail,whole⟩

end Pieces

section Window

variable (content : List Char) (start : Nat)

theorem take_window : content.take (start + contextWindow) = content.take start ++ window content start :=
  List.take_add

theorem length_lower_window :
    (lower (content.take (start + contextWindow))).length =
      (lower (content.take start)).length + (lower (window content start)).length := by
  rw [take_window]
  simp only [length_lower,List.length_append,List.count_append]
  omega

/-- The lower-case text falls into what comes before the window, the window and what comes after it. -/
theorem lower_parts : ∃ before afterCased next after,
    before.length = (lower (content.take start)).length ∧
      lower content = before ++ lowerWithin afterCased next (window content start) ++ after ∧
      loweredAround content start = before ++ lower (window content start) ++ after := by
  obtain ⟨outer,split⟩ : ∃ outer, content = content.take start ++ (window content start ++ outer) :=
    ⟨content.drop (start + contextWindow),by rw [← List.append_assoc,← take_window,List.take_append_drop]⟩
  have whole : lower content = lowerWithin false (window content start ++ outer) (content.take start) ++
      lowerWithin (caseAfter false (content.take start)) outer (window content start) ++
      lowerFrom (caseAfter (caseAfter false (content.take start)) (window content start)) outer := by
    conv_lhs => rw [split,lower,lowerFrom_append,lowerFrom_append,← List.append_assoc]
  have length : (lowerWithin false (window content start ++ outer) (content.take start)).length =
      (lower (content.take start)).length := by
    rw [length_lowerWithin,length_lower]
  have middle : (lower (window content start)).length =
      (lowerWithin (caseAfter false (content.take start)) outer (window content start)).length := by
    rw [length_lower,length_lowerWithin]
  refine ⟨_,_,_,_,length,whole,?_⟩
  rw [loweredAround,length_lower_window,middle,← length,← List.length_append,whole,List.drop_left,
    List.append_assoc (lowerWithin _ _ (content.take start)),List.take_left]

/-- Lowered by itself, a window differs from what it is in the text by forms of the small sigma only. -/
theorem loweredAround_evenSigma : (loweredAround content start).map evenSigma = (lower content).map evenSigma := by
  obtain ⟨before,afterCased,next,after,_,whole,alone⟩ := lower_parts content start
  rw [whole,alone]
  simp only [List.map_append,lower,← lowerWithin_nil,lowerWithin_evenSigma]

theorem loweredAround_plain (plain : PlainEnds (window content start)) :
    loweredAround content start = lower content := by
  obtain ⟨before,afterCased,next,after,_,whole,alone⟩ := lower_parts content start
  rw [whole,alone,lowerWithin_plain afterCased next _ plain]

end Window

section Match

variable (content pattern : List Char)

theorem infix_window_iff (start : Nat) : lower pattern <:+: lower (window content start) ↔ ∃ before rest,
    loweredAround content start = before ++ lower pattern ++ rest ∧ Covered content pattern start before.length := by
  obtain ⟨before,_,_,after,length,_,alone⟩ := lower_parts content start
  rw [infix_middle_iff (lower pattern) before (lower (window content start)) after,alone]
  simp only [Covered,length,length_lower_window]

/-- Trimming the window takes nothing away from a match in it. -/
theorem infix_trim_iff (s : List Char) (bare : trim pattern = pattern) :
    lower pattern <:+: lower (trim s) ↔ lower pattern <:+: lower s := by
  obtain ⟨lead,trail,leading,trailing,split⟩ := trim_split s
  have inked := lower_inked pattern (bare ▸ trim_inked pattern)
  conv_rhs => rw [split,lower_around lead (trim s) trail leading trailing]
  rw [infix_between_blanks (lower pattern) (lower (trim s)) lead trail leading trailing inked]

theorem covered_first_iff (first : Nat) (here : position? (lower pattern) (lower content) = some first)
    (short : pattern.length + pattern.count 'İ' ≤ contextBefore) :
    Covered content pattern (first - contextBefore) first ↔
      (content.take (first - contextBefore)).count 'İ' ≤ contextBefore := by
  obtain ⟨⟨before,rest⟩,cut,rfl⟩ := Option.map_eq_some_iff.mp here
  have whole := congrArg List.length (cut?_eq_append cut)
  have empty : pattern = [] → before = [] := by
    rintro rfl
    revert cut
    cases lower content <;> rintro ⟨⟩ <;> rfl
  have ends (n : Nat) (far : content.length ≤ n) : (content.take n).count 'İ' = content.count 'İ' := by
    rw [List.take_of_length_le far]
  have few : (content.take (before.length - contextBefore)).count 'İ' ≤ before.length - contextBefore :=
    List.count_le_length.trans (List.length_take_le _ _)
  have start := ends (before.length - contextBefore)
  have stop := ends (before.length - contextBefore + contextWindow)
  have proper : before.length = 0 ∨ 0 < pattern.length := by
    cases pattern with
    | nil => exact .inl (by rw [empty rfl]; rfl)
    | cons c pattern => exact .inr (Nat.succ_pos _)
  simp only [Covered,length_lower,List.length_append,List.length_take,contextBefore,contextWindow]
    at whole few start stop short ⊢
  omega

theorem contextAround_eq (first : Nat) (here : position? (lower pattern) (lower content) = some first) :
    contextAround content pattern = trim (window content (first - contextBefore)) := by
  rw [contextAround,here]
  rfl

/-- The match is shown where the window has ordinary letters at its ends and few dotted capitals before it. -/
theorem contextAround_shows (first : Nat) (here : position? (lower pattern) (lower content) = some first)
    (bare : trim pattern = pattern) (short : pattern.length + pattern.count 'İ' ≤ contextBefore)
    (few : (content.take (first - contextBefore)).count 'İ' ≤ contextBefore)
    (plain : PlainEnds (window content (first - contextBefore))) :
    lower pattern <:+: lower (contextAround content pattern) := by
  have covered := (covered_first_iff content pattern first here short).mpr few
  obtain ⟨⟨before,rest⟩,cut,rfl⟩ := Option.map_eq_some_iff.mp here
  rw [contextAround_eq content pattern before.length here,infix_trim_iff pattern _ bare,infix_window_iff,
    loweredAround_plain content _ plain]
  exact ⟨before,rest,cut?_eq_append cut,covered⟩

theorem contextAround_within : contextAround content pattern <:+: content := by
  unfold contextAround
  split
  · exact List.nil_infix
  · exact (trim_within _).trans ((List.take_prefix _ _).isInfix.trans (List.drop_suffix _ _).isInfix)

theorem length_contextAround : (contextAround content pattern).length ≤ contextWindow := by
  unfold contextAround
  split
  · exact Nat.zero_le _
  · exact (trim_within _).length_le.trans (List.length_take_le _ _)

end Match

/-- The evidence of a match is a piece of the text of at most `contextWindow` characters. It shows the match exactly when
there is one that comes from the window alone, where the window is lowered by itself: that changes no more than forms of
the small sigma, and nothing where no capital sigma is the first or last letter of the window. The first match, if it is
no longer than `contextBefore`, comes from the window exactly when no more than `contextBefore` dotted capitals come
before the window. -/
theorem evidence_shows_match_iff (content pattern : List Char) (bare : trim pattern = pattern)
    (found : occurs (lower pattern) (lower content) = true) : ∃ first start,
    position? (lower pattern) (lower content) = some first ∧ start = first - contextBefore ∧
      contextAround content pattern <:+: content ∧ (contextAround content pattern).length ≤ contextWindow ∧
      (lower pattern <:+: lower (contextAround content pattern) ↔ ∃ before rest,
        loweredAround content start = before ++ lower pattern ++ rest ∧ Covered content pattern start before.length) ∧
      (loweredAround content start).map evenSigma = (lower content).map evenSigma ∧
      (PlainEnds (window content start) → loweredAround content start = lower content) ∧
      (pattern.length + pattern.count 'İ' ≤ contextBefore →
        (Covered content pattern start first ↔ (content.take start).count 'İ' ≤ contextBefore)) := by
  obtain ⟨before,rest,cut⟩ := cut?_of_occurs _ _ found
  have here : position? (lower pattern) (lower content) = some before.length := by
    rw [position?,cut]
    rfl
  refine ⟨before.length,before.length - contextBefore,here,rfl,contextAround_within content pattern,
    length_contextAround content pattern,?_,loweredAround_evenSigma content _,loweredAround_plain content _,
    covered_first_iff content pattern before.length here⟩
  rw [contextAround_eq content pattern before.length here,infix_trim_iff pattern _ bare,infix_window_iff]

theorem modal_shown : trim "modal".toList = "modal".toList ∧
    occurs (lower "modal".toList) (lower "<Modal>".toList) = true ∧
    lower "modal".toList <:+: lower (contextAround "<Modal>".toList "modal".toList) := by
  have bare : trim "modal".toList = "modal".toList := by decide +kernel
  have found : occurs (lower "modal".toList) (lower "<Modal>".toList) = true := by decide +kernel
  obtain ⟨first,start,here,rfl,_,_,shown,_,_,few⟩ := evidence_shows_match_iff "<Modal>".toList "modal".toList bare found
  have place : position? (lower "modal".toList) (lower "<Modal>".toList) = some 1 := by decide +kernel
  obtain rfl : first = 1 := Option.some.inj (here.symm.trans place)
  have covered := (few (by decide)).mpr (by decide)
  exact ⟨bare,found,shown.mpr ⟨['<'],['>'],by decide +kernel,covered⟩⟩

/-- More dotted capitals than `contextBefore` hide the match that follows them. -/
theorem dotted_capitals_hide : ¬ ∀ content pattern : List Char, pattern.length ≤ 100 → trim pattern = pattern →
    occurs (lower pattern) (lower content) = true →
    contextAround content pattern <:+: content ∧ (contextAround content pattern).length ≤ 200 ∧
      lower pattern <:+: lower (contextAround content pattern) := by
  intro shows
  have shown := (shows (List.replicate 101 'İ' ++ "Modal".toList) "modal".toList (by decide) (by decide +kernel)
    (by decide +kernel)).2.2
  rw [← occurs_iff] at shown
  exact absurd shown (by decide +kernel)

end Pagewright.Detection
