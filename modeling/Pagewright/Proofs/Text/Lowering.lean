import Mathlib.Data.List.Count
import Pagewright.Proofs.Text.Trimming
import Pagewright.Text.Case

/-! Lower case of a text piece by piece. A piece is lowered in its text as it is by itself, but for a capital sigma that
is its first or its last letter, and every character stays one character, but for the dotted capital `İ`, which
becomes two. -/
namespace Pagewright.Text

/-- Whether a cased letter comes last in a text, skipped characters aside; `afterCased` tells it of the text before. -/
def caseAfter (afterCased : Bool) : List Char → Bool
  | [] => afterCased
  | c :: s => caseAfter (if isCaseIgnorable c then afterCased else isCased c) s

/-- Lower case of a text that follows a cased letter or does not and that `next` follows. -/
def lowerWithin (afterCased : Bool) (next : List Char) : List Char → List Char
  | [] => []
  | c :: rest =>
    (if c == 'Σ' then [if afterCased && !startsCased (rest ++ next) then 'ς' else 'σ'] else lowerChar c) ++
      lowerWithin (if isCaseIgnorable c then afterCased else isCased c) next rest

theorem lowerFrom_append (afterCased : Bool) (s next : List Char) :
    lowerFrom afterCased (s ++ next) = lowerWithin afterCased next s ++ lowerFrom (caseAfter afterCased s) next := by
  induction s generalizing afterCased with
  | nil => rfl
  | cons c s ih => simp only [List.cons_append,lowerFrom,lowerWithin,caseAfter,ih,List.append_assoc]

theorem lowerWithin_nil (afterCased : Bool) (s : List Char) : lowerWithin afterCased [] s = lowerFrom afterCased s := by
  simpa [lowerFrom] using (lowerFrom_append afterCased s []).symm

section Single

/-- The two small forms of the sigma as one. -/
def evenSigma (c : Char) : Char := if c = 'ς' then 'σ' else c

/-- The two forms of the small sigma aside, a text is lowered character by character. -/
theorem lowerWithin_evenSigma (afterCased : Bool) (next s : List Char) :
    (lowerWithin afterCased next s).map evenSigma = s.flatMap fun c => (lowerChar c).map evenSigma := by
  induction s generalizing afterCased with
  | nil => rfl
  | cons c s ih =>
    rw [lowerWithin,List.map_append,ih,List.flatMap_cons]
    by_cases sigma : c = 'Σ'
    · subst sigma
      have lowered : (lowerChar 'Σ').map evenSigma = ['σ'] := by decide +kernel
      rw [lowered]
      cases afterCased && !startsCased (s ++ next) <;> rfl
    · rw [if_neg (by simpa using sigma)]

theorem length_lowerChar (c : Char) : (lowerChar c).length = if c = 'İ' then 2 else 1 := by
  by_cases dotted : c = 'İ'
  · subst dotted
    decide
  · have other : c.toNat ≠ 0x130 := fun same => dotted (Char.ext (UInt32.toNat_inj.mp same))
    rw [if_neg dotted]
    unfold lowerChar
    dsimp only
    split
    · rfl
    · simp [other]

theorem length_lowerWithin (afterCased : Bool) (next s : List Char) :
    (lowerWithin afterCased next s).length = s.length + s.count 'İ' := by
  have lengths : ∀ s : List Char, (s.flatMap fun c => (lowerChar c).map evenSigma).length = s.length + s.count 'İ' := by
    intro s
    induction s with
    | nil => rfl
    | cons c s ih =>
      rw [List.flatMap_cons,List.length_append,ih,List.length_map,length_lowerChar,List.length_cons,List.count_cons]
      by_cases dotted : c = 'İ'
      · simp only [dotted,if_true,beq_self_eq_true]
        omega
      · simp only [dotted,if_false,beq_iff_eq]
        omega
  rw [← lengths s,← lowerWithin_evenSigma afterCased next s,List.length_map]

theorem length_lower (s : List Char) : (lower s).length = s.length + s.count 'İ' := by
  rw [lower,← lowerWithin_nil,length_lowerWithin]

end Single

section Letters

/-- The first letter of a text, where what is skipped in the search for a cased letter is no letter. -/
def firstLetter? (s : List Char) : Option Char := s.find? fun c => !isCaseIgnorable c

/-- A text whose first and last letters are no capital sigmas. -/
structure PlainEnds (s : List Char) : Prop where
  first : firstLetter? s ≠ some 'Σ'
  last : firstLetter? s.reverse ≠ some 'Σ'

theorem sigma_letter : isCaseIgnorable 'Σ' = false := by decide +kernel

/-- What comes before a text matters for its first letter only. -/
theorem lowerWithin_start (afterCased : Bool) (next s : List Char) (plain : firstLetter? s ≠ some 'Σ') :
    lowerWithin afterCased next s = lowerWithin false next s := by
  induction s generalizing afterCased with
  | nil => rfl
  | cons c s ih =>
    cases skipped : isCaseIgnorable c with
    | true =>
      have other : c ≠ 'Σ' := by
        rintro rfl
        cases sigma_letter.symm.trans skipped
      have rest := ih afterCased (by simpa [firstLetter?,skipped] using plain)
      simp only [lowerWithin,skipped,beq_iff_eq,other,if_false,if_true,rest]
    | false =>
      have other : c ≠ 'Σ' := by simpa [firstLetter?,skipped] using plain
      simp only [lowerWithin,skipped,beq_iff_eq,other,if_false,Bool.false_eq_true]

theorem startsCased_append (s next : List Char) (letter : firstLetter? s.reverse ≠ none) :
    startsCased (s ++ next) = startsCased s := by
  induction s with
  | nil => exact absurd rfl letter
  | cons c s ih =>
    unfold startsCased
    rw [List.cons_append,List.dropWhile_cons,List.dropWhile_cons]
    cases skipped : isCaseIgnorable c with
    | true => exact ih (by simpa [firstLetter?,List.find?_append,skipped] using letter)
    | false => rfl

/-- What comes after a text matters for its last letter only. -/
theorem lowerWithin_end (afterCased : Bool) (next s : List Char) (plain : firstLetter? s.reverse ≠ some 'Σ') :
    lowerWithin afterCased next s = lowerWithin afterCased [] s := by
  induction s generalizing afterCased with
  | nil => rfl
  | cons c s ih =>
    rw [firstLetter?,List.reverse_cons,List.find?_append] at plain
    have rest : firstLetter? s.reverse ≠ some 'Σ' := by
      intro last
      exact plain (by rw [show s.reverse.find? _ = some 'Σ' from last]; rfl)
    rw [lowerWithin,lowerWithin,ih _ rest,List.append_nil]
    by_cases sigma : c = 'Σ'
    · -- A sigma that is not the last letter has a letter after it in the text itself.
      have more : firstLetter? s.reverse ≠ none := by
        intro none
        refine plain ?_
        rw [show s.reverse.find? _ = Option.none from none,sigma]
        simp [sigma_letter]
      rw [startsCased_append s next more]
    · simp only [beq_iff_eq,sigma,if_false]

theorem lowerWithin_plain (afterCased : Bool) (next s : List Char) (plain : PlainEnds s) :
    lowerWithin afterCased next s = lower s := by
  rw [lowerWithin_start afterCased next s plain.first,lowerWithin_end false next s plain.last,lowerWithin_nil,lower]

end Letters

section Blanks

theorem blank_uncased (c : Char) (blank : isBlank c = true) :
    lowerChar c = [c] ∧ isCased c = false ∧ isCaseIgnorable c = false ∧ c ≠ 'Σ' := by
  have table : (blanks.all fun c => lowerChar c == [c] && !isCased c && !isCaseIgnorable c && c != 'Σ') = true := by
    decide +kernel
  simpa [and_assoc] using List.all_eq_true.mp table c (mem_blanks c blank)

theorem lowerFrom_blank (afterCased : Bool) (c : Char) (s : List Char) (blank : isBlank c = true) :
    lowerFrom afterCased (c :: s) = c :: lower s := by
  obtain ⟨same,uncased,letter,other⟩ := blank_uncased c blank
  simp [lowerFrom,lower,same,uncased,letter,other]

theorem lower_leading (lead s : List Char) (blank : AllBlank lead) : lower (lead ++ s) = lead ++ lower s := by
  induction lead with
  | nil => rfl
  | cons c lead ih =>
    rw [List.cons_append,lower,lowerFrom_blank false c _ (blank c List.mem_cons_self),
      ih fun d member => blank d (List.mem_cons_of_mem c member),List.cons_append]

theorem startsCased_trailing (s trail : List Char) (blank : AllBlank trail) :
    startsCased (s ++ trail) = startsCased s := by
  induction s with
  | nil =>
    cases trail with
    | nil => rfl
    | cons c trail =>
      obtain ⟨_,uncased,letter,_⟩ := blank_uncased c (blank c List.mem_cons_self)
      simp [startsCased,uncased,letter]
  | cons c s ih =>
    unfold startsCased
    rw [List.cons_append,List.dropWhile_cons,List.dropWhile_cons]
    cases skipped : isCaseIgnorable c with
    | true => exact ih
    | false => rfl

theorem lowerFrom_trailing (afterCased : Bool) (s trail : List Char) (blank : AllBlank trail) :
    lowerFrom afterCased (s ++ trail) = lowerFrom afterCased s ++ trail := by
  induction s generalizing afterCased with
  | nil =>
    cases trail with
    | nil => rfl
    | cons c trail =>
      have rest := lower_leading trail [] fun d member => blank d (List.mem_cons_of_mem c member)
      rw [List.append_nil] at rest
      rw [List.nil_append,lowerFrom_blank afterCased c trail (blank c List.mem_cons_self),rest]
      simp [lower,lowerFrom]
  | cons c s ih => simp only [List.cons_append,lowerFrom,ih,startsCased_trailing s trail blank,List.append_assoc]

/-- White space around a text stays as it is. -/
theorem lower_around (lead s trail : List Char) (leading : AllBlank lead) (trailing : AllBlank trail) :
    lower (lead ++ s ++ trail) = lead ++ lower s ++ trail := by
  rw [List.append_assoc,lower_leading lead (s ++ trail) leading,lower,lowerFrom_trailing false s trail trailing,
    List.append_assoc,lower]

end Blanks

section Inked

/-- Where a lower-case partner comes from: a run whose partners are all of them characters. -/
theorem casePartner_run (n partner : Nat) (found : casePartner? lowerRuns n = some partner) :
    ∃ r ∈ lowerRuns, r.first ≤ n ∧ n ≤ r.last ∧ partner = r.target + (n - r.first) ∧
      (Char.ofNat partner).toNat = partner := by
  have characters : (lowerRuns.all fun r => r.target + (r.last - r.first) < 0xd800 ||
      0xdfff < r.target && r.target + (r.last - r.first) < 0x110000) = true := by
    decide +kernel
  obtain ⟨r,run,rfl⟩ := Option.map_eq_some_iff.mp found
  have inside := List.find?_some run
  have among := List.mem_of_find?_eq_some run
  have here := List.all_eq_true.mp characters r among
  simp only [Bool.and_eq_true,Bool.or_eq_true,decide_eq_true_eq] at inside here
  have valid : (r.target + (n - r.first)).isValidChar := by
    unfold Nat.isValidChar
    omega
  refine ⟨r,among,inside.1.1,inside.1.2,rfl,?_⟩
  rw [Char.ofNat,dif_pos valid]
  rfl

/-- No lower-case partner is white space. -/
theorem casePartner_inked (n partner : Nat) (found : casePartner? lowerRuns n = some partner) :
    isBlank (Char.ofNat partner) = false := by
  have apart : (lowerRuns.all fun r => blanks.all fun b =>
      b.toNat < r.target || r.target + (r.last - r.first) < b.toNat) = true := by
    decide +kernel
  obtain ⟨r,among,first,last,rfl,code⟩ := casePartner_run n partner found
  refine eq_false_of_ne_true fun blank => ?_
  have table := List.all_eq_true.mp (List.all_eq_true.mp apart r among) _ (mem_blanks _ blank)
  simp only [Bool.or_eq_true,decide_eq_true_eq] at table
  omega

theorem lowerChar_inked (c : Char) (inked : isBlank c = false) : ∀ d ∈ lowerChar c, isBlank d = false := by
  unfold lowerChar
  dsimp only
  split
  next ascii =>
    have table : ((List.range 128).all fun n => isBlank (Char.ofNat n) || !isBlank (Char.ofNat n).toLower) = true := by
      decide +kernel
    have here := List.all_eq_true.mp table c.toNat (List.mem_range.mpr ascii)
    rw [Char.ofNat_toNat,inked] at here
    simpa using here
  · split
    · simp only [List.mem_cons,List.not_mem_nil,or_false]
      rintro d (rfl | rfl) <;> decide
    · cases found : casePartner? lowerRuns c.toNat with
      | none => simpa using inked
      | some partner => simpa using casePartner_inked c.toNat partner found

theorem lowerWithin_single (afterCased : Bool) (next : List Char) (c : Char) (inked : isBlank c = false) :
    lowerWithin afterCased next [c] ≠ [] ∧ ∀ d ∈ lowerWithin afterCased next [c], isBlank d = false := by
  constructor
  · refine List.ne_nil_of_length_pos ?_
    rw [length_lowerWithin]
    exact Nat.lt_add_right _ Nat.one_pos
  · intro d member
    rw [lowerWithin,lowerWithin,List.append_nil] at member
    split at member
    · obtain rfl := List.mem_singleton.mp member
      split <;> decide
    · exact lowerChar_inked c inked d member

/-- A text without white space at its ends has none in lower case. -/
theorem lower_inked (s : List Char) (inked : Inked s) : Inked (lower s) := by
  constructor
  · cases s with
    | nil => exact nofun
    | cons c s =>
      obtain ⟨proper,dark⟩ := lowerWithin_single false s c (inked.head c rfl)
      rw [lower,← List.singleton_append,lowerFrom_append,List.head?_append_of_ne_nil _ proper]
      exact fun d first => dark d (List.mem_of_mem_head? first)
  · obtain rfl | ⟨s,c,rfl⟩ := List.eq_nil_or_concat s
    · exact nofun
    · rw [List.concat_eq_append] at inked ⊢
      obtain ⟨proper,dark⟩ := lowerWithin_single (caseAfter false s) [] c (inked.last c (by simp))
      rw [lower,lowerFrom_append,← lowerWithin_nil,List.getLast?_append_of_ne_nil _ proper]
      exact fun d final => dark d (List.mem_of_mem_getLast? final)

end Inked

end Pagewright.Text
