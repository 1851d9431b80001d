import Mathlib.Data.Nat.Digits.Defs
import Pagewright.Decimal.Integer
import Pagewright.Proofs.Text.Trimming

/-! Numerals. A number is read back from its digits, and a run of digits without a sign is read as a natural number as far
as its digits are decimal and not too many. -/
namespace Pagewright.Decimal

theorem digitValue?_digit (c : Char) (digit : c.isDigit = true) :
    Text.digitValue? c = some (c.toNat - '0'.toNat) := by
  have range : 48 ≤ c.toNat ∧ c.toNat ≤ 57 := Char.isDigit_iff_toNat.mp digit
  have ascii : c.toNat < 128 := by omega
  simp only [Text.digitValue?,ascii,if_true]
  rw [if_pos (by simp; omega)]
  rfl

/-- A run goes on with a digit, and ends at anything else. -/
theorem digitRun?_cons (c : Char) (s : List Char) (plain : c ≠ '_') (noLine : ∀ more, s ≠ '_' :: more) :
    digitRun? (c :: s) = match Text.digitValue? c with
      | some n => (digitRun? s).map fun (digits,after) => (n :: digits,after)
      | none => some ([],c :: s) := by
  rw [digitRun?.eq_def]
  split
  next nil => cases nil
  next more same => exact absurd (List.cons.inj same).1 plain
  next c' rest _ same =>
    obtain ⟨rfl,rfl⟩ := List.cons.inj same
    cases Text.digitValue? c with
    | none => rfl
    | some n =>
      dsimp only
      congr 1
      split
      next more => exact absurd rfl (noLine more)
      next => rfl

theorem digitRun?_digits (s : List Char) (digits : ∀ c ∈ s, c.isDigit = true) :
    digitRun? s = some (s.map fun c => c.toNat - '0'.toNat,[]) := by
  induction s with
  | nil => rfl
  | cons c s ih =>
    have rest := ih fun other member => digits other (List.mem_cons_of_mem c member)
    have noLine : ∀ more, s ≠ '_' :: more := by
      rintro more rfl
      exact absurd (digits '_' (by simp)) (by decide)
    have digit := digits c List.mem_cons_self
    have plain : c ≠ '_' := by
      rintro rfl
      exact absurd digit (by decide)
    rw [digitRun?_cons c s plain noLine,digitValue?_digit c digit,rest]
    rfl

theorem digitLike_of_digit (c : Char) (digit : c.isDigit = true) : Text.isDigitLike c = true := by
  simp [Text.isDigitLike,Text.isDecimal,digitValue?_digit c digit]

theorem digitLike_inked (c : Char) (digit : Text.isDigitLike c = true) : isNumeralBlank c = false := by
  have inked : (Text.blanks.any Text.isDigitLike) = false := by decide +kernel
  have notBlank : Text.isBlank c = false := by
    refine eq_false_of_ne_true fun blank => ?_
    exact List.any_eq_false.mp inked c (Text.mem_blanks c blank) digit
  rw [isNumeralBlank,notBlank]
  rfl

theorem digitLike_ne (c other : Char) (digit : Text.isDigitLike c = true) (plain : Text.isDigitLike other = false) :
    c ≠ other := by
  rintro rfl
  cases digit.symm.trans plain

/-- Digits have no white space around them and no sign. -/
theorem signed_digits (s : List Char) (digits : ∀ c ∈ s, Text.isDigitLike c = true) :
    signed (trimNumeral s) = (false,s) := by
  have trimmed : trimNumeral s = s := Text.trimBy_self _ s fun c member => digitLike_inked c (digits c member)
  rw [trimmed]
  cases s with
  | nil => rfl
  | cons c s =>
    have digit := digits c List.mem_cons_self
    unfold signed
    split
    next same => exact absurd (List.cons.inj same).1 (digitLike_ne c '-' digit (by decide))
    next same => exact absurd (List.cons.inj same).1 (digitLike_ne c '+' digit (by decide))
    next => rfl

theorem ofDigitChars_padZeros (n width : Nat) :
    Nat.ofDigitChars 10 (padZeros width (Nat.toDigits 10 n)) 0 = n := by
  unfold padZeros
  rw [Nat.ofDigitChars_append,Nat.ofDigitChars_replicate_zero,Nat.mul_zero]
  exact Nat.ofDigitChars_toDigits (by decide) (by decide)

/-- A number is read from its digits, if they are not too many. -/
theorem readInt_toDigits (n : Nat) (short : (Nat.toDigits 10 n).length ≤ maxDigits) :
    readInt (Nat.toDigits 10 n) = .ok n := by
  have digits : ∀ c ∈ Nat.toDigits 10 n, c.isDigit = true :=
    fun c member => Nat.isDigit_of_mem_toDigits (by decide) (by decide) member
  have unsigned := signed_digits (Nat.toDigits 10 n) fun c member => digitLike_of_digit c (digits c member)
  have value : ofDigits ((Nat.toDigits 10 n).map fun c => c.toNat - '0'.toNat) = n := by
    rw [ofDigits,List.foldl_map]
    exact Nat.ofDigitChars_toDigits (by decide) (by decide)
  have some : ((Nat.toDigits 10 n).map fun c => c.toNat - '0'.toNat).isEmpty = false := by
    simp [Nat.toDigits_ne_nil]
  have few : ¬ maxDigits < (Nat.toDigits 10 n).length := Nat.not_lt.mpr short
  simp only [readInt,unsigned,digitRun?_digits _ digits,List.length_map,few,some,value]
  rfl

/-- A numeral without a sign is not negative. -/
theorem readInt_unsigned (s : List Char) (n : Int) (unsigned : '-' ∉ s) (ok : readInt s = .ok n) : 0 ≤ n := by
  have positive : (signed (trimNumeral s)).1 = false := by
    unfold signed
    split
    next rest starts =>
      exact absurd (Text.mem_trimBy _ s '-' (by rw [show Text.trimBy _ s = _ from starts]; simp)) unsigned
    next => rfl
    next => rfl
  unfold readInt at ok
  dsimp only at ok
  rw [positive] at ok
  split at ok
  · cases ok
  · split at ok
    · cases ok
    · split at ok
      · cases ok
      · cases ok
        simp

/-- A run of digits is read up to the first one that is not decimal. -/
theorem digitRun?_digitLike (s : List Char) (digits : ∀ c ∈ s, Text.isDigitLike c = true) : ∃ values after,
    digitRun? s = some (values,after) ∧ values.length + after.length = s.length ∧
      (after = [] ↔ ∀ c ∈ s, Text.isDecimal c = true) := by
  induction s with
  | nil => exact ⟨[],[],rfl,rfl,by simp⟩
  | cons c s ih =>
    obtain ⟨values,after,read,lengths,whole⟩ := ih fun other member => digits other (List.mem_cons_of_mem c member)
    have noLine : ∀ more, s ≠ '_' :: more := by
      rintro more rfl
      exact digitLike_ne '_' '_' (digits '_' (by simp)) (by decide) rfl
    have plain := digitLike_ne c '_' (digits c List.mem_cons_self) (by decide)
    rw [digitRun?_cons c s plain noLine,read]
    cases value : Text.digitValue? c with
    | none => exact ⟨[],c :: s,rfl,by simp,by simp [Text.isDecimal,value]⟩
    | some n =>
      refine ⟨n :: values,after,rfl,by simp; omega,?_⟩
      rw [whole,List.forall_mem_cons]
      simp [Text.isDecimal,value]

/-- Digits are read as a number if they are all decimal and not too many. -/
theorem readInt_digitLike (s : List Char) (proper : s ≠ []) (digits : ∀ c ∈ s, Text.isDigitLike c = true) :
    (∃ n, readInt s = .ok n) ↔ (∀ c ∈ s, Text.isDecimal c = true) ∧ s.length ≤ maxDigits := by
  obtain ⟨values,after,read,lengths,whole⟩ := digitRun?_digitLike s digits
  have some := List.length_pos_iff.mpr proper
  rw [← whole]
  unfold readInt
  rw [signed_digits s digits]
  dsimp only
  rw [read]
  dsimp only
  split
  next long =>
    constructor
    · rintro ⟨n,ok⟩
      cases ok
    · rintro ⟨_,short⟩
      omega
  next short =>
    cases after with
    | nil =>
      have numeral : values.isEmpty = false := by
        cases values with
        | nil => simp at lengths; omega
        | cons value values => rfl
      rw [numeral]
      simp at lengths
      exact ⟨fun _ => ⟨rfl,by omega⟩,fun _ => ⟨_,rfl⟩⟩
    | cons c after => simp

end Pagewright.Decimal
