import Mathlib.Algebra.Order.Field.Power
import Mathlib.Data.Nat.Log
import Mathlib.Data.Rat.Cast.Order
import Mathlib.Tactic.FieldSimp
import Mathlib.Tactic.Linarith
import Mathlib.Tactic.Positivity
import Mathlib.Tactic.Ring
import Pagewright.Decimal.Binary

/-! Rounding to double precision. A mantissa with a round bit and a sticky bit tells where an exact value lies between two
whole numbers, shifting keeps that up to the factor, and what is rounded to in the end is a whole number nearest to the
value at its scale, the even one of two. -/
namespace Pagewright.Decimal
open Float.Model Float.Model.UnpackedFloat

/-- Where an exact value lies, as a mantissa with two more bits tells it. -/
inductive Covers (x : ℚ) : ExtendedMantissa → Prop where
  | exact (m : ℕ) (value : x = m) : Covers x ⟨m,false,false⟩
  | below (m : ℕ) (low : m < x) (high : x < m + 1 / 2) : Covers x ⟨m,false,true⟩
  | half (m : ℕ) (value : x = m + 1 / 2) : Covers x ⟨m,true,false⟩
  | above (m : ℕ) (low : m + 1 / 2 < x) (high : x < m + 1) : Covers x ⟨m,true,true⟩

/-- A whole number nearest to a value, the even one of two. -/
structure NearestEven (x : ℚ) (n : ℕ) : Prop where
  low : n - 1 / 2 ≤ x
  high : x ≤ n + 1 / 2
  even : x = n - 1 / 2 ∨ x = n + 1 / 2 → n % 2 = 0

theorem shiftRightOne_even (k : ℕ) (round sticky : Bool) :
    ExtendedMantissa.shiftRightOne ⟨2 * k,round,sticky⟩ = ⟨k,false,round || sticky⟩ := by
  simp [ExtendedMantissa.shiftRightOne]

theorem shiftRightOne_odd (k : ℕ) (round sticky : Bool) :
    ExtendedMantissa.shiftRightOne ⟨2 * k + 1,round,sticky⟩ = ⟨k,true,round || sticky⟩ := by
  have half : (2 * k + 1) / 2 = k := by omega
  simp [ExtendedMantissa.shiftRightOne,half]

/-- Half of a value that is no whole number lies off the half as well, on the side that the lowest bit tells. -/
theorem covers_half {x : ℚ} (m : ℕ) (round sticky : Bool) (inexact : (round || sticky) = true) (low : m < x)
    (high : x < m + 1) : Covers (x / 2) (ExtendedMantissa.shiftRightOne ⟨m,round,sticky⟩) := by
  obtain ⟨k,rfl | rfl⟩ := Nat.even_or_odd' m <;> push_cast at low high
  · rw [shiftRightOne_even,inexact]
    exact .below k (by linarith) (by linarith)
  · rw [shiftRightOne_odd,inexact]
    exact .above k (by linarith) (by linarith)

namespace Covers

variable {x : ℚ} {em : ExtendedMantissa} (covers : Covers x em)
include covers

theorem floor : em.mantissa ≤ x ∧ x < em.mantissa + 1 := by
  cases covers with
  | exact m value => exact ⟨value.ge,by dsimp only; linarith⟩
  | below m low high => exact ⟨low.le,by dsimp only; linarith⟩
  | half m value => constructor <;> dsimp only <;> linarith
  | above m low high => exact ⟨by dsimp only; linarith,high⟩

theorem shiftRightOne : Covers (x / 2) em.shiftRightOne := by
  cases covers with
  | exact m value =>
    obtain ⟨k,rfl | rfl⟩ := Nat.even_or_odd' m
    · rw [shiftRightOne_even]
      exact .exact k (by rw [value]; push_cast; ring)
    · rw [shiftRightOne_odd]
      exact .half k (by rw [value]; push_cast; ring)
  | below m low high => exact covers_half m _ _ rfl low (by linarith)
  | half m value => exact covers_half m _ _ rfl (by linarith) (by linarith)
  | above m low high => exact covers_half m _ _ rfl (by linarith) high

theorem shiftRight (n : ℕ) : Covers (x / 2 ^ n) (em >>> n) := by
  show Covers _ (n.repeat ExtendedMantissa.shiftRightOne em)
  induction n with
  | zero => simpa [Nat.repeat] using covers
  | succ n ih =>
    rw [pow_succ,div_mul_eq_div_div]
    exact ih.shiftRightOne

theorem nearest : NearestEven x em.roundedMantissa := by
  cases covers with
  | exact m value =>
    have kept : ExtendedMantissa.roundedMantissa ⟨m,false,false⟩ = m := rfl
    rw [kept]
    exact ⟨by linarith,by linarith,fun tie => by rcases tie with tie | tie <;> linarith⟩
  | below m low high =>
    have kept : ExtendedMantissa.roundedMantissa ⟨m,false,true⟩ = m := rfl
    rw [kept]
    exact ⟨by linarith,high.le,fun tie => by rcases tie with tie | tie <;> linarith⟩
  | half m value =>
    have evened : ExtendedMantissa.roundedMantissa ⟨m,true,false⟩ = m + m % 2 := rfl
    rw [evened]
    obtain even | odd := Nat.mod_two_eq_zero_or_one m
    · rw [even]
      exact ⟨by push_cast; linarith,by push_cast; linarith,fun _ => even⟩
    · rw [odd]
      exact ⟨by push_cast; linarith,by push_cast; linarith,fun _ => by omega⟩
  | above m low high =>
    have raised : ExtendedMantissa.roundedMantissa ⟨m,true,true⟩ = m + 1 := rfl
    have next : ((m + 1 : ℕ) : ℚ) = m + 1 := Nat.cast_succ m
    rw [raised]
    refine ⟨by linarith,by linarith,fun tie => ?_⟩
    rcases tie with tie | tie <;> linarith

end Covers

/-- What a remainder tells about a quotient. -/
theorem covers_quotient (num den : ℕ) (proper : 0 < den) :
    Covers (num / den) (.ofMantissaAndAccuracy (num / den) (accuracyOfFraction (num % den) den)) := by
  have size : (0 : ℚ) < den := by exact_mod_cast proper
  have whole : (num : ℚ) = den * (num / den : ℕ) + (num % den : ℕ) := by exact_mod_cast (Nat.div_add_mod num den).symm
  have parts : (num : ℚ) / den = (num / den : ℕ) + (num % den : ℕ) / den := by
    conv_lhs => rw [whole]
    rw [add_div,mul_div_cancel_left₀ _ size.ne']
  have small : ((num % den : ℕ) : ℚ) < den := by exact_mod_cast Nat.mod_lt num proper
  unfold accuracyOfFraction
  split
  next none =>
    rw [parts,none]
    exact .exact _ (by simp)
  next some =>
    have left : (0 : ℚ) < (num % den : ℕ) := by exact_mod_cast Nat.pos_of_ne_zero some
    obtain less | same | more := Nat.lt_trichotomy (2 * (num % den)) den
    · have less' : (2 : ℚ) * (num % den : ℕ) < den := by exact_mod_cast less
      rw [compare_lt_iff_lt.mpr less,parts]
      refine .below _ (by linarith [div_pos left size]) ?_
      have part : ((num % den : ℕ) : ℚ) / den < 1 / 2 := by rw [div_lt_div_iff₀ size two_pos]; linarith
      linarith
    · have same' : (2 : ℚ) * (num % den : ℕ) = den := by exact_mod_cast same
      rw [compare_eq_iff_eq.mpr same,parts]
      refine .half _ ?_
      have part : ((num % den : ℕ) : ℚ) / den = 1 / 2 := by rw [div_eq_div_iff size.ne' two_ne_zero]; linarith
      linarith
    · have more' : (den : ℚ) < 2 * (num % den : ℕ) := by exact_mod_cast more
      rw [compare_gt_iff_gt.mpr more,parts]
      have part : (1 : ℚ) / 2 < (num % den : ℕ) / den := by rw [div_lt_div_iff₀ two_pos size]; linarith
      have whole : ((num % den : ℕ) : ℚ) / den < 1 := (div_lt_one size).mpr small
      exact .above _ (by linarith) (by linarith)

/-- The scale of a rounded value. -/
def scale (m : ℕ) (e : ℤ) : ℤ := max (m.log2 + 1 + e - 53) (-1074)

theorem targetExponent_scale (m : ℕ) (e : ℤ) : Format.binary64.targetExponent (totalExponent m e) = scale m e := rfl

/-- A positive value rounded to a whole number at its scale. -/
structure Rounded (w : ℚ) (n : ℕ) (e : ℤ) : Prop where
  least : -1074 ≤ e
  small : w < 2 ^ 53 * 2 ^ e
  full : 2 ^ 52 * 2 ^ e ≤ w ∨ e = -1074
  nearest : NearestEven (w / 2 ^ e) n

namespace Rounded

variable {w : ℚ} {n : ℕ} {e : ℤ} (rounded : Rounded w n e)
include rounded

theorem bound : n ≤ 2 ^ 53 := by
  have size : (0 : ℚ) < 2 ^ e := by positivity
  have less : w / 2 ^ e < 2 ^ 53 := (div_lt_iff₀ size).mpr rounded.small
  have near := rounded.nearest.low
  have below : (n : ℚ) < (2 ^ 53 + 1 : ℕ) := by push_cast; linarith
  exact Nat.lt_succ_iff.mp (by exact_mod_cast below)

theorem long : 2 ^ 52 ≤ n ∨ e = -1074 := by
  refine rounded.full.imp_left fun full => ?_
  have size : (0 : ℚ) < 2 ^ e := by positivity
  have more : 2 ^ 52 ≤ w / 2 ^ e := (le_div_iff₀ size).mpr full
  have near := rounded.nearest.high
  have above : ((2 ^ 52 : ℕ) : ℚ) < (n + 1 : ℕ) := by push_cast; linarith
  exact Nat.lt_succ_iff.mp (by exact_mod_cast above)

theorem close : |n * 2 ^ e - w| ≤ 2 ^ e / 2 := by
  have size : (0 : ℚ) < 2 ^ e := by positivity
  have value : w = w / 2 ^ e * 2 ^ e := (div_mul_cancel₀ w size.ne').symm
  obtain ⟨low,high,_⟩ := rounded.nearest
  rw [abs_le]
  constructor <;> nlinarith

end Rounded

/-- A mantissa at its scale as a number; one that was rounded up to the next power of two has the next scale. -/
def settled (sign : Sign) (n : ℕ) (e : ℤ) : UnpackedFloat :=
  if proper : 0 < n then if n = 2 ^ 53 then .finite sign (2 ^ 52) (e + 1) (by decide) else .finite sign n e proper
  else .zero sign

theorem shiftToExponent_self (n : ℕ) (e target : ℤ) (least : target ≤ e) :
    shiftToExponent n e .exact target = (⟨n,false,false⟩,e) := by
  have none : (target - e).toNat = 0 := Int.toNat_of_nonpos (by omega)
  unfold shiftToExponent
  rw [none]
  exact Prod.ext rfl (by simp)

theorem shiftToExponent_next (e : ℤ) :
    shiftToExponent (2 ^ 53) e .exact (e + 1) = (⟨2 ^ 52,false,false⟩,e + 1) := by
  have one : (e + 1 - e).toNat = 1 := by simp
  unfold shiftToExponent
  rw [one]
  rfl

theorem log2_small (n : ℕ) (small : n < 2 ^ 53) : n.log2 ≤ 52 := by
  by_cases none : n = 0
  · subst none
    decide
  · exact Nat.lt_succ_iff.mp ((Nat.log2_lt none).mpr small)

/-- A mantissa that is left after rounding as a number. -/
def left (sign : Sign) (final : ExtendedMantissa × ℤ) : UnpackedFloat :=
  if h : final.1.mantissa = 0 then .zero sign else .finite sign final.1.mantissa final.2 (Nat.pos_of_ne_zero h)

/-- Once a mantissa is rounded, it settles at its scale. -/
theorem left_settled (sign : Sign) (n : ℕ) (e : ℤ) (least : -1074 ≤ e) (bound : n ≤ 2 ^ 53) :
    left sign (shiftToTargetExponent .binary64 n e .exact) = settled sign n e := by
  obtain small | rfl := Nat.lt_or_eq_of_le bound
  · have length := log2_small n small
    have kept : shiftToTargetExponent .binary64 n e .exact = (⟨n,false,false⟩,e) := by
      refine shiftToExponent_self n e _ ?_
      rw [targetExponent_scale,scale]
      omega
    rw [kept]
    unfold left settled
    by_cases none : n = 0
    · rw [dif_pos none,dif_neg (by omega)]
    · rw [dif_neg none,dif_pos (Nat.pos_of_ne_zero none),if_neg small.ne]
  · have length : Nat.log2 (2 ^ 53) = 53 := by decide
    have target : Format.binary64.targetExponent (totalExponent (2 ^ 53) e) = e + 1 := by
      rw [targetExponent_scale,scale,length]
      omega
    have raised : shiftToTargetExponent .binary64 (2 ^ 53) e .exact = (⟨2 ^ 52,false,false⟩,e + 1) := by
      unfold shiftToTargetExponent
      rw [target]
      exact shiftToExponent_next e
    rw [raised]
    rfl

section Rounding

variable (m : ℕ) (e : ℤ) (accuracy : Accuracy) (w : ℚ)
  (covers : Covers (w / 2 ^ e) (.ofMantissaAndAccuracy m accuracy)) (fine : e ≤ scale m e)
include covers

theorem covered_floor : m * 2 ^ e ≤ w ∧ w < (m + 1) * 2 ^ e := by
  have size : (0 : ℚ) < 2 ^ e := by positivity
  have mantissa : (ExtendedMantissa.ofMantissaAndAccuracy m accuracy).mantissa = m := by
    unfold ExtendedMantissa.ofMantissaAndAccuracy
    split <;> rfl
  have between := covers.floor
  rw [mantissa] at between
  exact ⟨(le_div_iff₀ size).mp between.1,(div_lt_iff₀ size).mp between.2⟩

include fine

theorem covered_rounded :
    Rounded w (ExtendedMantissa.ofMantissaAndAccuracy m accuracy >>> (scale m e - e).toNat).roundedMantissa (scale m e) := by
  obtain ⟨low,high⟩ := covered_floor m e accuracy w covers
  have size : (0 : ℚ) < 2 ^ e := by positivity
  constructor
  · exact le_max_right _ _
  · have length : ((m + 1 : ℕ) : ℚ) ≤ (2 ^ (m.log2 + 1) : ℕ) := by exact_mod_cast Nat.lt_log2_self
    push_cast at length
    calc w < (m + 1) * 2 ^ e := high
      _ ≤ 2 ^ (m.log2 + 1) * 2 ^ e := by gcongr
      _ = 2 ^ ((m.log2 + 1 : ℤ) + e) := by rw [zpow_add₀ two_ne_zero]; norm_cast
      _ ≤ 2 ^ (53 + scale m e) := zpow_le_zpow_right₀ one_le_two (by rw [scale]; omega)
      _ = 2 ^ 53 * 2 ^ scale m e := by rw [zpow_add₀ two_ne_zero]; norm_cast
  · by_cases bottom : scale m e = -1074
    · exact .inr bottom
    · refine .inl ?_
      have top : scale m e = m.log2 + 1 + e - 53 := by
        rw [scale] at bottom ⊢
        omega
      have some : m ≠ 0 := by
        rintro rfl
        have short : Nat.log2 0 = 0 := by decide
        rw [short] at top
        omega
      have length : ((2 ^ m.log2 : ℕ) : ℚ) ≤ (m : ℕ) := by exact_mod_cast Nat.log2_self_le some
      push_cast at length
      calc (2 : ℚ) ^ 52 * 2 ^ scale m e = 2 ^ ((m.log2 : ℤ) + e) := by
            rw [← zpow_natCast,← zpow_add₀ two_ne_zero,top]
            congr 1
            push_cast
            omega
        _ = 2 ^ m.log2 * 2 ^ e := by rw [zpow_add₀ two_ne_zero]; norm_cast
        _ ≤ m * 2 ^ e := by gcongr
        _ ≤ w := low
  · have shifted : w / 2 ^ scale m e = w / 2 ^ e / 2 ^ (scale m e - e).toNat := by
      rw [div_div,← zpow_natCast,← zpow_add₀ two_ne_zero,Int.toNat_of_nonneg (by omega)]
      congr 2
      omega
    rw [shifted]
    exact (covers.shiftRight _).nearest

/-- Rounding gives a whole number nearest to the value at its scale. -/
theorem roundWithAccuracy_rounded (sign : Sign) : ∃ n, Rounded w n (scale m e) ∧
    roundWithAccuracy .binary64 sign m e accuracy = settled sign n (scale m e) := by
  have rounded := covered_rounded m e accuracy w covers fine
  have shifted : e + (scale m e - e).toNat = scale m e := by
    rw [Int.toNat_of_nonneg (by omega)]
    omega
  have first : shiftToTargetExponent .binary64 m e accuracy =
      (ExtendedMantissa.ofMantissaAndAccuracy m accuracy >>> (scale m e - e).toNat,scale m e) := Prod.ext rfl shifted
  refine ⟨_,rounded,?_⟩
  rw [← left_settled sign _ _ rounded.least rounded.bound]
  unfold roundWithAccuracy
  rw [first]
  rfl

end Rounding

end Pagewright.Decimal
