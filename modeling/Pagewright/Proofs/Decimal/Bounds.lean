import Mathlib.Tactic.NormNum
import Pagewright.Proofs.Decimal.Arithmetic

/-! Where double precision arithmetic is safe. A result that is not large is off by next to nothing, a result that is large
is a large number or positively infinite and so still compares as it should, and a quotient of whole numbers is finite as
long as it is below the midpoint between the largest number and the next power of two. -/
namespace Pagewright.Decimal
open Float.Model (UnpackedFloat Format)
open Float.Model.UnpackedFloat

/-- A number that is not below a bound, or positively infinite. -/
inductive AtLeast (bound : ℚ) (x : Float) : Prop where
  | value (v : ℚ) (stands : Stands x v) (above : bound ≤ v)
  | infinite (unpacked : x.toModel.unpack = .infinity .positive)

theorem AtLeast.mono (bound other : ℚ) (x : Float) (atLeast : AtLeast bound x) (lower : other ≤ bound) :
    AtLeast other x := by
  cases atLeast with
  | value v stands above => exact .value v stands (lower.trans above)
  | infinite unpacked => exact .infinite unpacked

theorem AtLeast.of_finite (bound : ℚ) (x : Float) (atLeast : AtLeast bound x) (finite : x.isFinite = true) :
    ∃ v, Stands x v ∧ bound ≤ v := by
  cases atLeast with
  | value v stands above => exact ⟨v,stands,above⟩
  | infinite unpacked =>
    have unfinished : x.isFinite = (UnpackedFloat.infinity .positive).isFinite := congrArg UnpackedFloat.isFinite unpacked
    cases unfinished.symm.trans finite

theorem last_place : (2 : ℚ) ^ (-1075 : ℤ) ≤ 1 / 10 ^ 6 / 2 :=
  (zpow_le_zpow_right₀ one_le_two (by decide : (-1075 : ℤ) ≤ -30)).trans (by norm_num)

theorem large_power : (1000 : ℚ) < 2 ^ (1023 : ℤ) :=
  lt_of_lt_of_le (by norm_num) (zpow_le_zpow_right₀ one_le_two (by decide : (10 : ℤ) ≤ 1023))

section Rounding

variable (w : ℚ) (x : Float) (rounds : Rounds w x)
include rounds

/-- A result that is not large is off by a millionth at most. -/
theorem rounds_small (low : -1000 ≤ w) (high : w ≤ 1000) : ∃ v, Stands x v ∧ w - 1 / 10 ^ 6 ≤ v ∧ v ≤ w + 1 / 10 ^ 6 := by
  have small : |w| ≤ 1000 := abs_le.mpr ⟨low,high⟩
  cases rounds with
  | near v stands close =>
    have part : |w| / 2 ^ 53 ≤ 1 / 10 ^ 6 / 2 := by linarith
    obtain ⟨below,above⟩ := abs_le.mp (close.trans (add_le_add part last_place))
    exact ⟨v,stands,by linarith,by linarith⟩
  | beyond sign _ _ large => exact absurd small (not_le.mpr (large_power.trans_le large))

/-- A result that is not far below zero is hardly less than the exact one, or positively infinite. -/
theorem rounds_atLeast (bound : ℚ) (low : -1 ≤ bound) (most : bound ≤ 0) (above : bound ≤ w) :
    AtLeast (bound - 1 / 10 ^ 6) x := by
  cases rounds with
  | near v stands close =>
    refine .value v stands ?_
    have down := (abs_le.mp (close.trans (add_le_add_right last_place _))).1
    obtain negative | positive := lt_or_ge w 0
    · have part : -w / 2 ^ 53 ≤ 1 / 10 ^ 6 / 2 := by linarith
      rw [abs_of_neg negative] at down
      linarith
    · rw [abs_of_nonneg positive] at down
      linarith
  | beyond sign infinite same large =>
    have positive : 0 < w := by
      refine lt_of_not_ge fun negative => ?_
      have beyond := large_power.trans_le large
      rw [abs_of_nonpos negative] at beyond
      linarith
    cases sign with
    | positive => exact .infinite infinite
    | negative =>
      rw [factor] at same
      linarith

end Rounding

section Small

variable (x y : Float) (a b : ℚ) (first : Stands x a) (second : Stands y b)
include first second

theorem add_small (low : -1000 ≤ a + b) (high : a + b ≤ 1000) :
    ∃ v, Stands (x + y) v ∧ a + b - 1 / 10 ^ 6 ≤ v ∧ v ≤ a + b + 1 / 10 ^ 6 :=
  rounds_small _ _ (add_rounds x y a b first second) low high

theorem sub_small (low : -1000 ≤ a - b) (high : a - b ≤ 1000) :
    ∃ v, Stands (x - y) v ∧ a - b - 1 / 10 ^ 6 ≤ v ∧ v ≤ a - b + 1 / 10 ^ 6 :=
  rounds_small _ _ (sub_rounds x y a b first second) low high

theorem mul_small (low : -1000 ≤ a * b) (high : a * b ≤ 1000) :
    ∃ v, Stands (x * y) v ∧ a * b - 1 / 10 ^ 6 ≤ v ∧ v ≤ a * b + 1 / 10 ^ 6 :=
  rounds_small _ _ (mul_rounds x y a b first second) low high

end Small

section Comparing

variable (x y : Float) (b : ℚ) (second : Stands y b)
include second

theorem infinite_not_lt (infinite : x.toModel.unpack = .infinity .positive) : ¬ x < y := by
  show ¬ decide ((x.toModel.unpack.compare y.toModel.unpack == some .lt) = true) = true
  rw [decide_eq_true_iff,beq_iff_eq,infinite]
  obtain ⟨s,unpacked,_⟩ | ⟨s,m,e,proper,unpacked,_,_⟩ := stands_cases y b second <;>
    rw [unpacked] <;> cases s <;> exact fun less => by (cases less)

theorem sub_infinite (infinite : x.toModel.unpack = .infinity .positive) :
    (x - y).toModel.unpack = .infinity .positive := by
  show (packed (sub .binary64 x.toModel.unpack y.toModel.unpack)).toModel.unpack = _
  obtain ⟨s,unpacked,_⟩ | ⟨s,m,e,proper,unpacked,_,_⟩ := stands_cases y b second <;>
    rw [infinite,unpacked] <;> exact unpack_pack_infinity .positive

namespace AtLeast

variable (bound : ℚ) (atLeast : AtLeast bound x)
include atLeast

theorem of_lt (less : x < y) : ∃ v, Stands x v ∧ bound ≤ v ∧ v < b := by
  cases atLeast with
  | value v stands above => exact ⟨v,stands,above,(lt_iff_values x y v b stands second).mp less⟩
  | infinite unpacked => exact absurd less (infinite_not_lt x y b second unpacked)

theorem of_not_lt (other : ¬ x < y) : AtLeast b x := by
  cases atLeast with
  | value v stands _ => exact .value v stands (not_lt.mp (mt (lt_iff_values x y v b stands second).mpr other))
  | infinite unpacked => exact .infinite unpacked

end AtLeast

end Comparing

/-- The whole number from which on quotients are beyond all double precision numbers. -/
def beyondAll : ℕ := 2 ^ 1024 - 2 ^ 970

theorem lt_power_gap (n i k m : ℕ) (small : n < 2 ^ i) (lower : i ≤ k) (higher : k < m) : n < 2 ^ m - 2 ^ k := by
  have first : 2 ^ i ≤ 2 ^ k := Nat.pow_le_pow_right two_pos lower
  have double : 2 ^ k + 2 ^ k ≤ 2 ^ m := (Nat.two_pow_succ k).ge.trans (Nat.pow_le_pow_right two_pos higher)
  omega

theorem small_within (n : ℕ) (small : n < 2 ^ 30) : n < beyondAll :=
  lt_power_gap n 30 970 1024 small (by decide) (by decide)

theorem beyondAll_units : (beyondAll : ℚ) = (2 ^ 54 - 1) * 2 ^ (970 : ℤ) := by
  have units : beyondAll = (2 ^ 54 - 1) * 2 ^ 970 := by
    rw [beyondAll,Nat.sub_mul,← pow_add,one_mul]
  rw [units,Nat.cast_mul,Nat.cast_pow,Nat.cast_ofNat,Nat.cast_sub (by decide),Nat.cast_pow,Nat.cast_ofNat,Nat.cast_one]
  exact congrArg _ (zpow_natCast 2 970).symm

theorem settled_finite (sign : Sign) (n : ℕ) (e : ℤ) (least : -1074 ≤ e) (bound : n ≤ 2 ^ 53)
    (long : 2 ^ 52 ≤ n ∨ e = -1074) : (packed (settled sign n e)).isFinite = true ↔ e ≤ 970 ∨ e = 971 ∧ n < 2 ^ 53 := by
  show (unpack .binary64 (pack .binary64 (settled sign n e))).isFinite = true ↔ _
  unfold settled
  by_cases proper : 0 < n
  · rw [dif_pos proper]
    by_cases top : n = 2 ^ 53
    · rw [if_pos top,unpack_pack_finite sign (2 ^ 52) (e + 1) (by decide) (by decide) (by omega) (.inl (Nat.le_refl _))]
      by_cases most : e + 1 ≤ 971
      · rw [if_pos most]
        exact iff_of_true rfl (by omega)
      · rw [if_neg most]
        exact iff_of_false Bool.false_ne_true (by omega)
    · rw [if_neg top,unpack_pack_finite sign n e proper (Nat.lt_of_le_of_ne bound top) least long]
      by_cases most : e ≤ 971
      · rw [if_pos most]
        exact iff_of_true rfl (by omega)
      · rw [if_neg most]
        exact iff_of_false Bool.false_ne_true (by omega)
  · rw [dif_neg proper,unpack_pack_zero]
    exact iff_of_true rfl (by omega)

/-- A rounded value has an exponent that is not too large just if the value itself is not beyond all numbers. -/
theorem rounded_within (w : ℚ) (n : ℕ) (e : ℤ) (rounded : Rounded w n e) :
    e ≤ 970 ∨ e = 971 ∧ n < 2 ^ 53 ↔ w < beyondAll := by
  have unit : (0 : ℚ) < 2 ^ (970 : ℤ) := by positivity
  have next : (2 : ℚ) ^ (971 : ℤ) = 2 ^ (970 : ℤ) * 2 := zpow_add_one₀ two_ne_zero 970
  rw [beyondAll_units]
  obtain below | rfl | above := lt_trichotomy e 971
  · refine iff_of_true (.inl (by omega)) ?_
    have power : (2 : ℚ) ^ e ≤ 2 ^ (970 : ℤ) := zpow_le_zpow_right₀ one_le_two (by omega)
    calc w < 2 ^ 53 * 2 ^ e := rounded.small
      _ ≤ 2 ^ 53 * 2 ^ (970 : ℤ) := by gcongr
      _ ≤ (2 ^ 54 - 1) * 2 ^ (970 : ℤ) := by gcongr; norm_num
  · have value : w = w / 2 ^ (971 : ℤ) * 2 ^ (970 : ℤ) * 2 := by
      rw [mul_assoc,← next,div_mul_cancel₀ w (by positivity)]
    obtain ⟨low,high,even⟩ := rounded.nearest
    generalize w / 2 ^ (971 : ℤ) = part at *
    rw [value]
    have scaled : part * 2 ^ (970 : ℤ) * 2 < (2 ^ 54 - 1) * 2 ^ (970 : ℤ) ↔ part * 2 < 2 ^ 54 - 1 := by
      rw [mul_right_comm,mul_lt_mul_iff_left₀ unit]
    rw [scaled]
    constructor
    · rintro (below | ⟨-,small⟩)
      · omega
      · -- The midpoint itself has an odd neighbour below, so a value that is rounded down to it is smaller.
        have size : (n : ℚ) + 1 ≤ 2 ^ 53 := by exact_mod_cast small
        refine lt_of_le_of_ne (by linarith) fun middle => ?_
        have tie : part = n + 1 / 2 := by linarith
        have top : (n : ℚ) + 1 = 2 ^ 53 := by linarith
        have odd : n + 1 = 2 ^ 53 := by exact_mod_cast top
        have two := even (.inr tie)
        omega
    · intro less
      have size : (n : ℚ) < 2 ^ 53 := by linarith
      exact .inr ⟨rfl,by exact_mod_cast size⟩
  · refine iff_of_false (by omega) (not_lt.mpr ?_)
    have power : (2 : ℚ) ^ (970 + 2 : ℤ) ≤ 2 ^ e := zpow_le_zpow_right₀ one_le_two (by omega)
    calc ((2 : ℚ) ^ 54 - 1) * 2 ^ (970 : ℤ) ≤ 2 ^ 54 * 2 ^ (970 : ℤ) := by gcongr; norm_num
      _ = 2 ^ 52 * 2 ^ (970 + 2 : ℤ) := by rw [zpow_add₀ two_ne_zero]; ring
      _ ≤ 2 ^ 52 * 2 ^ e := by gcongr
      _ ≤ w := rounded.full.resolve_right (by omega)

section Quotient

variable (num den : ℕ) (some : 0 < num) (proper : 0 < den)
include some proper

theorem ofPositiveRatio_rounds : Rounds (num / den) (ofPositiveRatio num den) := by
  obtain ⟨n,e,rounded,same⟩ := ofPositiveRatio_rounded num den some proper
  have first : (0 : ℚ) < num := by exact_mod_cast some
  have second : (0 : ℚ) < den := by exact_mod_cast proper
  have rounds := settled_rounds .positive n e _ rounded (div_pos first second)
  rwa [factor,one_mul,← same] at rounds

theorem ofPositiveRatio_finite : (ofPositiveRatio num den).isFinite = true ↔ num < den * beyondAll := by
  obtain ⟨n,e,rounded,same⟩ := ofPositiveRatio_rounded num den some proper
  have size : (0 : ℚ) < den := by exact_mod_cast proper
  rw [same,settled_finite .positive n e rounded.least rounded.bound rounded.long,rounded_within _ n e rounded,
    div_lt_iff₀' size]
  exact_mod_cast Iff.rfl

end Quotient

section Ratio

variable (n den : ℕ)

theorem ofRatio_natural : ofRatio n den = if n = 0 then 0.0 else ofPositiveRatio n den := by
  rw [ofRatio,if_neg (by omega : ¬ (n : ℤ) < 0),Int.natAbs_natCast]
  simp

variable (proper : 0 < den)
include proper

/-- A quotient of whole numbers, rounded. -/
theorem ofRatio_rounds : Rounds (n / den) (ofRatio n den) := by
  rw [ofRatio_natural]
  split
  next none =>
    rw [none,Nat.cast_zero,zero_div]
    exact rounds_exact _ 0 rfl
  next some => exact ofPositiveRatio_rounds n den (Nat.pos_of_ne_zero some) proper

/-- A quotient of whole numbers is finite just if it is not beyond all numbers. -/
theorem ofRatio_finite : (ofRatio n den).isFinite = true ↔ n < den * beyondAll := by
  rw [ofRatio_natural]
  split
  next none => exact iff_of_true rfl (none ▸ Nat.mul_pos proper (small_within 0 (by decide)))
  next some => exact ofPositiveRatio_finite n den (Nat.pos_of_ne_zero some) proper

end Ratio

end Pagewright.Decimal
