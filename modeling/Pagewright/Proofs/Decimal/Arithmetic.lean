import Mathlib.Algebra.Order.Floor.Ring
import Mathlib.Data.Rat.Floor
import Pagewright.Proofs.Decimal.Words

/-! Double precision arithmetic and exact values. A sum, a difference, a product or a quotient of numbers is near the exact
one, or infinite where that is beyond all numbers, and the order of numbers is that of their values. -/
namespace Pagewright.Decimal
open Float.Model (UnpackedFloat Format)
open Float.Model.UnpackedFloat

def factor : Sign → ℚ
  | .negative => -1
  | .positive => 1

/-- The exact value of a number that has one. -/
def exactValue : UnpackedFloat → Option ℚ
  | .zero _ => some 0
  | .finite sign m e _ => some (factor sign * (m * 2 ^ e))
  | .infinity _ => none
  | .notANumber => none

/-- A double precision number stands for an exact value. -/
def Stands (x : Float) (v : ℚ) : Prop := exactValue x.toModel.unpack = some v

instance (x : Float) (v : ℚ) : Decidable (Stands x v) := inferInstanceAs (Decidable (_ = _))

/-- An unpacked number in its word. -/
def packed (number : UnpackedFloat) : Float := .ofModel (.pack number)

/-- What a value is rounded to: a number near it, or an infinite one. -/
inductive Rounds (w : ℚ) (x : Float) : Prop where
  | near (v : ℚ) (stands : Stands x v) (close : |v - w| ≤ |w| / 2 ^ 53 + 2 ^ (-1075 : ℤ))
  | beyond (sign : Sign) (infinite : x.toModel.unpack = .infinity sign) (same : 0 < factor sign * w)
    (large : 2 ^ (1023 : ℤ) ≤ |w|)

theorem abs_factor (sign : Sign) : |factor sign| = 1 := by
  cases sign <;> norm_num [factor]

theorem factor_square (sign : Sign) : factor sign * factor sign = 1 := by
  cases sign <;> norm_num [factor]

theorem rounds_exact (x : Float) (v : ℚ) (stands : Stands x v) : Rounds v x := by
  refine .near v stands ?_
  rw [sub_self,abs_zero]
  positivity

theorem zero_stands (sign : Sign) : Stands (packed (.zero sign)) 0 := congrArg exactValue (unpack_pack_zero sign)

theorem finite_stands (sign : Sign) (m : ℕ) (e : ℤ) (proper : 0 < m) (canonical : Canonical m e) :
    Stands (packed (.finite sign m e proper)) (factor sign * (m * 2 ^ e)) := by
  have unpacked := unpack_pack_finite sign m e proper canonical.small canonical.least canonical.long
  rw [if_pos canonical.most] at unpacked
  exact congrArg exactValue unpacked

/-- A number with an exact value is zero, or has a mantissa and an exponent as words have them. -/
theorem stands_cases (x : Float) (v : ℚ) (stands : Stands x v) :
    (∃ sign, x.toModel.unpack = .zero sign ∧ v = 0) ∨
      ∃ sign m e proper, x.toModel.unpack = .finite sign m e proper ∧ Canonical m e ∧ v = factor sign * (m * 2 ^ e) := by
  unfold Stands at stands
  cases unpacked : x.toModel.unpack with
  | zero sign => rw [unpacked] at stands; exact .inl ⟨sign,rfl,(Option.some.inj stands).symm⟩
  | finite sign m e proper =>
    rw [unpacked] at stands
    exact .inr ⟨sign,m,e,proper,rfl,unpack_canonical _ sign m e proper unpacked,(Option.some.inj stands).symm⟩
  | infinity sign => rw [unpacked] at stands; cases stands
  | notANumber => rw [unpacked] at stands; cases stands

section Settling

variable (sign : Sign) (n : ℕ) (e : ℤ) (w : ℚ) (rounded : Rounded w n e)
include rounded

theorem rounded_error : 2 ^ e / 2 ≤ |w| / 2 ^ 53 + 2 ^ (-1075 : ℤ) := by
  obtain full | bottom := rounded.full
  · have size : w ≤ |w| := le_abs_self w
    have rest : (0 : ℚ) ≤ 2 ^ (-1075 : ℤ) := by positivity
    linarith
  · have size : 0 ≤ |w| / 2 ^ 53 := by positivity
    have least : (2 : ℚ) ^ (-1074 : ℤ) = 2 ^ (-1075 : ℤ) * 2 := zpow_add_one₀ two_ne_zero (-1075)
    rw [bottom,least]
    linarith

theorem rounded_close : |factor sign * (n * 2 ^ e) - factor sign * w| ≤
    |factor sign * w| / 2 ^ 53 + 2 ^ (-1075 : ℤ) := by
  rw [← mul_sub,abs_mul,abs_mul,abs_factor,one_mul,one_mul]
  exact rounded.close.trans (rounded_error n e w rounded)

variable (positive : 0 < w)
include positive

theorem rounded_large (beyond : 971 < e ∨ e = 971 ∧ n = 2 ^ 53) : 2 ^ (1023 : ℤ) ≤ |factor sign * w| := by
  rw [abs_mul,abs_factor,one_mul,abs_of_pos positive]
  obtain above | ⟨rfl,rfl⟩ := beyond
  · calc (2 : ℚ) ^ (1023 : ℤ) ≤ 2 ^ (52 + e) := zpow_le_zpow_right₀ one_le_two (by omega)
      _ = 2 ^ 52 * 2 ^ e := zpow_add₀ two_ne_zero 52 e
      _ ≤ w := rounded.full.resolve_right (by omega)
  · have close := (abs_le.mp rounded.close).2
    have power : (2 : ℚ) ^ (1023 : ℤ) = 2 ^ 52 * 2 ^ (971 : ℤ) := zpow_add₀ two_ne_zero 52 971
    have size : (0 : ℚ) < 2 ^ (971 : ℤ) := by positivity
    rw [power]
    generalize (2 : ℚ) ^ (971 : ℤ) = ulp at close size
    push_cast at close
    linarith

/-- A rounded value in its word. -/
theorem settled_rounds : Rounds (factor sign * w) (packed (settled sign n e)) := by
  have close := rounded_close sign n e w rounded
  have same : 0 < factor sign * (factor sign * w) := by
    rw [← mul_assoc,factor_square,one_mul]
    exact positive
  have least := rounded.least
  unfold settled
  by_cases proper : 0 < n
  · rw [dif_pos proper]
    by_cases top : n = 2 ^ 53
    · rw [if_pos top]
      subst top
      have value : factor sign * ((2 ^ 53 : ℕ) * 2 ^ e) = factor sign * ((2 ^ 52 : ℕ) * 2 ^ (e + 1)) := by
        rw [zpow_add₀ two_ne_zero]
        push_cast
        ring
      have unpacked := unpack_pack_finite sign (2 ^ 52) (e + 1) (by decide) (by decide) (by omega) (.inl (Nat.le_refl _))
      by_cases most : e + 1 ≤ 971
      · rw [if_pos most] at unpacked
        exact .near _ (congrArg exactValue unpacked) (value ▸ close)
      · rw [if_neg most] at unpacked
        exact .beyond sign unpacked same (rounded_large sign _ e w rounded positive (by omega))
    · rw [if_neg top]
      have small : n < 2 ^ 53 := Nat.lt_of_le_of_ne rounded.bound top
      have unpacked := unpack_pack_finite sign n e proper small least rounded.long
      by_cases most : e ≤ 971
      · rw [if_pos most] at unpacked
        exact .near _ (congrArg exactValue unpacked) close
      · rw [if_neg most] at unpacked
        exact .beyond sign unpacked same (rounded_large sign _ e w rounded positive (by omega))
  · rw [dif_neg proper]
    obtain rfl : n = 0 := by omega
    refine .near 0 (congrArg exactValue (unpack_pack_zero sign)) ?_
    simpa using close

end Settling

theorem log2_shiftLeft (m k : ℕ) (proper : 0 < m) : (m <<< k).log2 = m.log2 + k := by
  induction k with
  | zero => rfl
  | succ k ih =>
    have some : m <<< k ≠ 0 := by
      rw [Nat.shiftLeft_eq]
      positivity
    rw [Nat.shiftLeft_succ,Nat.log2_two_mul some,ih,Nat.add_assoc]

/-- A longer mantissa with a smaller exponent has the same value. -/
theorem value_shiftLeft (m k : ℕ) (e : ℤ) : ((m <<< k : ℕ) : ℚ) * 2 ^ (e - k) = m * 2 ^ e := by
  rw [Nat.shiftLeft_eq,Nat.cast_mul,mul_assoc]
  push_cast
  rw [← zpow_natCast,← zpow_add₀ two_ne_zero]
  congr 2
  omega

section Rounding

variable (sign : Sign) (m : ℕ) (e : ℤ) (proper : 0 < m)
include proper

theorem value_positive : (0 : ℚ) < m * 2 ^ e := by
  have size : (0 : ℚ) < m := by exact_mod_cast proper
  positivity

/-- An exact mantissa that is long enough, rounded. -/
theorem roundWithAccuracy_rounds (fine : e ≤ scale m e) :
    Rounds (factor sign * (m * 2 ^ e)) (packed (roundWithAccuracy .binary64 sign m e .exact)) := by
  have size : (0 : ℚ) < 2 ^ e := by positivity
  have covers : Covers (m * 2 ^ e / 2 ^ e) (.ofMantissaAndAccuracy m .exact) :=
    .exact m (mul_div_cancel_right₀ _ size.ne')
  obtain ⟨n,rounded,same⟩ := roundWithAccuracy_rounded m e .exact _ covers fine sign
  rw [same]
  exact settled_rounds sign n _ _ rounded (value_positive m e proper)

/-- An exact mantissa of any length, rounded. -/
theorem round_rounds : Rounds (factor sign * (m * 2 ^ e)) (packed (round .binary64 sign m e)) := by
  have longer : 0 < m <<< (e - scale m e).toNat := by
    rw [Nat.shiftLeft_eq]
    positivity
  have fine : e - (e - scale m e).toNat ≤ scale (m <<< (e - scale m e).toNat) (e - (e - scale m e).toNat) := by
    have same : scale (m <<< (e - scale m e).toNat) (e - (e - scale m e).toNat) = scale m e := by
      unfold scale
      rw [log2_shiftLeft m _ proper]
      omega
    rw [same]
    omega
  have rounds := roundWithAccuracy_rounds sign _ _ longer fine
  rw [value_shiftLeft] at rounds
  exact rounds

end Rounding

/-- A signed mantissa of any length, rounded. -/
theorem normalize_rounds (k e : ℤ) : Rounds (k * 2 ^ e) (packed (UnpackedFloat.normalize .binary64 k e .positive)) := by
  unfold UnpackedFloat.normalize
  obtain negative | rfl | positive := lt_trichotomy k 0
  · have size : (((-k).toNat : ℕ) : ℚ) = -k := by exact_mod_cast Int.toNat_of_nonneg (by omega : 0 ≤ -k)
    have value : (k : ℚ) * 2 ^ e = factor .negative * ((-k).toNat * 2 ^ e) := by
      rw [size,factor]
      ring
    rw [compare_lt_iff_lt.mpr negative,value]
    exact round_rounds .negative _ e (by omega)
  · rw [Int.cast_zero,zero_mul]
    exact rounds_exact _ 0 (congrArg exactValue (unpack_pack_zero .positive))
  · have size : ((k.toNat : ℕ) : ℚ) = k := by exact_mod_cast Int.toNat_of_nonneg positive.le
    have value : (k : ℚ) * 2 ^ e = factor .positive * (k.toNat * 2 ^ e) := by
      rw [size,factor,one_mul]
    rw [compare_gt_iff_gt.mpr positive,value]
    exact round_rounds .positive _ e (by omega)

theorem apply_factor (sign : Sign) (k : ℤ) : ((sign.apply k : ℤ) : ℚ) = factor sign * k := by
  cases sign <;> simp [Sign.apply,factor]

/-- A mantissa at a smaller exponent. -/
theorem aligned_value (sign : Sign) (m : ℕ) (e least : ℤ) (below : least ≤ e) :
    ((sign.apply (m <<< (e - least).toNat : ℕ) : ℤ) : ℚ) * 2 ^ least = factor sign * (m * 2 ^ e) := by
  have same : least = e - (e - least).toNat := by omega
  have value := value_shiftLeft m (e - least).toNat e
  rw [← same] at value
  rw [apply_factor,mul_assoc,Int.cast_natCast,value]

theorem factor_neg (sign : Sign) : factor (-sign) = -factor sign := by
  cases sign <;> decide

theorem factor_mul (sign sign' : Sign) : factor (sign * sign') = factor sign * factor sign' := by
  cases sign <;> cases sign'
  · exact (by norm_num : (1 : ℚ) = -1 * -1)
  · exact (mul_one (-1)).symm
  · exact (one_mul (-1)).symm
  · exact (one_mul 1).symm

/-- A product of mantissas is long enough to be rounded. -/
theorem product_fine (m m' : ℕ) (e e' : ℤ) (proper : 0 < m) (proper' : 0 < m') (canonical : Canonical m e)
    (canonical' : Canonical m' e') : e + e' ≤ scale (m * m') (e + e') := by
  have some : m * m' ≠ 0 := (Nat.mul_pos proper proper').ne'
  have length : 2 ^ 52 ≤ m * m' → 52 ≤ (m * m').log2 := (Nat.le_log2 some).mpr
  unfold scale
  obtain full | rfl := canonical.long
  · have long := length (full.trans (Nat.le_mul_of_pos_right m proper'))
    omega
  · obtain full' | rfl := canonical'.long
    · have long := length (full'.trans (Nat.le_mul_of_pos_left m' proper))
      omega
    · omega

section Order

variable (m m' : ℕ) (e e' : ℤ) (canonical : Canonical m e) (canonical' : Canonical m' e')

/-- Of two mantissas as words have them the one with the larger exponent is the larger number. -/
theorem value_lt_of_exponent (small : m < 2 ^ 53) (least : -1074 ≤ e) (long : 2 ^ 52 ≤ m' ∨ e' = -1074) (less : e < e') :
    (m : ℚ) * 2 ^ e < m' * 2 ^ e' := by
  have full : ((2 ^ 52 : ℕ) : ℚ) ≤ m' := by exact_mod_cast long.resolve_right (by omega)
  have short : (m : ℚ) < (2 ^ 53 : ℕ) := by exact_mod_cast small
  have next : (2 : ℚ) ^ (e + 1) = 2 ^ e * 2 := zpow_add_one₀ two_ne_zero e
  have size : (0 : ℚ) < 2 ^ e := by positivity
  rw [Nat.cast_pow,Nat.cast_ofNat] at full short
  calc (m : ℚ) * 2 ^ e < 2 ^ 53 * 2 ^ e := by gcongr
    _ = 2 ^ 52 * 2 ^ (e + 1) := by rw [next]; ring
    _ ≤ 2 ^ 52 * 2 ^ e' := by gcongr; exacts [one_le_two,less]
    _ ≤ m' * 2 ^ e' := by gcongr

include canonical canonical'

theorem compare_lt_iff : (compare e e').then (compare m m') = .lt ↔ (m : ℚ) * 2 ^ e < m' * 2 ^ e' := by
  obtain less | rfl | more := lt_trichotomy e e'
  · rw [compare_lt_iff_lt.mpr less]
    exact ⟨fun _ => value_lt_of_exponent m m' e e' canonical.small canonical.least canonical'.long less,fun _ => rfl⟩
  · have size : (0 : ℚ) < 2 ^ e := by positivity
    rw [compare_eq_iff_eq.mpr rfl,Ordering.then,compare_lt_iff_lt,mul_lt_mul_iff_left₀ size,Nat.cast_lt]
  · have other := value_lt_of_exponent m' m e' e canonical'.small canonical'.least canonical.long more
    rw [compare_gt_iff_gt.mpr more]
    exact ⟨fun less => by (cases less),fun less => absurd less other.not_gt⟩

theorem compare_gt_iff : (compare e e').then (compare m m') = .gt ↔ (m' : ℚ) * 2 ^ e' < m * 2 ^ e := by
  have swapped : ((compare e' e).then (compare m' m)).swap = (compare e e').then (compare m m') := by
    rw [Ordering.swap_then,← Std.OrientedCmp.eq_swap,← Std.OrientedCmp.eq_swap]
  rw [← swapped,Ordering.swap_eq_gt]
  exact compare_lt_iff m' m e' e canonical' canonical

end Order

theorem truncate_zero (negative : Bool) (e : ℤ) : truncate negative 0 e = 0 := by
  have none : ((0 * (twoPower e).1 / (twoPower e).2 : ℕ) : ℤ) = 0 := by rw [Nat.zero_mul,Nat.zero_div]; rfl
  show (if negative = true then -((0 * (twoPower e).1 / (twoPower e).2 : ℕ) : ℤ)
    else ((0 * (twoPower e).1 / (twoPower e).2 : ℕ) : ℤ)) = 0
  rw [none]
  cases negative <;> rfl

theorem truncate_floor (m : ℕ) (e : ℤ) : truncate false m e = ⌊(m : ℚ) * 2 ^ e⌋ := by
  cases e with
  | ofNat n =>
    have value : (m : ℚ) * 2 ^ (Int.ofNat n) = (m * 2 ^ n : ℕ) := by
      rw [Int.ofNat_eq_natCast,zpow_natCast]
      push_cast
      rfl
    rw [value,Int.floor_natCast]
    show ((m * 2 ^ n / 1 : ℕ) : ℤ) = _
    rw [Nat.div_one]
  | negSucc n =>
    have value : (m : ℚ) * 2 ^ (Int.negSucc n) = ((m : ℤ) : ℚ) / (2 ^ (n + 1) : ℕ) := by
      rw [zpow_negSucc,div_eq_mul_inv]
      push_cast
      rfl
    rw [value,Rat.floor_intCast_div_natCast]
    show ((m * 1 / 2 ^ (n + 1) : ℕ) : ℤ) = _
    rw [Nat.mul_one]
    push_cast
    rfl

section Operations

variable (x y : Float) (a b : ℚ) (first : Stands x a) (second : Stands y b)
include first second

theorem add_rounds : Rounds (a + b) (x + y) := by
  show Rounds _ (packed (add .binary64 x.toModel.unpack y.toModel.unpack))
  obtain ⟨s,unpacked,rfl⟩ | ⟨s,m,e,proper,unpacked,canonical,rfl⟩ := stands_cases x a first
  · obtain ⟨s',unpacked',rfl⟩ | ⟨s',m',e',proper',unpacked',canonical',rfl⟩ := stands_cases y b second
    · rw [unpacked,unpacked',add_zero]
      cases s <;> cases s' <;> exact rounds_exact _ 0 (zero_stands _)
    · rw [unpacked,unpacked',zero_add]
      exact rounds_exact _ _ (finite_stands s' m' e' proper' canonical')
  · obtain ⟨s',unpacked',rfl⟩ | ⟨s',m',e',proper',unpacked',_,rfl⟩ := stands_cases y b second
    · rw [unpacked,unpacked',add_zero]
      exact rounds_exact _ _ (finite_stands s m e proper canonical)
    · rw [unpacked,unpacked',← aligned_value s m e (min e e') (min_le_left e e'),
        ← aligned_value s' m' e' (min e e') (min_le_right e e'),← add_mul,← Int.cast_add]
      exact normalize_rounds _ (min e e')

theorem sub_rounds : Rounds (a - b) (x - y) := by
  show Rounds _ (packed (sub .binary64 x.toModel.unpack y.toModel.unpack))
  obtain ⟨s,unpacked,rfl⟩ | ⟨s,m,e,proper,unpacked,canonical,rfl⟩ := stands_cases x a first
  · obtain ⟨s',unpacked',rfl⟩ | ⟨s',m',e',proper',unpacked',canonical',rfl⟩ := stands_cases y b second
    · rw [unpacked,unpacked',sub_zero]
      cases s <;> cases s' <;> exact rounds_exact _ 0 (zero_stands _)
    · rw [unpacked,unpacked',zero_sub,← neg_mul,← factor_neg]
      exact rounds_exact _ _ (finite_stands (-s') m' e' proper' canonical')
  · obtain ⟨s',unpacked',rfl⟩ | ⟨s',m',e',proper',unpacked',_,rfl⟩ := stands_cases y b second
    · rw [unpacked,unpacked',sub_zero]
      exact rounds_exact _ _ (finite_stands s m e proper canonical)
    · rw [unpacked,unpacked',← aligned_value s m e (min e e') (min_le_left e e'),
        ← aligned_value s' m' e' (min e e') (min_le_right e e'),← sub_mul,← Int.cast_sub]
      exact normalize_rounds _ (min e e')

theorem mul_rounds : Rounds (a * b) (x * y) := by
  show Rounds _ (packed (mul .binary64 x.toModel.unpack y.toModel.unpack))
  obtain ⟨s,unpacked,rfl⟩ | ⟨s,m,e,proper,unpacked,canonical,rfl⟩ := stands_cases x a first
  · obtain ⟨s',unpacked',rfl⟩ | ⟨s',m',e',proper',unpacked',_,rfl⟩ := stands_cases y b second <;>
      rw [unpacked,unpacked',zero_mul] <;> exact rounds_exact _ 0 (zero_stands _)
  · obtain ⟨s',unpacked',rfl⟩ | ⟨s',m',e',proper',unpacked',canonical',rfl⟩ := stands_cases y b second
    · rw [unpacked,unpacked',mul_zero]
      exact rounds_exact _ 0 (zero_stands _)
    · have value : factor s * (m * 2 ^ e) * (factor s' * (m' * 2 ^ e')) =
          factor (s * s') * ((m * m' : ℕ) * 2 ^ (e + e')) := by
        rw [factor_mul,zpow_add₀ two_ne_zero]
        push_cast
        ring
      have fine : e + e' ≤ scale (m * m') (e + e') := product_fine m m' e e' proper proper' canonical canonical'
      rw [unpacked,unpacked',value]
      exact roundWithAccuracy_rounds (s * s') (m * m') (e + e') (Nat.mul_pos proper proper') fine

/-- The order of numbers is that of their values. -/
theorem lt_iff_values : x < y ↔ a < b := by
  have compared : x < y ↔ x.toModel.unpack.compare y.toModel.unpack = some .lt := by
    show decide ((x.toModel.unpack.compare y.toModel.unpack == some .lt) = true) = true ↔ _
    rw [decide_eq_true_iff,beq_iff_eq]
  rw [compared]
  obtain ⟨s,unpacked,rfl⟩ | ⟨s,m,e,proper,unpacked,canonical,rfl⟩ := stands_cases x a first
  · obtain ⟨s',unpacked',rfl⟩ | ⟨s',m',e',proper',unpacked',_,rfl⟩ := stands_cases y b second
    · rw [unpacked,unpacked']
      exact ⟨fun less => by (cases less),fun less => absurd less (lt_irrefl 0)⟩
    · have positive := value_positive m' e' proper'
      rw [unpacked,unpacked']
      cases s' with
      | positive => exact ⟨fun _ => by rwa [factor,one_mul],fun _ => rfl⟩
      | negative => exact ⟨fun less => by (cases less),fun less => by rw [factor,neg_one_mul] at less; linarith⟩
  · have positive := value_positive m e proper
    obtain ⟨s',unpacked',rfl⟩ | ⟨s',m',e',proper',unpacked',canonical',rfl⟩ := stands_cases y b second
    · rw [unpacked,unpacked']
      cases s with
      | positive => exact ⟨fun less => by (cases less),fun less => by rw [factor,one_mul] at less; linarith⟩
      | negative => exact ⟨fun _ => by rw [factor,neg_one_mul]; linarith,fun _ => rfl⟩
    · have positive' := value_positive m' e' proper'
      have less := compare_lt_iff m m' e e' canonical canonical'
      have more := compare_gt_iff m m' e e' canonical canonical'
      rw [unpacked,unpacked']
      cases s with
      | positive =>
        cases s' with
        | positive =>
          rw [factor,one_mul,one_mul,← less]
          exact Option.some_inj
        | negative =>
          refine ⟨fun less => by (cases less),fun less => ?_⟩
          rw [factor,factor,one_mul,neg_one_mul] at less
          linarith
      | negative =>
        cases s' with
        | positive =>
          refine ⟨fun _ => ?_,fun _ => rfl⟩
          rw [factor,factor,one_mul,neg_one_mul]
          linarith
        | negative =>
          rw [factor,neg_one_mul,neg_one_mul,neg_lt_neg_iff,← more]
          exact Option.some_inj.trans Ordering.swap_eq_lt

omit second in
/-- The whole part of a number that is not negative. -/
theorem wholePart_stands (positive : 0 ≤ a) : wholePart x = .ok ⌊a⌋ := by
  unfold wholePart
  rw [ofFloat_unpack]
  obtain ⟨s,unpacked,rfl⟩ | ⟨s,m,e,proper,unpacked,_,rfl⟩ := stands_cases x a first
  · rw [unpacked]
    show Except.ok (truncate _ 0 (-1074)) = _
    rw [truncate_zero,Int.floor_zero]
  · have size := value_positive m e proper
    cases s with
    | positive =>
      rw [unpacked,factor,one_mul]
      exact congrArg Except.ok (truncate_floor m e)
    | negative =>
      rw [factor,neg_one_mul] at positive
      linarith

end Operations

section Quotient

theorem log2_quotient (a b : ℕ) (proper : 0 < b) : a.log2 ≤ (a / b).log2 + b.log2 + 1 := by
  obtain rfl | some := Nat.eq_zero_or_pos a
  · exact Nat.zero_le _
  · have first : a < b * (a / b + 1) := Nat.lt_mul_div_succ a proper
    have second : b * (a / b + 1) ≤ 2 ^ (b.log2 + 1) * 2 ^ ((a / b).log2 + 1) :=
      Nat.mul_le_mul Nat.lt_log2_self.le Nat.lt_log2_self
    have power : 2 ^ (b.log2 + 1) * 2 ^ ((a / b).log2 + 1) = 2 ^ ((a / b).log2 + b.log2 + 2) := by
      rw [← pow_add]
      congr 1
      omega
    have less := (Nat.log2_lt some.ne').mpr (first.trans_le (second.trans power.le))
    omega

variable (num den : ℕ) (some : 0 < num) (proper : 0 < den)
include some proper

/-- The quotient of two whole numbers, rounded. -/
theorem ofPositiveRatio_rounded :
    ∃ n e, Rounded (num / den) n e ∧ ofPositiveRatio num den = packed (settled .positive n e) := by
  have core : ∃ k : ℕ, divCore .binary64 num 0 den 0 =
      (num <<< k / den,-(k : ℤ),accuracyOfFraction (num <<< k % den) den) ∧
      -(k : ℤ) ≤ max ((num.log2 : ℤ) - den.log2 - 53) (-1074) := by
    generalize target : min (0 - 0) (Format.binary64.targetExponent
      (Float.Model.totalExponent num 0 - Float.Model.totalExponent den 0)) = te
    have bound : te ≤ max ((num.log2 : ℤ) - den.log2 - 53) (-1074) := by
      have right := min_le_right (0 - 0 : ℤ) (Format.binary64.targetExponent
        (Float.Model.totalExponent num 0 - Float.Model.totalExponent den 0))
      rw [target] at right
      refine right.trans (le_of_eq ?_)
      show max ((num.log2 + 1 + 0 : ℤ) - (den.log2 + 1 + 0) - 53) (-1074) = _
      omega
    have least : te ≤ 0 := target ▸ min_le_left _ _
    have shift : (0 - 0 - te).toNat = te.natAbs := by omega
    have same : te = -(te.natAbs : ℤ) := by omega
    refine ⟨te.natAbs,?_,same ▸ bound⟩
    unfold divCore
    rw [target]
    dsimp only
    rw [shift,← same]
  obtain ⟨k,core,least⟩ := core
  have size : (0 : ℚ) < 2 ^ (-(k : ℤ)) := by positivity
  have value : (num : ℚ) / den / 2 ^ (-(k : ℤ)) = (num <<< k : ℕ) / den := by
    rw [Nat.shiftLeft_eq,zpow_neg,div_inv_eq_mul,zpow_natCast]
    push_cast
    ring
  have covers := covers_quotient (num <<< k) den proper
  rw [← value] at covers
  have fine : -(k : ℤ) ≤ scale (num <<< k / den) (-(k : ℤ)) := by
    have length := log2_quotient (num <<< k) den proper
    rw [log2_shiftLeft num k some] at length
    unfold scale
    omega
  obtain ⟨n,rounded,same⟩ := roundWithAccuracy_rounded _ _ _ _ covers fine .positive
  refine ⟨n,_,rounded,?_⟩
  rw [ofPositiveRatio,exactly,dif_pos some,exactly,dif_pos proper,← same]
  show packed (let parts := divCore .binary64 num 0 den 0
    roundWithAccuracy .binary64 (Sign.positive / Sign.positive) parts.1 parts.2.1 parts.2.2) = _
  rw [core]
  rfl

end Quotient

end Pagewright.Decimal
