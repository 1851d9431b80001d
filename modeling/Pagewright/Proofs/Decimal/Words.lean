import Pagewright.Proofs.Decimal.Rounding

/-! Double precision numbers as words of 64 bits. What a word stands for has a mantissa of full length or the least
exponent, and a number of this kind is read back from its word, unless its exponent is beyond all words: then it is read
back as infinite. -/
namespace Pagewright.Decimal
open Float.Model (UnpackedFloat Format)
open Float.Model.UnpackedFloat

/-- A mantissa and an exponent as words have them. -/
structure Canonical (m : ℕ) (e : ℤ) : Prop where
  small : m < 2 ^ 53
  least : -1074 ≤ e
  most : e ≤ 971
  long : 2 ^ 52 ≤ m ∨ e = -1074

theorem finite_congr (sign : Sign) (m m' : ℕ) (e e' : ℤ) (proper : 0 < m) (proper' : 0 < m') (mantissa : m = m')
    (exponent : e = e') : finite sign m e proper = finite sign m' e' proper' := by
  subst mantissa exponent
  rfl

/-- The parts of a word: its sign, its exponent and its fraction. -/
def signOf (word : BitVec 64) : Sign := if word.toNat / 2 ^ 63 = 1 then .negative else .positive

def exponentOf (word : BitVec 64) : ℕ := word.toNat / 2 ^ 52 % 2048

def fractionOf (word : BitVec 64) : ℕ := word.toNat % 2 ^ 52

section Words

variable (word : BitVec 64)

theorem unpackExponent_toNat : (@unpackExponent .binary64 word).toNat = exponentOf word := by
  simp [unpackExponent,exponentOf,BitVec.extractLsb_toNat,Nat.shiftRight_eq_div_pow]

theorem unpackMantissa_toNat : (@unpackMantissa .binary64 word).toNat = fractionOf word := by
  simp [unpackMantissa,fractionOf,BitVec.extractLsb_toNat]

theorem unpackSign_bits : @unpackSign .binary64 word = word.extractLsb 63 63 := rfl

theorem unpackSign_sign : Sign.ofBitVec (@unpackSign .binary64 word) = signOf word := by
  have bit : (@unpackSign .binary64 word).toNat = word.toNat / 2 ^ 63 := by
    have small : word.toNat < 2 ^ 64 := word.isLt
    rw [unpackSign_bits]
    simp [BitVec.extractLsb_toNat,Nat.shiftRight_eq_div_pow]
    omega
  have clear : @unpackSign .binary64 word = 0#1 ↔ word.toNat / 2 ^ 63 = 0 := by
    rw [BitVec.toNat_eq,bit]
    rfl
  have one : word.toNat / 2 ^ 63 < 2 := by
    have small : word.toNat < 2 ^ 64 := word.isLt
    omega
  unfold Sign.ofBitVec signOf
  simp only [clear]
  split <;> split <;> first | rfl | omega

theorem exponent_special : @unpackExponent .binary64 word = -1#11 ↔ exponentOf word = 2047 := by
  rw [BitVec.toNat_eq,unpackExponent_toNat]
  rfl

theorem exponent_bottom : @unpackExponent .binary64 word = 0#11 ↔ exponentOf word = 0 := by
  rw [BitVec.toNat_eq,unpackExponent_toNat]
  rfl

theorem fraction_none : @unpackMantissa .binary64 word = 0#52 ↔ fractionOf word = 0 := by
  rw [BitVec.toNat_eq,unpackMantissa_toNat]
  rfl

theorem unpack_normal (some : exponentOf word ≠ 0) (few : exponentOf word ≠ 2047) : unpack .binary64 word =
    .finite (signOf word) (2 ^ 52 + fractionOf word) (exponentOf word - 1075)
      (Nat.add_pos_left (Nat.two_pow_pos 52) _) := by
  unfold unpack
  dsimp only
  rw [if_neg (mt (exponent_special word).mp few),if_neg (mt (exponent_bottom word).mp some),unpackSign_sign]
  refine finite_congr _ _ _ _ _ _ _ ?_ ?_
  · rw [BitVec.toNat_append,unpackMantissa_toNat]
    have small : fractionOf word < 2 ^ 52 := Nat.mod_lt _ (by positivity)
    rw [← Nat.shiftLeft_add_eq_or_of_lt small]
    rfl
  · rw [unpackExponent_toNat]
    rfl

theorem unpack_subnormal (bottom : exponentOf word = 0) (some : fractionOf word ≠ 0) : unpack .binary64 word =
    .finite (signOf word) (fractionOf word) (-1074) (Nat.pos_of_ne_zero some) := by
  unfold unpack
  dsimp only
  rw [if_neg (mt (exponent_special word).mp (by omega)),if_pos ((exponent_bottom word).mpr bottom),
    dif_neg (mt (fraction_none word).mp some),unpackSign_sign]
  refine finite_congr _ _ _ _ _ _ _ (unpackMantissa_toNat word) ?_
  rw [unpackExponent_toNat,bottom]
  rfl

theorem unpack_zero (bottom : exponentOf word = 0) (none : fractionOf word = 0) :
    unpack .binary64 word = .zero (signOf word) := by
  unfold unpack
  dsimp only
  rw [if_neg (mt (exponent_special word).mp (by omega)),if_pos ((exponent_bottom word).mpr bottom),
    dif_pos ((fraction_none word).mpr none),unpackSign_sign]

theorem unpack_special (top : exponentOf word = 2047) : unpack .binary64 word =
    if fractionOf word = 0 then .infinity (signOf word) else .notANumber := by
  unfold unpack
  dsimp only
  rw [if_pos ((exponent_special word).mpr top),unpackSign_sign]
  by_cases none : fractionOf word = 0
  · rw [if_pos ((fraction_none word).mpr none),if_pos none]
  · rw [if_neg (mt (fraction_none word).mp none),if_neg none]

/-- What a word stands for has a mantissa of full length or the least exponent. -/
theorem unpack_canonical (sign : Sign) (m : ℕ) (e : ℤ) (proper : 0 < m)
    (unpacked : unpack .binary64 word = .finite sign m e proper) : Canonical m e := by
  have small : fractionOf word < 2 ^ 52 := Nat.mod_lt _ (by positivity)
  have range : exponentOf word < 2048 := Nat.mod_lt _ (by positivity)
  by_cases top : exponentOf word = 2047
  · rw [unpack_special word top] at unpacked
    by_cases none : fractionOf word = 0
    · rw [if_pos none] at unpacked
      cases unpacked
    · rw [if_neg none] at unpacked
      cases unpacked
  · by_cases bottom : exponentOf word = 0
    · by_cases none : fractionOf word = 0
      · rw [unpack_zero word bottom none] at unpacked
        cases unpacked
      · rw [unpack_subnormal word bottom none] at unpacked
        obtain ⟨_,rfl,rfl⟩ := UnpackedFloat.finite.inj unpacked
        exact ⟨by omega,by omega,by omega,.inr rfl⟩
    · rw [unpack_normal word bottom top] at unpacked
      obtain ⟨_,rfl,rfl⟩ := UnpackedFloat.finite.inj unpacked
      exact ⟨by omega,by omega,by omega,.inl (by omega)⟩

end Words

section Packing

variable (sign : Sign)

theorem packComponents_sign (exponent : BitVec 11) (fraction : BitVec 52) :
    signOf (packComponents .binary64 sign exponent fraction) = sign := by
  have bit : unpackSign (packComponents .binary64 sign exponent fraction) = sign.toBitVec := by
    refine BitVec.eq_of_getLsbD_eq fun i small => ?_
    obtain rfl : i = 0 := by omega
    rw [unpackSign_bits,packComponents]
    simp only [BitVec.getLsbD_extractLsb]
    show (sign.toBitVec ++ exponent ++ fraction : BitVec (1 + 11 + 52)).getLsbD 63 = sign.toBitVec.getLsbD 0
    rw [BitVec.getLsbD_append,BitVec.getLsbD_append]
    rfl
  rw [← unpackSign_sign,bit]
  cases sign <;> rfl

theorem packComponents_exponent (exponent : BitVec 11) (fraction : BitVec 52) :
    exponentOf (packComponents .binary64 sign exponent fraction) = exponent.toNat := by
  rw [← unpackExponent_toNat,unpackExponent_packComponents]

theorem packComponents_fraction (exponent : BitVec 11) (fraction : BitVec 52) :
    fractionOf (packComponents .binary64 sign exponent fraction) = fraction.toNat := by
  rw [← unpackMantissa_toNat,unpackMantissa_packComponents]

theorem unpack_pack_infinity : unpack .binary64 (pack .binary64 (.infinity sign)) = .infinity sign := by
  cases sign <;> rfl

theorem unpack_pack_zero : unpack .binary64 (pack .binary64 (.zero sign)) = .zero sign := by
  cases sign <;> rfl

variable (m : ℕ) (e : ℤ) (proper : 0 < m)

theorem pack_normal (exponent : ℕ) (biased : (exponent : ℤ) = e + 1075) (few : exponent < 2047)
    (small : m < 2 ^ 53) (full : 2 ^ 52 ≤ m) : pack .binary64 (.finite sign m e proper) =
      packComponents .binary64 sign (BitVec.ofNat 11 exponent) (BitVec.ofNat 52 m) := by
  have length : m.log2 = 52 := (Nat.log2_eq_iff (by omega)).mpr ⟨full,small⟩
  have field : (e + (1023 : ℕ) + (52 : ℕ)).toNat = exponent := by omega
  unfold pack
  dsimp only
  rw [show Format.binary64.exponentBias = 1023 from rfl,field,if_neg,if_pos]
  · rw [length]
    rfl
  · show ¬ 2048 ≤ _
    omega

theorem pack_subnormal (small : m < 2 ^ 52) : pack .binary64 (.finite sign m (-1074) proper) =
    packComponents .binary64 sign 0#11 (BitVec.ofNat 52 m) := by
  have length : m.log2 < 52 := (Nat.log2_lt (by omega)).mpr small
  unfold pack
  dsimp only
  rw [if_neg (by decide),if_neg]
  show ¬ m.log2 + 1 = 53
  omega

theorem pack_large (large : 971 < e) : pack .binary64 (.finite sign m e proper) = packedInfinity .binary64 sign := by
  unfold pack
  dsimp only
  rw [if_pos]
  show 2048 ≤ (e + (1023 : ℕ) + (52 : ℕ)).toNat + 1
  omega

/-- A number with a mantissa of full length or the least exponent is read back from its word, or as an infinite one. -/
theorem unpack_pack_finite (small : m < 2 ^ 53) (least : -1074 ≤ e) (long : 2 ^ 52 ≤ m ∨ e = -1074) :
    unpack .binary64 (pack .binary64 (.finite sign m e proper)) =
      if e ≤ 971 then .finite sign m e proper else .infinity sign := by
  by_cases large : 971 < e
  · rw [pack_large sign m e proper large,if_neg (by omega)]
    exact unpack_pack_infinity sign
  · rw [if_pos (by omega)]
    obtain ⟨exponent,biased⟩ := Int.eq_ofNat_of_zero_le (a := e + 1075) (by omega)
    by_cases full : 2 ^ 52 ≤ m
    · have field : (BitVec.ofNat 11 exponent).toNat = exponent := by
        rw [BitVec.toNat_ofNat]
        omega
      have rest : (BitVec.ofNat 52 m).toNat = m - 2 ^ 52 := by
        rw [BitVec.toNat_ofNat]
        omega
      rw [pack_normal sign m e proper exponent biased.symm (by omega) small full,unpack_normal]
      · rw [packComponents_sign]
        refine finite_congr _ _ _ _ _ _ _ ?_ ?_
        · rw [packComponents_fraction,rest]
          omega
        · rw [packComponents_exponent,field]
          omega
      · rw [packComponents_exponent,field]
        omega
      · rw [packComponents_exponent,field]
        omega
    · obtain rfl : e = -1074 := long.resolve_left full
      have short : m < 2 ^ 52 := Nat.lt_of_not_le full
      have rest : (BitVec.ofNat 52 m).toNat = m := by
        rw [BitVec.toNat_ofNat]
        omega
      rw [pack_subnormal sign m proper short,unpack_subnormal]
      · rw [packComponents_sign]
        exact finite_congr _ _ _ _ _ _ _ (by rw [packComponents_fraction,rest]) rfl
      · rw [packComponents_exponent]
        rfl
      · rw [packComponents_fraction,rest]
        omega

end Packing

def isNegative : Sign → Bool
  | .negative => true
  | .positive => false

/-- What an unpacked number stands for. -/
def Real64.ofUnpacked : UnpackedFloat → Real64
  | .notANumber => .notANumber
  | .infinity sign => .infinite (isNegative sign)
  | .zero sign => .finite (isNegative sign) 0 (-1074)
  | .finite sign m e _ => .finite (isNegative sign) m e

/-- A number is read off its word as it is unpacked. -/
theorem ofFloat_unpack (x : Float) : Real64.ofFloat x = .ofUnpacked x.toModel.unpack := by
  generalize packed : x.toModel.toBits.toBitVec = word
  have bits : x.toBits.toNat = word.toNat := congrArg BitVec.toNat packed
  have unpacked : x.toModel.unpack = unpack .binary64 word := congrArg (unpack .binary64) packed
  have sign : isNegative (signOf word) = (word.toNat / Nat.pow 2 63 == 1) := by
    unfold signOf
    split
    next one => exact (beq_iff_eq.mpr one).symm
    next zero => exact (beq_eq_false_iff_ne.mpr zero).symm
  rw [unpacked]
  unfold Real64.ofFloat
  rw [bits]
  dsimp only
  rw [← sign]
  show (if exponentOf word == 2047 then if fractionOf word == 0 then _ else _ else if exponentOf word == 0 then
    Real64.finite _ (fractionOf word) _ else Real64.finite _ (_ + fractionOf word) (exponentOf word - 1075)) = _
  by_cases top : exponentOf word = 2047
  · rw [if_pos (beq_iff_eq.mpr top),unpack_special word top]
    by_cases none : fractionOf word = 0
    · rw [if_pos (beq_iff_eq.mpr none),if_pos none]
      rfl
    · rw [if_neg (by simpa using none),if_neg none]
      rfl
  · rw [if_neg (by simpa using top)]
    by_cases bottom : exponentOf word = 0
    · rw [if_pos (beq_iff_eq.mpr bottom)]
      by_cases none : fractionOf word = 0
      · rw [unpack_zero word bottom none,none]
        rfl
      · rw [unpack_subnormal word bottom none]
        rfl
    · rw [if_neg (by simpa using bottom),unpack_normal word bottom top]
      rfl

end Pagewright.Decimal
