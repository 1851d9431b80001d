import Pagewright.Proofs.Decimal.Bounds
import Pagewright.Style.Color

/-! The channels of a color. If saturation and lightness are parts of one, every channel is one as well, up to an error too
small to be seen in steps of 255, and this is so for every hue that is a number. -/
namespace Pagewright.Style
open Decimal

/-- A part of one, up to an error. -/
structure Part (slack v : ℚ) : Prop where
  low : -slack ≤ v
  high : v ≤ 1 + slack

/-- A number that stands for a part of one. -/
def IsPart (slack : ℚ) (x : Float) : Prop := ∃ v, Stands x v ∧ Part slack v

/-- A channel that is a byte in steps of 255. -/
def IsByte (channel : Float) : Prop := ∃ n : ℕ, wholePart (channel * 255.0 + 0.5) = .ok n ∧ n ≤ 255

/-- What the constants stand for. -/
theorem constants : Stands 0.0 0 ∧ Stands 0.5 (1 / 2) ∧ Stands (1.0 / 2.0) (1 / 2) ∧ Stands 1.0 1 ∧ Stands 2.0 2 ∧
    Stands 6.0 6 ∧ Stands 255.0 255 ∧ Stands (1.0 / 6.0) (6004799503160661 / 2 ^ 55) ∧
    Stands (1.0 / 3.0) (6004799503160661 / 2 ^ 54) ∧ Stands (2.0 / 3.0) (6004799503160661 / 2 ^ 53) := by
  decide +kernel

theorem zero_value : Stands 0.0 0 := constants.1

theorem half_value : Stands 0.5 (1 / 2) := constants.2.1

theorem half_quotient : Stands (1.0 / 2.0) (1 / 2) := constants.2.2.1

theorem one_value : Stands 1.0 1 := constants.2.2.2.1

theorem two_value : Stands 2.0 2 := constants.2.2.2.2.1

theorem six_value : Stands 6.0 6 := constants.2.2.2.2.2.1

theorem byte_value : Stands 255.0 255 := constants.2.2.2.2.2.2.1

theorem sixth_value : Stands (1.0 / 6.0) (6004799503160661 / 2 ^ 55) := constants.2.2.2.2.2.2.2.1

theorem third_value : Stands (1.0 / 3.0) (6004799503160661 / 2 ^ 54) := constants.2.2.2.2.2.2.2.2.1

theorem two_thirds_value : Stands (2.0 / 3.0) (6004799503160661 / 2 ^ 53) := constants.2.2.2.2.2.2.2.2.2

/-- A part of one is a byte in steps of 255. -/
theorem IsPart.byte (channel : Float) (part : IsPart (1 / 1000) channel) : IsByte channel := by
  obtain ⟨c,stands,⟨low,high⟩⟩ := part
  obtain ⟨steps,stands,low',high'⟩ := mul_small _ _ _ _ stands byte_value (by linarith) (by linarith)
  obtain ⟨raised,stands,low',high'⟩ := add_small _ _ _ _ stands half_value (by linarith) (by linarith)
  have positive : 0 ≤ raised := by linarith
  have bound : ⌊raised⌋ < 256 := Int.floor_lt.mpr (by push_cast; linarith)
  have whole := wholePart_stands _ raised stands positive
  obtain ⟨n,floor⟩ := Int.eq_ofNat_of_zero_le (Int.floor_nonneg.mpr positive)
  rw [floor] at whole bound
  exact ⟨n,whole,by omega⟩

/-- Two numbers in intervals, multiplied at the corners: what bounds their product. -/
theorem corners (x y x_low x_high y_low y_high : ℚ) (x_above : x_low ≤ x) (x_below : x ≤ x_high) (y_above : y_low ≤ y)
    (y_below : y ≤ y_high) : 0 ≤ (x - x_low) * (y - y_low) ∧ 0 ≤ (x - x_low) * (y_high - y) ∧
      0 ≤ (x_high - x) * (y - y_low) ∧ 0 ≤ (x_high - x) * (y_high - y) :=
  ⟨mul_nonneg (sub_nonneg.mpr x_above) (sub_nonneg.mpr y_above),
    mul_nonneg (sub_nonneg.mpr x_above) (sub_nonneg.mpr y_below),
    mul_nonneg (sub_nonneg.mpr x_below) (sub_nonneg.mpr y_above),
    mul_nonneg (sub_nonneg.mpr x_below) (sub_nonneg.mpr y_below)⟩

/-- The larger one of the two bounds between which the channels lie. -/
def upperBound (s l : Float) : Float := if l < 0.5 then l * (1.0 + s) else l + s - l * s

section Bounds

variable (s l : Float) (saturation lightness : ℚ) (first : Stands s saturation) (second : Stands l lightness)
  (saturated : Part (1 / 10 ^ 6) saturation) (lit : Part (1 / 10 ^ 6) lightness)
include first second saturated lit

/-- The larger bound is a part of one, and so is what the lightness is above it on the other side. -/
theorem upperBound_part :
    ∃ q, Stands (upperBound s l) q ∧ Part (7 / 10 ^ 6) q ∧ Part (7 / 10 ^ 6) (2 * lightness - q) := by
  obtain ⟨s_low,s_high⟩ := saturated
  obtain ⟨l_low,l_high⟩ := lit
  unfold upperBound
  split
  next dark =>
    have dark : lightness < 1 / 2 := (lt_iff_values l 0.5 _ _ second half_value).mp dark
    obtain ⟨a,stands,a_low,a_high⟩ := add_small _ _ _ _ one_value first (by linarith) (by linarith)
    obtain ⟨c₁,c₂,c₃,c₄⟩ := corners lightness a (-(1 / 10 ^ 6)) (1 / 2) 0 (2 + 2 / 10 ^ 6) l_low dark.le (by linarith)
      (by linarith)
    obtain ⟨q,stands,low,high⟩ := mul_small _ _ _ _ second stands (by linarith) (by linarith)
    exact ⟨q,stands,⟨by linarith,by linarith⟩,⟨by linarith,by linarith⟩⟩
  next light =>
    have light : 1 / 2 ≤ lightness := not_lt.mp (mt (lt_iff_values l 0.5 _ _ second half_value).mpr light)
    obtain ⟨c₁,c₂,c₃,c₄⟩ := corners lightness saturation (1 / 2) (1 + 1 / 10 ^ 6) (-(1 / 10 ^ 6)) (1 + 1 / 10 ^ 6) light
      l_high s_low s_high
    obtain ⟨sum,added,sum_low,sum_high⟩ := add_small _ _ _ _ second first (by linarith) (by linarith)
    obtain ⟨product,multiplied,low,high⟩ := mul_small _ _ _ _ second first (by linarith) (by linarith)
    obtain ⟨q,stands,q_low,q_high⟩ := sub_small _ _ _ _ added multiplied (by linarith) (by linarith)
    exact ⟨q,stands,⟨by linarith,by linarith⟩,⟨by linarith,by linarith⟩⟩

/-- The two bounds between which the channels lie are parts of one. -/
theorem bounds_parts : IsPart (1 / 10 ^ 5) (2.0 * l - upperBound s l) ∧ IsPart (1 / 10 ^ 5) (upperBound s l) := by
  obtain ⟨q,upper,⟨q_low,q_high⟩,⟨p_low,p_high⟩⟩ := upperBound_part s l saturation lightness first second saturated lit
  obtain ⟨l_low,l_high⟩ := lit
  obtain ⟨double,doubled,low,high⟩ := mul_small _ _ _ _ two_value second (by linarith) (by linarith)
  obtain ⟨p,lower,low,high⟩ := sub_small _ _ _ _ doubled upper (by linarith) (by linarith)
  exact ⟨⟨p,lower,⟨by linarith,by linarith⟩⟩,⟨q,upper,⟨by linarith,by linarith⟩⟩⟩

end Bounds

/-- A hue turned back by up to one round. -/
def turned (t : Float) : Float :=
  let t := if t < 0.0 then t + 1.0 else t
  if 1.0 < t then t - 1.0 else t

/-- A hue that is not far below zero is hardly below zero once it is turned. -/
theorem turned_atLeast (t : Float) (start : AtLeast (-1 / 2) t) : AtLeast (-(1 / 10 ^ 6)) (turned t) := by
  have forward : AtLeast 0 (if t < 0.0 then t + 1.0 else t) := by
    split
    next negative =>
      obtain ⟨v,stands,low,high⟩ := start.of_lt _ _ _ zero_value _ negative
      obtain ⟨sum,stands,above,_⟩ := add_small _ _ _ _ stands one_value (by linarith) (by linarith)
      exact .value sum stands (by linarith)
    next positive => exact start.of_not_lt _ _ _ zero_value _ positive
  unfold turned
  dsimp only
  generalize (if t < 0.0 then t + 1.0 else t) = t at *
  split
  next beyond =>
    cases forward with
    | value v stands _ =>
      have more := (lt_iff_values 1.0 t _ _ one_value stands).mp beyond
      have back := rounds_atLeast _ _ (sub_rounds _ _ _ _ stands one_value) 0 (by norm_num) le_rfl (by linarith)
      rwa [zero_sub] at back
    | infinite unpacked => exact .infinite (sub_infinite t 1.0 1 one_value unpacked)
  next => exact forward.mono _ _ _ (by norm_num)

/-- Between two parts of one there are parts of one only. -/
theorem mix_part (p q a f : ℚ) (lower : Part (1 / 10 ^ 5) p) (upper : Part (1 / 10 ^ 5) q) (a_low : q - p - 2 / 10 ^ 6 ≤ a)
    (a_high : a ≤ q - p + 2 / 10 ^ 6) (f_low : -(4 / 10 ^ 6) ≤ f) (f_high : f ≤ 1 / 6 + 4 / 10 ^ 6) :
    Part (1 / 10 ^ 4) (p + a * f * 6) := by
  obtain ⟨a₁,a₂,a₃,a₄⟩ := corners f (a - (q - p)) (-(4 / 10 ^ 6)) (1 / 6 + 4 / 10 ^ 6) (-(2 / 10 ^ 6)) (2 / 10 ^ 6) f_low
    f_high (by linarith) (by linarith)
  obtain ⟨p₁,p₂,p₃,p₄⟩ := corners f p (-(4 / 10 ^ 6)) (1 / 6 + 4 / 10 ^ 6) _ _ f_low f_high lower.low lower.high
  obtain ⟨q₁,q₂,q₃,q₄⟩ := corners f q (-(4 / 10 ^ 6)) (1 / 6 + 4 / 10 ^ 6) _ _ f_low f_high upper.low upper.high
  constructor <;> linarith

section Hue

variable (p q t : Float) (lower : IsPart (1 / 10 ^ 5) p) (upper : IsPart (1 / 10 ^ 5) q)
include lower upper

/-- What a hue gives between two parts of one is a part of one. -/
theorem channelOfHue_part (start : AtLeast (-1 / 2) t) : IsPart (1 / 1000) (channelOfHue p q t) := by
  have inside := turned_atLeast t start
  obtain ⟨low,lower,lowPart⟩ := lower
  obtain ⟨high,upper,highPart⟩ := upper
  obtain ⟨low_above,low_below⟩ := id lowPart
  obtain ⟨high_above,high_below⟩ := id highPart
  obtain ⟨a,range,a_low,a_high⟩ := sub_small _ _ _ _ upper lower (by linarith) (by linarith)
  show IsPart _ (if turned t < 1.0 / 6.0 then p + (q - p) * 6.0 * turned t
    else if turned t < 1.0 / 2.0 then q
    else if turned t < 2.0 / 3.0 then p + (q - p) * (2.0 / 3.0 - turned t) * 6.0 else p)
  split
  next first =>
    obtain ⟨f,share,f_low,f_high⟩ := inside.of_lt _ _ _ sixth_value _ first
    obtain ⟨b,scaled,b_low,b_high⟩ := mul_small _ _ _ _ range six_value (by linarith) (by linarith)
    obtain ⟨m_low,m_high⟩ := mix_part low high (b / 6) f lowPart highPart (by linarith) (by linarith) (by linarith)
      (by linarith)
    rw [div_mul_eq_mul_div,div_mul_cancel₀ _ (by norm_num)] at m_low m_high
    obtain ⟨c,mixed,c_low,c_high⟩ := mul_small _ _ _ _ scaled share (by linarith) (by linarith)
    obtain ⟨d,channel,d_low,d_high⟩ := add_small _ _ _ _ lower mixed (by linarith) (by linarith)
    exact ⟨d,channel,⟨by linarith,by linarith⟩⟩
  next later =>
    split
    next => exact ⟨high,upper,⟨by linarith,by linarith⟩⟩
    next later' =>
      split
      next last =>
        have middle := inside.of_not_lt _ _ _ half_quotient _ later'
        obtain ⟨v,stands,v_low,v_high⟩ := middle.of_lt _ _ _ two_thirds_value _ last
        obtain ⟨f,share,f_low,f_high⟩ := sub_small _ _ _ _ two_thirds_value stands (by linarith) (by linarith)
        obtain ⟨m_low,m_high⟩ := mix_part low high a f lowPart highPart (by linarith) (by linarith) (by linarith)
          (by linarith)
        obtain ⟨b,mixed,b_low,b_high⟩ := mul_small _ _ _ _ range share (by linarith) (by linarith)
        obtain ⟨c,scaled,c_low,c_high⟩ := mul_small _ _ _ _ mixed six_value (by linarith) (by linarith)
        obtain ⟨d,channel,d_low,d_high⟩ := add_small _ _ _ _ lower scaled (by linarith) (by linarith)
        exact ⟨d,channel,⟨by linarith,by linarith⟩⟩
      next => exact ⟨low,lower,⟨by linarith,by linarith⟩⟩

end Hue

/-- All channels of a color whose saturation and lightness are parts of one are bytes. -/
theorem channels_bytes (h s l : Float) (hue : ℚ) (stands : Stands h hue) (positive : -(1 / 10 ^ 6) ≤ hue)
    (saturated : IsPart (1 / 10 ^ 6) s) (lit : IsPart (1 / 10 ^ 6) l) :
    IsByte (channels h s l).1 ∧ IsByte (channels h s l).2.1 ∧ IsByte (channels h s l).2.2 := by
  obtain ⟨saturation,first,saturated⟩ := saturated
  obtain ⟨lightness,second,lit⟩ := lit
  have bounds := bounds_parts s l saturation lightness first second saturated lit
  have byte (t : Float) (start : AtLeast (-1 / 2) t) : IsByte (channelOfHue (2.0 * l - upperBound s l) (upperBound s l) t) :=
    (channelOfHue_part _ _ t bounds.1 bounds.2 start).byte
  unfold channels
  split
  next =>
    obtain ⟨low,high⟩ := lit
    have gray : IsByte l := IsPart.byte l ⟨lightness,second,⟨by linarith,by linarith⟩⟩
    exact ⟨gray,gray,gray⟩
  next =>
    have before := rounds_atLeast _ _ (sub_rounds _ _ _ _ stands third_value) (-2 / 5) (by norm_num) (by norm_num)
      (by linarith)
    have after := rounds_atLeast _ _ (add_rounds _ _ _ _ stands third_value) 0 (by norm_num) le_rfl (by linarith)
    refine ⟨byte _ (after.mono _ _ _ ?_),byte h (.value hue stands (by linarith)),byte _ (before.mono _ _ _ ?_)⟩ <;> norm_num

end Pagewright.Style
