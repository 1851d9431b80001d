import Pagewright.Proofs.Decimal.Numerals
import Pagewright.Proofs.Except
import Pagewright.Proofs.Style.Channels
import Pagewright.Proofs.Style.Properties

/-! Color values and the codes that become of them. A code has six hexadecimal digits just if every channel is a byte: two
digits are the least number that a channel is written with, and not the most. -/
namespace Pagewright.Style
open Decimal
open Text (firstMatch?)

def hexAlphabet : List Char := "0123456789abcdef".toList

/-- A color code: the number sign and six hexadecimal digits in lower case. -/
def IsHexCode (code : List Char) : Prop :=
  ∃ digits, code = '#' :: digits ∧ digits.length = 6 ∧ ∀ c ∈ digits, c ∈ hexAlphabet

/-- A value that is a code already. -/
def isWritten (value : List Char) : Bool := Text.startsWith ['#'] value || Text.startsWith "rgb".toList value

/-- A value is converted: it stays as it is where it is a code already, or becomes a color code. -/
def Converts (value : String) : Prop :=
  ∃ code, hslToRgb value = .ok code ∧ (isWritten value.toList = true ∧ code = value ∨ IsHexCode code.toList)

section Digits

theorem digitChar_hex (d : ℕ) (small : d < 16) : Nat.digitChar d ∈ hexAlphabet := by
  have table : ∀ d < 16, Nat.digitChar d ∈ hexAlphabet := by decide
  exact table d small

theorem hexByte_length (n : ℕ) : (hexByte n).length = max 2 (Nat.toDigits 16 n).length := by
  rw [hexByte,if_neg (by omega),Int.natAbs_natCast,padZeros,hexDigits,List.length_append,List.length_replicate]
  omega

theorem hexByte_digits (n : ℕ) (small : n ≤ 255) : (hexByte n).length = 2 ∧ ∀ c ∈ hexByte n, c ∈ hexAlphabet := by
  constructor
  · have few : (Nat.toDigits 16 n).length ≤ 2 := (Nat.length_toDigits_le_iff (by decide) (by decide)).mpr (by omega)
    rw [hexByte_length]
    omega
  · have digits : ∀ c ∈ Nat.toDigits 16 n, c ∈ hexAlphabet := by
      by_cases single : n < 16
      · rw [Nat.toDigits_of_lt_base single]
        exact List.forall_mem_singleton.mpr (digitChar_hex n single)
      · rw [Nat.toDigits_of_base_le (by decide) (by omega),Nat.toDigits_of_lt_base (by omega)]
        exact List.forall_mem_cons.mpr ⟨digitChar_hex _ (by omega),
          List.forall_mem_singleton.mpr (digitChar_hex _ (Nat.mod_lt n (by decide)))⟩
    intro c member
    rw [hexByte,if_neg (by omega),Int.natAbs_natCast,padZeros] at member
    obtain zero | digit := List.mem_append.mp member
    · rw [List.eq_of_mem_replicate zero]
      decide
    · exact digits c digit

theorem hexByte_natural (n : ℤ) (digits : ∀ c ∈ hexByte n, c ∈ hexAlphabet) : 0 ≤ n := by
  refine Int.not_lt.mp fun negative => ?_
  rw [hexByte,if_pos negative] at digits
  exact absurd (digits '-' List.mem_cons_self) (by decide)

theorem hexByte_short (n : ℕ) (short : (hexByte n).length = 2) : n ≤ 255 := by
  rw [hexByte_length] at short
  have few : (Nat.toDigits 16 n).length ≤ 2 := by omega
  have small := (Nat.length_toDigits_le_iff (by decide) (by decide)).mp few
  omega

variable (channel : Float)

theorem hexChannel_byte (byte : IsByte channel) :
    ∃ digits, hexChannel channel = .ok digits ∧ digits.length = 2 ∧ ∀ c ∈ digits, c ∈ hexAlphabet := by
  obtain ⟨n,whole,small⟩ := byte
  refine ⟨hexByte n,?_,hexByte_digits n small⟩
  rw [hexChannel,whole]

/-- A channel that has hexadecimal digits only has two at least, and is a byte if it has no more. -/
theorem hexChannel_success (digits : List Char) (ok : hexChannel channel = .ok digits)
    (proper : ∀ c ∈ digits, c ∈ hexAlphabet) : 2 ≤ digits.length ∧ (digits.length = 2 → IsByte channel) := by
  unfold hexChannel at ok
  split at ok
  next n whole =>
    cases ok
    obtain ⟨n,rfl⟩ := Int.eq_ofNat_of_zero_le (hexByte_natural n proper)
    refine ⟨?_,fun short => ⟨n,whole,hexByte_short n short⟩⟩
    rw [hexByte_length]
    exact le_max_left _ _
  next => cases ok
  next => cases ok

/-- The code of a color has six digits just if all channels are bytes. -/
theorem hexCode_proper_iff (h s l : Float) : (∃ code, hexCode h s l = .ok code ∧ IsHexCode code) ↔
    IsByte (channels h s l).1 ∧ IsByte (channels h s l).2.1 ∧ IsByte (channels h s l).2.2 := by
  constructor
  · rintro ⟨code,ok,digits,rfl,length,proper⟩
    obtain ⟨red,first,ok⟩ := except_bind_success _ _ _ ok
    obtain ⟨green,second,ok⟩ := except_bind_success _ _ _ ok
    obtain ⟨blue,third,ok⟩ := except_bind_success _ _ _ ok
    obtain rfl : red ++ green ++ blue = digits := (List.cons.inj (Except.ok.inj ok)).2
    simp only [List.length_append] at length
    have red_hex := hexChannel_success _ red first fun c member => proper c (by simp [member])
    have green_hex := hexChannel_success _ green second fun c member => proper c (by simp [member])
    have blue_hex := hexChannel_success _ blue third fun c member => proper c (by simp [member])
    exact ⟨red_hex.2 (by omega),green_hex.2 (by omega),blue_hex.2 (by omega)⟩
  · rintro ⟨red,green,blue⟩
    obtain ⟨r,first,r_two,r_hex⟩ := hexChannel_byte _ red
    obtain ⟨g,second,g_two,g_hex⟩ := hexChannel_byte _ green
    obtain ⟨b,third,b_two,b_hex⟩ := hexChannel_byte _ blue
    refine ⟨'#' :: (r ++ g ++ b),?_,r ++ g ++ b,rfl,by simp [r_two,g_two,b_two],?_⟩
    · show (hexChannel (channels h s l).1 >>= fun r => hexChannel (channels h s l).2.1 >>= fun g =>
        hexChannel (channels h s l).2.2 >>= fun b => pure ('#' :: r ++ g ++ b)) = _
      rw [first,second,third]
      rfl
    · intro c member
      rcases List.mem_append.mp member with member | member
      · exact (List.mem_append.mp member).elim (r_hex c) (g_hex c)
      · exact b_hex c member

end Digits

section Numbers

theorem digits?_success (s digits rest : List Char) (read : digits? s = some (digits,rest)) :
    digits ≠ [] ∧ ∀ c ∈ digits, Text.isDecimal c = true := by
  unfold digits? at read
  cases spanned : s.span Text.isDecimal with
  | mk front last =>
    have passed : ∀ c ∈ front, Text.isDecimal c = true := by
      have same : front = s.takeWhile Text.isDecimal := by
        rw [List.span_eq_takeWhile_dropWhile] at spanned
        exact (Prod.mk.inj spanned).1.symm
      rw [same]
      exact fun c member => List.mem_takeWhile_imp member
    rw [spanned] at read
    cases front with
    | nil => cases read
    | cons c front =>
      cases read
      exact ⟨List.cons_ne_nil _ _,passed⟩

theorem percent?_success (s digits rest : List Char) (read : percent? s = some (digits,rest)) :
    digits ≠ [] ∧ ∀ c ∈ digits, Text.isDecimal c = true := by
  obtain ⟨⟨found,more⟩,number,read⟩ := Option.bind_eq_some_iff.mp read
  have proper := digits?_success s found more number
  dsimp only at read
  split at read
  · cases read
    exact proper
  · cases read

theorem hueAndSaturation?_success (s hue saturation rest : List Char)
    (read : hueAndSaturation? s = some ((hue,saturation),rest)) :
    (hue ≠ [] ∧ ∀ c ∈ hue, Text.isDecimal c = true) ∧ saturation ≠ [] ∧ ∀ c ∈ saturation, Text.isDecimal c = true := by
  obtain ⟨⟨found,more⟩,number,read⟩ := Option.bind_eq_some_iff.mp read
  obtain ⟨filled,passed⟩ := digits?_success s found more number
  dsimp only at read
  split at read
  next second left part =>
    cases read
    exact ⟨⟨filled,passed⟩,percent?_success _ _ _ part⟩
  next =>
    -- One run of digits: the last one is the saturation, all others are the hue.
    split at read
    next first others last left front back _ =>
      cases read
      refine ⟨⟨List.cons_ne_nil _ _,fun c member => ?_⟩,List.cons_ne_nil _ _,fun c member => ?_⟩
      · exact passed c (List.dropLast_subset _ (front ▸ member))
      · rw [List.mem_singleton.mp member]
        exact passed _ (List.mem_of_getLast? back)
    next => cases read

/-- The three numbers of a value are runs of digits. -/
theorem triple?_success (s hue saturation lightness rest : List Char)
    (read : triple? s = some ((hue,saturation,lightness),rest)) :
    ∀ digits ∈ [hue,saturation,lightness], digits ≠ [] ∧ ∀ c ∈ digits, Text.isDecimal c = true := by
  obtain ⟨⟨⟨first,second⟩,more⟩,pair,read⟩ := Option.bind_eq_some_iff.mp read
  obtain ⟨⟨third,left⟩,last,read⟩ := Option.bind_eq_some_iff.mp read
  cases read
  obtain ⟨front,back⟩ := hueAndSaturation?_success s hue saturation more pair
  simpa using ⟨front,back,percent?_success _ _ _ last⟩

/-- A run of digits is read as a natural number, unless it is too long. -/
theorem readInt_decimal (digits : List Char) (filled : digits ≠ []) (decimal : ∀ c ∈ digits, Text.isDecimal c = true) :
    (∀ n, readInt digits = .ok n → 0 ≤ n) ∧ ((∃ n : ℕ, readInt digits = .ok n) ↔ digits.length ≤ maxDigits) := by
  have unsigned : '-' ∉ digits := fun member => absurd (decimal '-' member) (by decide)
  have natural (n : ℤ) (read : readInt digits = .ok n) : 0 ≤ n := readInt_unsigned digits n unsigned read
  have like (c : Char) (member : c ∈ digits) : Text.isDigitLike c = true := by
    rw [Text.isDigitLike,decimal c member,Bool.true_or]
  have readable := readInt_digitLike digits filled like
  refine ⟨natural,?_,?_⟩
  · rintro ⟨n,read⟩
    exact (readable.mp ⟨n,read⟩).2
  · intro short
    obtain ⟨n,read⟩ := readable.mpr ⟨decimal,short⟩
    obtain ⟨n,rfl⟩ := Int.eq_ofNat_of_zero_le (natural n read)
    exact ⟨n,read⟩

end Numbers

section Fractions

variable (digits : List Char) (n scale : ℕ) (read : readInt digits = .ok n) (proper : 0 < scale)
include read proper

theorem fraction_success (x : Float) (ok : fraction digits scale = .ok x) : Rounds (n / scale) x ∧ x.isFinite = true := by
  unfold fraction at ok
  rw [read] at ok
  dsimp only at ok
  split at ok
  next finite =>
    cases ok
    exact ⟨ofRatio_rounds n scale proper,finite⟩
  next => cases ok

theorem fraction_answers : (∃ x, fraction digits scale = .ok x) ↔ n < scale * beyondAll := by
  rw [← ofRatio_finite n scale proper]
  unfold fraction
  rw [read]
  dsimp only
  split
  next finite => exact iff_of_true ⟨_,rfl⟩ finite
  next beyond => exact iff_of_false (by rintro ⟨_,ok⟩; cases ok) beyond

end Fractions

/-- A percentage is a part of one. -/
theorem fraction_percentage (digits : List Char) (n : ℕ) (read : readInt digits = .ok n) (small : n ≤ 100) :
    ∃ x, fraction digits 100 = .ok x ∧ IsPart (1 / 10 ^ 6) x := by
  have within : n < 100 * beyondAll := by
    have large := small_within 100 (by decide)
    omega
  obtain ⟨x,ok⟩ := (fraction_answers digits n 100 read (by decide)).mpr within
  obtain ⟨rounds,_⟩ := fraction_success digits n 100 read (by decide) x ok
  have high : (n : ℚ) ≤ 100 := by exact_mod_cast small
  have low : (0 : ℚ) ≤ n := n.cast_nonneg
  push_cast at rounds
  obtain ⟨v,stands,below,above⟩ := rounds_small _ _ rounds (by linarith) (by linarith)
  exact ⟨x,ok,v,stands,⟨by linarith,by linarith⟩⟩

/-- A hue that is not beyond all numbers is hardly below zero. -/
theorem fraction_hue (digits : List Char) (n : ℕ) (read : readInt digits = .ok n) (x : Float)
    (ok : fraction digits 360 = .ok x) : ∃ hue, Stands x hue ∧ -(1 / 10 ^ 6) ≤ hue := by
  obtain ⟨rounds,finite⟩ := fraction_success digits n 360 read (by decide) x ok
  have above := rounds_atLeast _ _ rounds 0 (by norm_num) le_rfl (by positivity)
  rw [zero_sub] at above
  exact above.of_finite _ _ finite

section Values

variable (value : String)

theorem hslToRgb_written (written : isWritten value.toList = true) : hslToRgb value = .ok value := by
  have same : colorCode value.toList = .ok value.toList := if_pos written
  rw [hslToRgb,same]
  exact congrArg Except.ok String.ofList_toList

variable (unwritten : isWritten value.toList = false)
include unwritten

theorem unwritten_starts : ¬ (Text.startsWith ['#'] value.toList || Text.startsWith "rgb".toList value.toList) = true :=
  Bool.eq_false_iff.mp unwritten

theorem hslToRgb_unmatched (none : firstMatch? triple? value.toList = none) : hslToRgb value = .ok "#000000" := by
  have black : colorCode value.toList = .ok "#000000".toList := by
    rw [colorCode,if_neg (unwritten_starts value unwritten),none]
  rw [hslToRgb,black]
  rfl

variable (hue saturation lightness : List Char) (found : firstMatch? triple? value.toList = some (hue,saturation,lightness))
include found

/-- A value with three numbers is converted just if these are numbers in double precision and all channels are bytes. -/
theorem converts_iff_bytes : Converts value ↔ ∃ h s l, fraction hue 360 = .ok h ∧ fraction saturation 100 = .ok s ∧
    fraction lightness 100 = .ok l ∧
    IsByte (channels h s l).1 ∧ IsByte (channels h s l).2.1 ∧ IsByte (channels h s l).2.2 := by
  have read : colorCode value.toList = fraction hue 360 >>= fun h => fraction saturation 100 >>= fun s =>
      fraction lightness 100 >>= fun l => hexCode h s l := by
    rw [colorCode,if_neg (unwritten_starts value unwritten),found]
  constructor
  · rintro ⟨code,ok,⟨written,_⟩ | proper⟩
    · cases written.symm.trans unwritten
    · rw [hslToRgb,read] at ok
      cases converted : fraction hue 360 >>= fun h => fraction saturation 100 >>= fun s =>
          fraction lightness 100 >>= fun l => hexCode h s l with
      | error fault => rw [converted] at ok; cases ok
      | ok code' =>
        rw [converted] at ok
        cases ok
        rw [String.toList_ofList] at proper
        obtain ⟨h,first,converted⟩ := except_bind_success _ _ _ converted
        obtain ⟨s,second,converted⟩ := except_bind_success _ _ _ converted
        obtain ⟨l,third,converted⟩ := except_bind_success _ _ _ converted
        exact ⟨h,s,l,first,second,third,(hexCode_proper_iff h s l).mp ⟨_,converted,proper⟩⟩
  · rintro ⟨h,s,l,first,second,third,bytes⟩
    obtain ⟨code,converted,proper⟩ := (hexCode_proper_iff h s l).mpr bytes
    refine ⟨String.ofList code,?_,.inr (by rwa [String.toList_ofList])⟩
    rw [hslToRgb,read,first,second,third]
    exact congrArg (String.ofList <$> ·) converted

/-- A value with three numbers of which the last two are percentages is converted just if the first is not beyond all. -/
theorem converts_iff_hue (s l : ℕ) (second : readInt saturation = .ok s) (third : readInt lightness = .ok l)
    (saturated : s ≤ 100) (lit : l ≤ 100) : Converts value ↔ ∃ n : ℕ, readInt hue = .ok n ∧ n < 360 * beyondAll := by
  rw [converts_iff_bytes value unwritten hue saturation lightness found]
  obtain ⟨s,s_ok,saturated⟩ := fraction_percentage saturation s second saturated
  obtain ⟨l,l_ok,lit⟩ := fraction_percentage lightness l third lit
  constructor
  · rintro ⟨h,_,_,first,_⟩
    obtain ⟨t,rest,_,here⟩ := firstMatch?_success _ _ _ found
    obtain ⟨filled,decimal⟩ := triple?_success t hue saturation lightness rest here hue List.mem_cons_self
    cases read : readInt hue with
    | error fault =>
      rw [fraction,read] at first
      cases first
    | ok n =>
      obtain ⟨n,rfl⟩ := Int.eq_ofNat_of_zero_le ((readInt_decimal hue filled decimal).1 n read)
      exact ⟨n,rfl,(fraction_answers hue n 360 read (by decide)).mp ⟨h,first⟩⟩
  · rintro ⟨n,read,within⟩
    obtain ⟨h,first⟩ := (fraction_answers hue n 360 read (by decide)).mpr within
    obtain ⟨round,stands,low⟩ := fraction_hue hue n read h first
    exact ⟨h,s,l,first,s_ok,l_ok,channels_bytes h s l round stands low saturated lit⟩

end Values

/-- Codes stay as they are, and values without three numbers become black. A value with three numbers becomes a color code
just if the numbers are ones in double precision and all channels are bytes. If saturation and lightness are percentages up
to a hundred, all channels are bytes, and only the hue can be too large: by its digits or by its size. -/
theorem hslToRgb_converts (value : String) :
    (isWritten value.toList = true → hslToRgb value = .ok value) ∧
    (isWritten value.toList = false → firstMatch? triple? value.toList = none → hslToRgb value = .ok "#000000") ∧
    ∀ hue saturation lightness, isWritten value.toList = false →
      firstMatch? triple? value.toList = some (hue,saturation,lightness) →
      (∀ digits ∈ [hue,saturation,lightness], (∃ n : ℕ, readInt digits = .ok n) ↔ digits.length ≤ maxDigits) ∧
      (Converts value ↔ ∃ h s l, fraction hue 360 = .ok h ∧ fraction saturation 100 = .ok s ∧
        fraction lightness 100 = .ok l ∧
        IsByte (channels h s l).1 ∧ IsByte (channels h s l).2.1 ∧ IsByte (channels h s l).2.2) ∧
      ∀ s l : ℕ, readInt saturation = .ok s → readInt lightness = .ok l → s ≤ 100 → l ≤ 100 →
        (Converts value ↔ ∃ n : ℕ, readInt hue = .ok n ∧ n < 360 * beyondAll) := by
  refine ⟨hslToRgb_written value,hslToRgb_unmatched value,fun hue saturation lightness unwritten found => ⟨?_,?_,?_⟩⟩
  · obtain ⟨t,rest,_,here⟩ := firstMatch?_success _ _ _ found
    intro digits member
    obtain ⟨filled,decimal⟩ := triple?_success t hue saturation lightness rest here digits member
    exact (readInt_decimal digits filled decimal).2
  · exact converts_iff_bytes value unwritten hue saturation lightness found
  · exact converts_iff_hue value unwritten hue saturation lightness found

/-- A hue of many rounds is converted. -/
theorem many_rounds_converted : Converts "hsl(1000000, 100%, 50%)" := by
  have numbers : isWritten "hsl(1000000, 100%, 50%)".toList = false ∧ firstMatch? triple? "hsl(1000000, 100%, 50%)".toList =
      some (Nat.toDigits 10 1000000,Nat.toDigits 10 100,Nat.toDigits 10 50) := by
    decide +kernel
  obtain ⟨unwritten,found⟩ := numbers
  have within : 1000000 < 360 * beyondAll := by
    have large := small_within 1000000 (by decide)
    omega
  have read (n : ℕ) (small : n < 10 ^ 7) : readInt (Nat.toDigits 10 n) = .ok n :=
    readInt_toDigits n (((Nat.length_toDigits_le_iff (by decide) (by decide)).mpr small).trans (by decide))
  obtain ⟨_,_,converted⟩ := (hslToRgb_converts "hsl(1000000, 100%, 50%)").2.2 _ _ _ unwritten found
  exact (converted 100 50 (read 100 (by decide)) (read 50 (by decide)) (by decide) (by decide)).mpr
    ⟨1000000,read 1000000 (by decide),within⟩

/-- A lightness of more than a hundred percent gives a channel of three digits, and with it a code of nine. -/
theorem bright_code_too_long : hslToRgb "0 0% 300%" = .ok "#2fd2fd2fd" ∧ ¬ Converts "0 0% 300%" := by
  have answer : (hslToRgb "0 0% 300%").toOption = some "#2fd2fd2fd" := by decide +kernel
  have long : hslToRgb "0 0% 300%" = .ok "#2fd2fd2fd" := by
    cases converted : hslToRgb "0 0% 300%" with
    | ok code => rw [converted] at answer; exact congrArg Except.ok (Option.some.inj answer)
    | error fault => rw [converted] at answer; cases answer
  refine ⟨long,?_⟩
  rintro ⟨code,ok,⟨written,_⟩ | ⟨digits,same,length,_⟩⟩
  · exact absurd written (by decide)
  · cases long.symm.trans ok
    cases same
    cases length

end Pagewright.Style
