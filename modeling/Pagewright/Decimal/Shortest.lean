import Pagewright.Decimal.Binary

/-!
The text of a double precision number: the fewest significant digits that read back as the number,
and of these the ones nearest to it. Digits are written with a point between 10^-4 and 10^16 and with
an exponent otherwise.
-/

namespace Pagewright.Decimal

/-- How a number with given digits is laid out. -/
structure FloatLayout where
  /-- The least decimal exponent written without an exponent mark. -/
  positionalFrom : Int
  /-- The least larger exponent that needs a mark again. -/
  positionalBelow : Int
  /-- The fewest digits of an exponent. -/
  exponentWidth : Nat
  nan : String
  infinity : String

/-- Numbers as this library displays them. -/
def displayLayout : FloatLayout := ⟨-4, 16, 2, "nan", "inf"⟩

/-- Numbers inside JSON text. -/
def jsonLayout : FloatLayout := ⟨-4, 16, 2, "NaN", "Infinity"⟩

/-- The reals that round to a positive number, as fractions over one denominator. -/
structure Interval where
  low : Nat
  value : Nat
  high : Nat
  den : Nat
  /-- Whether the two ends round to the number as well. -/
  closed : Bool

/-- The rounding interval of `mantissa · 2^exponent`. -/
def Interval.of (mantissa : Nat) (exponent : Int) : Interval :=
  let (num, den) := twoPower (exponent - 2)
  let below := if mantissa == Nat.pow 2 52 && exponent != -1074 then 1 else 2
  ⟨(4 * mantissa - below) * num, 4 * mantissa * num, (4 * mantissa + 2) * num, den,
    mantissa % 2 == 0⟩

/-- A power of ten as numerator and denominator. -/
def tenPower (e : Int) : Nat × Nat :=
  match e with
  | .ofNat n => (Nat.pow 10 n, 1)
  | .negSucc n => (1, Nat.pow 10 (n + 1))

/-- Whether `num / den` is at least ten to the power `e`. -/
def atLeastTenPower (num den : Nat) (e : Int) : Bool :=
  let (up, down) := tenPower e
  up * den ≤ num * down

/-- The decimal exponent of the leading digit of a positive fraction. -/
def leadingExponent (num den : Nat) : Int :=
  let guess : Int := ((Nat.log2 num : Int) - Nat.log2 den) * 30103 / 100000
  if atLeastTenPower num den (guess + 1) then guess + 1
  else if atLeastTenPower num den guess then guess
  else guess - 1

/-- Whether `n · 10^e` rounds to the number of the interval. -/
def Interval.holds (i : Interval) (n : Nat) (e : Int) : Bool :=
  let (up, down) := tenPower e
  let x := n * up * i.den
  let low := i.low * down
  let high := i.high * down
  if i.closed then low ≤ x && x ≤ high else low < x && x < high

/-- The multiple of `10^e` in the interval that is nearest to its number, if there is one. -/
def Interval.nearest? (i : Interval) (e : Int) : Option Nat :=
  let (up, down) := tenPower e
  let num := i.value * down
  let den := i.den * up
  let q := num / den
  let closest := roundDiv num den
  if i.holds closest e then some closest
  else if i.holds q e then some q
  else if i.holds (q + 1) e then some (q + 1)
  else none

/-- Digits tried from `count` on; seventeen always suffice. -/
def shortestFrom (i : Interval) (leading : Int) : Nat → Nat → Nat × Int
  | 0, count =>
    let e := leading - (count : Int) + 1
    ((i.nearest? e).getD 0, e)
  | fuel + 1, count =>
    let e := leading - (count : Int) + 1
    match i.nearest? e with
    | some n => (n, e)
    | none => shortestFrom i leading fuel (count + 1)

/-- Digits without zeros at the end, with the exponent of the last one. -/
def dropEndZeros : Nat → Nat × Int → Nat × Int
  | 0, d => d
  | fuel + 1, (n, e) => if n != 0 && n % 10 == 0 then dropEndZeros fuel (n / 10, e + 1) else (n, e)

/-- The shortest `digits · 10^exponent` that reads back as `mantissa · 2^exponent`. -/
def shortest (mantissa : Nat) (exponent : Int) : Nat × Int :=
  let i := Interval.of mantissa exponent
  dropEndZeros 400 (shortestFrom i (leadingExponent i.value i.den) 17 1)

/-- Digits laid out as text, the decimal exponent of the first one being `leading`. -/
def FloatLayout.digits (layout : FloatLayout) (digits : List Char) (leading : Int) : List Char :=
  if layout.positionalFrom ≤ leading && leading < layout.positionalBelow then
    if leading < 0 then
      "0.".toList ++ List.replicate (leading.natAbs - 1) '0' ++ digits
    else
      let whole := leading.toNat + 1
      let padded := digits ++ List.replicate (whole - digits.length) '0'
      let fraction := padded.drop whole
      padded.take whole ++ '.' :: (if fraction.isEmpty then ['0'] else fraction)
  else
    let mark := if leading < 0 then "e-".toList else "e+".toList
    let tail := match digits with
      | [] => []
      | [d] => [d]
      | d :: rest => d :: '.' :: rest
    tail ++ mark ++ padZeros layout.exponentWidth (Nat.toDigits 10 leading.natAbs)

/-- The text of a number in a layout. -/
def FloatLayout.text (layout : FloatLayout) (x : Float) : String :=
  match Real64.ofFloat x with
  | .notANumber => layout.nan
  | .infinite negative => if negative then "-" ++ layout.infinity else layout.infinity
  | .finite negative mantissa exponent =>
    let sign := if negative then "-" else ""
    if mantissa == 0 then sign ++ "0.0"
    else
      let (n, e) := shortest mantissa exponent
      let digits := Nat.toDigits 10 n
      sign ++ String.ofList (layout.digits digits (e + digits.length - 1))

/-- A number with a fixed count of decimal places, a half to the even neighbour. -/
def fixedPlaces (places : Nat) (x : Float) : String :=
  match Real64.ofFloat x with
  | .notANumber => "nan"
  | .infinite negative => if negative then "-inf" else "inf"
  | .finite negative mantissa exponent =>
    let (num, den) := twoPower exponent
    let scaled := roundDiv (mantissa * num * Nat.pow 10 places) den
    let digits := padZeros (places + 1) (Nat.toDigits 10 scaled)
    let whole := digits.take (digits.length - places)
    let sign := if negative then "-" else ""
    if places == 0 then sign ++ String.ofList whole
    else sign ++ String.ofList (whole ++ '.' :: digits.drop (digits.length - places))

end Pagewright.Decimal
