import Pagewright.Decimal.Integer

/-!
Double precision numbers as exact values. A finite number is `± mantissa · 2^exponent`; everything
about its text and its whole part is computed from these in natural numbers.

Decimal fractions in text are digits with an optional point and an optional exponent. `scan` reads the
longest unsigned number at the start of a text; `readFloat?` reads a whole text, in which digits may
be grouped by single low lines and the words for infinity and for no number are known.
-/

namespace Pagewright.Decimal

/-- What a double precision number stands for. -/
inductive Real64 where
  | notANumber
  | infinite (negative : Bool)
  | finite (negative : Bool) (mantissa : Nat) (exponent : Int)
deriving Repr, DecidableEq

/-- The exact value of a double precision number. -/
def Real64.ofFloat (x : Float) : Real64 :=
  let bits : Nat := x.toBits.toNat
  let negative := bits / Nat.pow 2 63 == 1
  let exponent : Nat := bits / Nat.pow 2 52 % 2048
  let fraction : Nat := bits % Nat.pow 2 52
  if exponent == 2047 then
    if fraction == 0 then .infinite negative else .notANumber
  else if exponent == 0 then .finite negative fraction (-1074)
  else .finite negative (Nat.pow 2 52 + fraction) ((exponent : Int) - 1075)

/-- A power of two as numerator and denominator. -/
def twoPower (e : Int) : Nat × Nat :=
  match e with
  | .ofNat n => (Nat.pow 2 n, 1)
  | .negSucc n => (1, Nat.pow 2 (n + 1))

/-- The whole part, toward zero. -/
def truncate (negative : Bool) (mantissa : Nat) (exponent : Int) : Int :=
  let (num, den) := twoPower exponent
  let whole : Int := (mantissa * num / den : Nat)
  if negative then -whole else whole

/-- Why a number has no whole part. -/
inductive NoWholePart where
  | notANumber
  | infinite
deriving DecidableEq

/-- The whole part of a double precision number. -/
def wholePart (x : Float) : Except NoWholePart Int :=
  match Real64.ofFloat x with
  | .notANumber => .error .notANumber
  | .infinite _ => .error .infinite
  | .finite negative mantissa exponent => .ok (truncate negative mantissa exponent)

/-- The quotient rounded to the nearest whole number, a half to the even neighbour. -/
def roundDiv (num den : Nat) : Nat :=
  let q := num / den
  let r := num % den
  if 2 * r < den then q else if den < 2 * r then q + 1 else if q % 2 == 0 then q else q + 1

/-- A whole number of any size with a mantissa of its own length. -/
def exactly (n : Nat) : Float.Model.UnpackedFloat :=
  if h : 0 < n then .finite .positive n 0 h else .zero .positive

/-- The double precision number nearest to a ratio, ties to even; the ratio is not zero. -/
def ofPositiveRatio (num den : Nat) : Float :=
  .ofModel (.pack (.div .binary64 (exactly num) (exactly den)))

/-- The double precision number nearest to a ratio of whole numbers, ties to even. -/
def ofRatio (num : Int) (den : Nat) : Float :=
  if num == 0 then 0.0
  else if num < 0 then -(ofPositiveRatio num.natAbs den) else ofPositiveRatio num.natAbs den

/-- The double precision number nearest to a whole number, if it is not too large for one. -/
def ofInt? (n : Int) : Option Float :=
  let x := ofRatio n 1
  if x.isFinite then some x else none

/-- The double precision number nearest to `digits · 10^exponent`. -/
def ofDecimal (digits : Nat) (exponent : Int) : Float :=
  let size : Int := Nat.log2 digits * 30103 / 100000
  if digits == 0 then 0.0
  else if 310 < size + exponent then 1.0 / 0.0
  else if size + exponent < -330 then 0.0
  else match exponent with
    | .ofNat n => Float.ofScientific digits false n
    | .negSucc n => Float.ofScientific digits true (n + 1)

/-- Digits, with single low lines between them where `grouped`, from the start of a text. -/
def takeDigits (grouped afterDigit : Bool) : List Char → List Nat × List Char
  | [] => ([], [])
  | c :: rest => match Text.digitValue? c with
    | some digit =>
      let (digits, remaining) := takeDigits grouped true rest
      (digit :: digits, remaining)
    | none =>
      if c == '_' && grouped && afterDigit && rest.head?.any Text.isDecimal then
        takeDigits grouped false rest
      else ([], c :: rest)

/-- The exponent after a mark, if one is there. -/
def takeExponent (grouped : Bool) (s : List Char) : Int × List Char :=
  match s with
  | mark :: rest =>
    if mark == 'e' || mark == 'E' then
      let (negative, body) := signed rest
      match takeDigits grouped false body with
      | ([], _) => (0, s)
      | (digits, remaining) =>
        let n : Int := ofDigits digits
        (if negative then -n else n, remaining)
    else (0, s)
  | [] => (0, s)

/-- The number written by `whole.fraction` and an exponent. -/
def assemble (whole fraction : List Nat) (exponent : Int) : Float :=
  ofDecimal (ofDigits (whole ++ fraction)) (exponent - fraction.length)

/-- The double precision number that a text writes, if it writes one. -/
def readFloat? (text : List Char) : Option Float := do
  let (negative, body) := signed (trimNumeral text)
  let x ← match body.map Char.toLower with
    | ['n', 'a', 'n'] => some (0.0 / 0.0)
    | ['i', 'n', 'f'] => some (1.0 / 0.0)
    | ['i', 'n', 'f', 'i', 'n', 'i', 't', 'y'] => some (1.0 / 0.0)
    | _ =>
      let (whole, rest) := takeDigits true false body
      let (fraction, rest) := match rest with
        | '.' :: more => takeDigits true false more
        | _ => ([], rest)
      if whole.isEmpty && fraction.isEmpty then none
      else match takeExponent true rest with
        | (exponent, []) => some (assemble whole fraction exponent)
        | _ => none
  some (if negative then -x else x)

end Pagewright.Decimal
