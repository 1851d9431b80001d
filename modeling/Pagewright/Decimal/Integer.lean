import Pagewright.Text.Scan

/-!
Whole numbers in text. A numeral has an optional sign and decimal digits of any script, with single
low lines between digits, and white space around it; numerals of more than 4300 digits are refused.
-/

namespace Pagewright.Decimal

/-- The longest numeral that is read. -/
def maxDigits : Nat := 4300

/-- White space that may stand around a numeral: all but the four information separators. -/
def isNumeralBlank (c : Char) : Bool := Text.isBlank c && !(28 ≤ c.toNat && c.toNat ≤ 31)

/-- A numeral without the white space around it. -/
def trimNumeral (s : List Char) : List Char := Text.trimBy isNumeralBlank s

/-- The values of the digits at the start of a text, with single low lines between them, and the rest;
nothing where a low line stands out of place. -/
def digitRun? : List Char → Option (List Nat × List Char)
  | [] => some ([], [])
  | '_' :: _ => none
  | c :: rest => match Text.digitValue? c with
    | none => some ([], c :: rest)
    | some digit =>
      let next := match rest with
        | '_' :: more => if more.head?.any Text.isDecimal then digitRun? more else none
        | rest => digitRun? rest
      next.map fun (digits, after) => (digit :: digits, after)

/-- The number that a list of digits writes in base ten. -/
def ofDigits (digits : List Nat) : Nat := digits.foldl (fun n d => 10 * n + d) 0

/-- A sign and the rest of a numeral. -/
def signed : List Char → Bool × List Char
  | '-' :: rest => (true, rest)
  | '+' :: rest => (false, rest)
  | s => (false, s)

/-- Why a text writes no whole number that is read. -/
inductive NumeralFault where
  | noNumeral
  | tooLong (digits : Nat)

/-- The whole number that a text writes. The limit is looked at before what stands after the digits. -/
def readInt (s : List Char) : Except NumeralFault Int :=
  let (negative, rest) := signed (trimNumeral s)
  match digitRun? rest with
  | none => .error .noNumeral
  | some (digits, after) =>
    if maxDigits < digits.length then .error (.tooLong digits.length)
    else if digits.isEmpty || !after.isEmpty then .error .noNumeral
    else .ok (if negative then -(ofDigits digits : Int) else ofDigits digits)

/-- The whole number that a text writes, if it writes one that is read. -/
def readInt? (s : List Char) : Option Int := (readInt s).toOption

/-- The refusal of a numeral of too many digits. -/
def limitText (digits : Nat) : String :=
  s!"Exceeds the limit ({maxDigits} digits) for integer string conversion: value has {digits} digits; "
    ++ "use sys.set_int_max_str_digits() to increase the limit"

/-- Hexadecimal digits of a number, lower case, most significant first. -/
def hexDigits (n : Nat) : List Char := Nat.toDigits 16 n

/-- A text filled with zeros on the left up to a width. -/
def padZeros (width : Nat) (s : List Char) : List Char :=
  List.replicate (width - s.length) '0' ++ s

/-- A number in hexadecimal notation with at least two digits; the sign counts as one. -/
def hexByte (n : Int) : List Char :=
  if n < 0 then '-' :: padZeros 1 (hexDigits n.natAbs) else padZeros 2 (hexDigits n.natAbs)

end Pagewright.Decimal
