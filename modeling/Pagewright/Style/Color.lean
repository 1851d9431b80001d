import Pagewright.Decimal.Binary
import Pagewright.Fault
import Pagewright.Text.Case

/-!
Colors given by hue, saturation and lightness as hexadecimal codes. Values that are codes already pass
through; a value without three numbers is black.
-/

namespace Pagewright.Style

/-- A run of decimal digits. -/
def digits? : Text.Recogniser (List Char) := fun s =>
  match s.span Text.isDecimal with
  | ([], _) => none
  | (digits, rest) => some (digits, rest)

/-- White space with at most one comma in it. -/
def skipComma (s : List Char) : List Char :=
  match Text.dropBlanks s with
  | ',' :: rest => Text.dropBlanks rest
  | rest => rest

/-- A run of digits with a percent sign after it. -/
def percent? : Text.Recogniser (List Char) := fun s => do
  let (digits, rest) ← digits? s
  match rest with
  | '%' :: rest => some (digits, rest)
  | _ => none

/-- Hue and saturation: separate numbers, or one run of digits whose last one is the saturation. -/
def hueAndSaturation? : Text.Recogniser (List Char × List Char) := fun s => do
  let (hue, rest) ← digits? s
  match percent? (skipComma rest) with
  | some (saturation, rest) => some ((hue, saturation), rest)
  | none => match hue.dropLast, hue.getLast?, rest with
    | first :: more, some last, '%' :: rest => some ((first :: more, [last]), rest)
    | _, _, _ => none

/-- Hue, saturation and lightness. -/
def triple? : Text.Recogniser (List Char × List Char × List Char) := fun s => do
  let ((hue, saturation), rest) ← hueAndSaturation? s
  let (lightness, rest) ← percent? (skipComma rest)
  some ((hue, saturation, lightness), rest)

/-- A run of digits as a fraction of `scale`. -/
def fraction (digits : List Char) (scale : Nat) : Except Fault Float :=
  match Decimal.readInt digits with
  | .error _ => .error (.badValue (Decimal.limitText digits.length))
  | .ok n =>
    let x := Decimal.ofRatio n scale
    if x.isFinite then .ok x else .error (.overflow "integer division result too large for a float")

/-- The part of a channel that a hue gives between two bounds. -/
def channelOfHue (p q t : Float) : Float :=
  let t := if t < 0.0 then t + 1.0 else t
  let t := if 1.0 < t then t - 1.0 else t
  if t < 1.0 / 6.0 then p + (q - p) * 6.0 * t
  else if t < 1.0 / 2.0 then q
  else if t < 2.0 / 3.0 then p + (q - p) * (2.0 / 3.0 - t) * 6.0
  else p

/-- The red, green and blue parts of a color. -/
def channels (h s l : Float) : Float × Float × Float :=
  if s == 0.0 then (l, l, l)
  else
    let q := if l < 0.5 then l * (1.0 + s) else l + s - l * s
    let p := 2.0 * l - q
    (channelOfHue p q (h + 1.0 / 3.0), channelOfHue p q h, channelOfHue p q (h - 1.0 / 3.0))

/-- A channel in steps of 255, rounded to the nearest one, as two hexadecimal digits. -/
def hexChannel (channel : Float) : Except Fault (List Char) :=
  match Decimal.wholePart (channel * 255.0 + 0.5) with
  | .ok n => .ok (Decimal.hexByte n)
  | .error .notANumber => .error (.badValue "cannot convert float NaN to integer")
  | .error .infinite => .error (.overflow "cannot convert float infinity to integer")

/-- The code of a color. -/
def hexCode (h s l : Float) : Except Fault (List Char) := do
  let (r, g, b) := channels h s l
  let r ← hexChannel r
  let g ← hexChannel g
  let b ← hexChannel b
  return '#' :: r ++ g ++ b

/-- A color value as a code. -/
def colorCode (value : List Char) : Except Fault (List Char) :=
  if Text.startsWith ['#'] value || Text.startsWith "rgb".toList value then .ok value
  else match Text.firstMatch? triple? value with
    | none => .ok "#000000".toList
    | some (hue, saturation, lightness) => do
      let h ← fraction hue 360
      let s ← fraction saturation 100
      let l ← fraction lightness 100
      hexCode h s l

/-- A color value as a code. -/
def hslToRgb (value : String) : Except Fault String :=
  String.ofList <$> colorCode value.toList

def isKeyChar (c : Char) : Bool :=
  ('a' ≤ c && c ≤ 'z') || ('0' ≤ c && c ≤ '9') || c == '_' || c == '-'

/-- A name as a key: lower case, ASCII letters, digits, the low line and the hyphen only. -/
def sanitizeKey (name : String) : String :=
  String.ofList ((Text.lower name.toList).filter isKeyChar)

/-- A word with its first character in upper case. -/
def capitalizeWord : List Char → List Char
  | [] => []
  | c :: rest => Text.upperChar c ++ rest

/-- A name with blanks for hyphens and capital words. -/
def humanize (name : String) : String :=
  let spaced := name.toList.map fun c => if c == '-' then ' ' else c
  String.ofList (Text.join [' '] ((Text.splitOn ' ' spaced).map capitalizeWord))

end Pagewright.Style
