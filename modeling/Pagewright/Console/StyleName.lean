import Pagewright.Text.Case
import Pagewright.Value.Display

/-!
Names of console styles. A name is a list of words: attributes, `not` with an attribute, a color, `on` with
a background color and `link` with a target. Names that say the same have one normal form; a name that is
no list of such words is its own, without white space at its ends and in lower case. A color is a known word, a
number sign and six hexadecimal digits, the number of a color in the palette of 256, or three components of at
most 255.
-/

namespace Pagewright.Console

/-- The words for colors. -/
def colorWords : List (List Char) := Text.words
  "black red green yellow blue magenta cyan white bright_black bright_red bright_green bright_yellow
bright_blue bright_magenta bright_cyan bright_white grey0 gray0 navy_blue dark_blue blue3 blue1
dark_green deep_sky_blue4 dodger_blue3 dodger_blue2 green4 spring_green4 turquoise4 deep_sky_blue3
dodger_blue1 green3 spring_green3 dark_cyan light_sea_green deep_sky_blue2 deep_sky_blue1
spring_green2 cyan3 dark_turquoise turquoise2 green1 spring_green1 medium_spring_green cyan2 cyan1
dark_red deep_pink4 purple4 purple3 blue_violet orange4 grey37 gray37 medium_purple4 slate_blue3
royal_blue1 chartreuse4 dark_sea_green4 pale_turquoise4 steel_blue steel_blue3 cornflower_blue
chartreuse3 cadet_blue sky_blue3 steel_blue1 pale_green3 sea_green3 aquamarine3 medium_turquoise
chartreuse2 sea_green2 sea_green1 aquamarine1 dark_slate_gray2 dark_magenta dark_violet purple
light_pink4 plum4 medium_purple3 slate_blue1 yellow4 wheat4 grey53 gray53 light_slate_grey
light_slate_gray medium_purple light_slate_blue dark_olive_green3 dark_sea_green light_sky_blue3
sky_blue2 dark_sea_green3 dark_slate_gray3 sky_blue1 chartreuse1 light_green pale_green1
dark_slate_gray1 red3 medium_violet_red magenta3 dark_orange3 indian_red hot_pink3 medium_orchid3
medium_orchid medium_purple2 dark_goldenrod light_salmon3 rosy_brown grey63 gray63 medium_purple1
gold3 dark_khaki navajo_white3 grey69 gray69 light_steel_blue3 light_steel_blue yellow3
dark_sea_green2 light_cyan3 light_sky_blue1 green_yellow dark_olive_green2 dark_sea_green1
pale_turquoise1 deep_pink3 magenta2 hot_pink2 orchid medium_orchid1 orange3 light_pink3 pink3
plum3 violet light_goldenrod3 tan misty_rose3 thistle3 plum2 khaki3 light_goldenrod2 light_yellow3
grey84 gray84 light_steel_blue1 yellow2 dark_olive_green1 honeydew2 light_cyan1 red1 deep_pink2
deep_pink1 magenta1 orange_red1 indian_red1 hot_pink dark_orange salmon1 light_coral
pale_violet_red1 orchid2 orchid1 orange1 sandy_brown light_salmon1 light_pink1 pink1 plum1 gold1
navajo_white1 misty_rose1 thistle1 yellow1 light_goldenrod1 khaki1 wheat1 cornsilk1 grey100
gray100 grey3 gray3 grey7 gray7 grey11 gray11 grey15 gray15 grey19 gray19 grey23 gray23 grey27
gray27 grey30 gray30 grey35 gray35 grey39 gray39 grey42 gray42 grey46 gray46 grey50 gray50 grey54
gray54 grey58 gray58 grey62 gray62 grey66 gray66 grey70 gray70 grey74 gray74 grey78 gray78 grey82
gray82 grey85 gray85 grey89 gray89 grey93 gray93".toList

/-- What stands between a word with an opening parenthesis and the closing one at the end. -/
def parenthesized? (word s : List Char) : Option (List Char) := do
  let inner ← Text.after? (word ++ ['(']) s
  if inner.getLast? == some ')' then some inner.dropLast else none

/-- A component of a color, which has to be a numeral. -/
def colorComponent (s : List Char) : Except Fault Int := (Value.str (String.ofList s)).toInt

/-- Whether components name a color. -/
def areComponents (s : List Char) : Except Fault Bool :=
  match Text.splitOn ',' s with
  | [red, green, blue] => do
    let red ← colorComponent red
    let green ← colorComponent green
    let blue ← colorComponent blue
    return red ≤ 255 && green ≤ 255 && blue ≤ 255
  | _ => .ok false

/-- Whether a text in lower case names a color. A component that is no numeral is a fault. -/
def isColor (s : List Char) : Except Fault Bool :=
  match s, parenthesized? "color".toList s, parenthesized? "rgb".toList s with
  | '#' :: digits, _, _ => .ok (digits.length == 6 && digits.all fun c => (Text.hexValue? c).isSome)
  | _, some number, _ =>
    .ok (1 ≤ number.length && number.length ≤ 3 && number.all Char.isDigit
      && (Decimal.readInt? number).any (· ≤ 255))
  | _, _, some components =>
    if !components.isEmpty && components.all fun c => c == ',' || Text.isDecimal c then
      areComponents components
    else .ok false
  | s, none, none => .ok (s == "default".toList || colorWords.contains s)

/-- What a style sets. -/
structure StyleSpec where
  /-- The attributes that are on or off. -/
  attributes : Table Bool := []
  color : Option (List Char) := none
  background : Option (List Char) := none
  link : Option (List Char) := none

/-- The attributes in the order in which a normal form names them, each with its short words. -/
def styleAttributes : Table (List String) :=
  [("bold", ["b"]), ("dim", ["d"]), ("italic", ["i"]), ("underline", ["u"]), ("blink", []),
    ("blink2", []), ("reverse", ["r"]), ("conceal", ["c"]), ("strike", ["s"]),
    ("underline2", ["uu"]), ("frame", []), ("encircle", []), ("overline", ["o"])]

/-- The attribute that a word means. -/
def attributeOf? (word : List Char) : Option String :=
  let word := String.ofList word
  (styleAttributes.find? fun entry => entry.1 == word || entry.2.contains word).map (·.1)

/-- A style with an attribute set. -/
def StyleSpec.put (style : StyleSpec) (key : String) (on : Bool) : StyleSpec :=
  { style with attributes := style.attributes.put key on }

/-- A style with what words say put over it, or nothing if they are no words of a style. -/
def StyleSpec.read? (style : StyleSpec) : List (List Char) → Except Fault (Option StyleSpec)
  | [] => .ok (some style)
  | word :: rest =>
    let lowered := Text.lower word
    if lowered == "on".toList then match rest with
      | [] => .ok none
      | name :: rest => do
        let name := Text.lower name
        if ← isColor name then StyleSpec.read? { style with background := some name } rest
        else return none
    else if lowered == "not".toList then match rest with
      | [] => .ok none
      | name :: rest => match attributeOf? name with
        | some key => (style.put key false).read? rest
        | none => .ok none
    else if lowered == "link".toList then match rest with
      | [] => .ok none
      | target :: rest => StyleSpec.read? { style with link := some target } rest
    else match attributeOf? lowered with
      | some key => (style.put key true).read? rest
      | none => do
        if ← isColor lowered then StyleSpec.read? { style with color := some lowered } rest
        else return none

/-- The words for an attribute that is set. -/
def StyleSpec.attributeWords (style : StyleSpec) (key : String) : List (List Char) :=
  match style.attributes.get? key with
  | some true => [key.toList]
  | some false => ["not".toList, key.toList]
  | none => []

/-- The normal form of a style. -/
def StyleSpec.name (style : StyleSpec) : List Char :=
  let words := styleAttributes.keys.flatMap style.attributeWords ++ style.color.toList
    ++ (style.background.map fun color => ["on".toList, color]).getD []
    ++ (style.link.map fun target => ["link".toList, target]).getD []
  if words.isEmpty then "none".toList else Text.join [' '] words

/-- The style that a text names, if it names one. -/
def StyleSpec.ofText? (text : List Char) : Except Fault (Option StyleSpec) :=
  if Text.trim text == "none".toList then .ok (some {}) else StyleSpec.read? {} (Text.words text)

/-- The normal form of a name of a style. -/
def normalStyleName (text : List Char) : Except Fault (List Char) := do
  return match ← StyleSpec.ofText? text with
  | some style => style.name
  | none => Text.lower (Text.trim text)

end Pagewright.Console
