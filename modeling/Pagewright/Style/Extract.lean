import Pagewright.Project.Codec
import Pagewright.Style.Color
import Pagewright.Style.Sheet
import Pagewright.Text.Utf8

/-!
The styles of a project: its colors, its fonts, its cleaned stylesheet and the design values of its
description, and what is made of them: a palette of color codes and a stylesheet that declares the
colors again.
-/

namespace Pagewright.Style

/-- A font family and where it comes from. -/
structure FontRef where
  name : String
  url : String
  source : String

structure StyleData where
  colors : Table String
  fonts : List FontRef
  customCss : String
  designConfig : Table Value

def StyleData.empty : StyleData := ⟨[], [], "", []⟩

/-- A palette entry. -/
structure Swatch where
  id : String
  label : String
  color : String

def FontRef.toValue (font : FontRef) : Value :=
  .object [("name", .str font.name), ("url", .str font.url), ("source", .str font.source)]

def StyleData.toValue (data : StyleData) : Value :=
  .object [("colors", .object (data.colors.mapValues .str)),
    ("fonts", .list (data.fonts.map FontRef.toValue)), ("custom_css", .str data.customCss),
    ("tailwind_config", .object data.designConfig)]

def Swatch.toValue (swatch : Swatch) : Value :=
  .object [("id", .str swatch.id), ("label", .str swatch.label), ("color", .str swatch.color)]

/-- Parts of property names that tell colors. -/
def colorHints : List String :=
  ["color", "background", "foreground", "primary", "secondary", "accent"]

/-- Whether a property name tells a color. -/
def isColorName (name : List Char) : Bool :=
  colorHints.any fun hint => Text.occurs hint.toList name

/-- Properties put into a table of colors. -/
def declare (colors : Table String) (properties : List (List Char × List Char)) : Table String :=
  properties.foldl (fun acc p => acc.put (String.ofList p.1) (String.ofList p.2)) colors

/-- The colors of a stylesheet: properties with a telling name anywhere, then all properties of the
first root block. -/
def extractColors (css : List Char) : Table String :=
  let telling := (Text.finds customProperty? css).filter fun p => isColorName p.1
  let root := ((Text.firstMatch? rootBlock? css).map (Text.finds customProperty?)).getD []
  declare (declare [] telling) root

/-- The font that an import loads, if it is one of the known font host. -/
def importedFont? (url : List Char) : Option FontRef :=
  if Text.occurs "fonts.googleapis.com".toList url then
    (Text.firstMatch? familyOf? url).map fun family =>
      let name := (Text.percentDecode family).map fun c => if c == '+' then ' ' else c
      ⟨String.ofList name, String.ofList url, "google"⟩
  else none

/-- The first family of a declaration without its quotes. -/
def firstFamily (declaration : List Char) : List Char :=
  let unquoted := Text.trimBy isUrlQuote (Text.trim declaration)
  Text.trimBy isUrlQuote (Text.trim (unquoted.takeWhile (· != ',')))

def genericFamilies : List String := ["sans-serif", "serif", "monospace"]

/-- Fonts with one more declared family, unless it is generic or known. -/
def addFamily (fonts : List FontRef) (declaration : List Char) : List FontRef :=
  let name := String.ofList (firstFamily declaration)
  if name.isEmpty || genericFamilies.contains name || fonts.any (·.name == name) then fonts
  else fonts ++ [⟨name, "", "custom"⟩]

/-- The fonts of a stylesheet: imported ones, then declared ones. -/
def extractFonts (css : List Char) : List FontRef :=
  (Text.finds fontFamily? css).foldl addFamily
    ((Text.finds fontImport? css).filterMap importedFont?)

/-- The design values that a project description names. -/
def designConfig (design : Value) : Except Fault (Table Value) := do
  let colors ← Project.namedField design "colores"
  let typography ← Project.namedField design "tipografia"
  return (colors.map fun v => ("colors", v)).toList
    ++ (typography.map fun v => ("typography", v)).toList

/-- The stylesheets of a project one after the other. -/
def combinedCss (project : Project) : List Char :=
  project.assets.css.flatMap fun sheet => sheet.content.text.toList ++ ['\n', '\n']

/-- The styles of a project. -/
def extract (project : Project) : Except Fault StyleData := do
  let css := combinedCss project
  return ⟨extractColors css, extractFonts css, String.ofList (clean css),
    ← designConfig project.details.design⟩

/-- The colors as palette entries with color codes. -/
def palette (data : StyleData) : Except Fault (List Swatch) :=
  data.colors.mapM fun entry => do
    return ⟨sanitizeKey entry.1, humanize entry.1, ← hslToRgb entry.2⟩

/-- The colors declared again in a root block. -/
def rootDeclarations (colors : Table String) : String :=
  if colors.isEmpty then ""
  else
    let lines := colors.map fun entry => s!"  --{entry.1}: {entry.2};\n"
    ":root \x7b\n" ++ String.join lines ++ "\x7d\n\n"

/-- A stylesheet that declares the colors and then repeats the cleaned stylesheet. -/
def generateStylesheet (data : StyleData) : String :=
  rootDeclarations data.colors ++ data.customCss

end Pagewright.Style
