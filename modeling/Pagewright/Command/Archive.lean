import Pagewright.Archive.Validate
import Pagewright.Console.Output
import Pagewright.Detection.Packaged
import Pagewright.Detection.Detect
import Pagewright.Project.Analyzer
import Pagewright.Style.Extract

/-!
Commands that look at an archive or a project directory: checking it, and showing its parts, its styles
and its functionalities.
-/

namespace Pagewright.Command

open Console

/-- A count of bytes for people, as work. -/
def sizeText (size : Int) : Work String := Work.ofExcept ((Archive.formatSize size).mapError .fault)

/-- The signatures that the settings name. -/
def signatures : Work Detection.Signatures := do
  let path ← Settings.signaturesPath?
  Work.ofExcept (Detection.signaturesAt (← get).files path)

/-- An archive checked. -/
def validate (archive : Path) : Work Unit := do
  let rules := { Archive.Rules.standard with maxSize := ← Settings.maxArchiveBytes }
  let report ← Work.ofExcept (rules.validate (← get).files archive "")
  if (← get).json then printJson report.toValue
  else
    keyValuePanel (.str "Archive OK") [("File", .str report.path.name),
      ("Size", .str (← sizeText report.size)), ("Entries", .count report.entries)]
    showWarnings report.warnings

/-- The numbers of images, fonts and stylesheets. -/
def assetsText (assets : Project.Assets) : String :=
  s!"{assets.images.length} images, {assets.fonts.length} fonts, {assets.css.length} stylesheets"

/-- The row of a page in a table. -/
def pageRow (page : Project.SourceFile) : Work (List String) := do
  return [page.name.text, page.path.text, ← sizeText page.size]

/-- The technologies of a project. -/
def technologiesOf (project : Project) : List String :=
  match project.details.technologies with
  | .list items => items.map Value.text
  | _ => []

/-- A project shown. -/
def showProject (project : Project) : Work Unit := do
  keyValuePanel project.name [("Description", project.description.orElse (.str "-")),
    ("Build tool", project.build.tool), ("Pages", .count project.pages.length),
    ("Components", .count project.components.length),
    ("Dependencies", .count project.manifest.all.length),
    ("Assets", .str (assetsText project.assets))]
  if !project.pages.isEmpty then
    printTable "Pages" ["Page", "Path", "Size"] (← project.pages.mapM pageRow)
  let technologies := technologiesOf project
  if !technologies.isEmpty then
    say ("[muted]Technologies:[/muted] " ++ ", ".intercalate technologies)

/-- The project in an archive or a directory shown. -/
def analyze (path : Path) : Work Unit :=
  Project.withArchiveOrDirectory path fun project => do
    if (← get).json then printJson (project.toValue false) else showProject project

/-- The patterns that a detection met, each once and in order. -/
def patternsText (detection : Detection) : String :=
  let patterns := (detection.occurrences.map (·.pattern.text)).eraseDups
  ", ".intercalate (patterns.mergeSort fun a b => a ≤ b)

def detectionRow (entry : String × Detection) : List String :=
  [entry.1, entry.2.name.text, toString entry.2.count, patternsText entry.2]

/-- The functionalities of a project shown. -/
def detect (path : Path) : Work Unit := do
  let signatures ← signatures
  let detections ← Project.withArchiveOrDirectory path fun project =>
    Work.ofExcept ((Detection.detect signatures project).mapError .fault)
  if (← get).json then printJson (.object (detections.mapValues Detection.toValue))
  else if detections.isEmpty then say "[muted]No known functionalities detected.[/muted]"
  else
    printTable "Detected Functionalities" ["Key", "Name", "Matches", "Patterns"]
      (detections.map detectionRow)
    say "\n[muted]Run 'l2wp recommend KEY' to rank substitute components.[/muted]"

/-- The styles of a project as tables. -/
def showStyles (style : Style.StyleData) : Work Unit := do
  printTable "Colors" ["Property", "Value"] (style.colors.map fun color => [color.1, color.2])
  if !style.fonts.isEmpty then
    printTable "Fonts" ["Family", "Source", "URL"] (style.fonts.map fun font =>
      [font.name, font.source, if font.url.isEmpty then "-" else font.url])
  say s!"[muted]Custom CSS: {style.customCss.length} characters after cleanup[/muted]"

/-- The palette of a style. -/
def paletteOf (style : Style.StyleData) : Work (List Style.Swatch) :=
  Work.ofExcept ((Style.palette style).mapError .fault)

/-- The styles of a project shown: its palette if asked for, or its stylesheet. -/
def styles (path : Path) (palette stylesheet : Bool) : Work Unit := do
  let style ← Project.withArchiveOrDirectory path fun project =>
    Work.ofExcept ((Style.extract project).mapError .fault)
  if stylesheet then writeLine (Style.generateStylesheet style)
  else if (← get).json then
    if palette then
      let swatches ← paletteOf style
      printJson (.object [("palette", .list (swatches.map (·.toValue)))])
    else printJson style.toValue
  else if palette then
    let swatches ← paletteOf style
    printTable "Color Palette" ["Id", "Label", "Color"]
      (swatches.map fun swatch => [swatch.id, swatch.label, swatch.color])
  else showStyles style

end Pagewright.Command
