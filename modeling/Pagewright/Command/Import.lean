import Pagewright.Command.Recommend

/-!
The command that imports a project in one go: it uploads the archive, completes the choices and imports
what was uploaded.
-/

namespace Pagewright.Command

open Console
open Import (Importer Options Report Upload)

/-- The row of a choice in a table. -/
def choiceRow (upload : Upload) (choice : String × String) : List String :=
  let name := ((upload.detections.get? choice.1).map (·.name.text)).getD "-"
  [choice.1, name, choice.2]

/-- An upload and the choices for it shown. -/
def showUpload (upload : Upload) (choices : Table String) : Work Unit := do
  let project := upload.project
  keyValuePanel project.name [("Pages", .count project.pages.length),
    ("Components", .count project.components.length),
    ("Images", .count project.assets.images.length),
    ("Functionalities", .count upload.detections.length)]
  showWarnings upload.warnings
  if !choices.isEmpty then
    printTable "Component Choices" ["Key", "Functionality", "Solution"]
      (choices.map (choiceRow upload))

/-- The line about a page that was stored. -/
def pageLine (plain : Bool) (page : Page.Published) : String :=
  "  " ++ icon plain "bullet" ++ " " ++ page.name.text ++ " " ++ icon plain "arrow"
    ++ s!" document {page.document} ({page.sections} section(s))"

/-- What came of an import shown. -/
def showReport (report : Report) : Work Unit := do
  let plain := (← get).plain
  let plugins := ", ".intercalate report.plugins
  keyValuePanel (.str s!"Import {report.status}") [("Pages created", .count report.pages.length),
    ("Plugins installed", .str (if plugins.isEmpty then "-" else plugins)),
    ("Assets imported", .count report.assets),
    ("CSS extracted", .str (if report.css then "yes" else "no"))]
  report.pages.forM fun page => say (pageLine plain page)
  report.errors.forM fun line =>
    say ("  " ++ icon plain "error" ++ " [error]" ++ line ++ "[/error]")
  let done := icon plain (if report.isSuccess then "complete" else "warning")
  say ("\n" ++ done ++ " Done.")

/-- An archive imported for a user. -/
def importArchive (archive : Path) (choices : List String) (user : String) (options : Options) :
    Work Unit := do
  let explicit ← Work.ofExcept (Import.readChoices choices)
  let importer : Importer Unit ← Importer.make none none none
  let upload ← importer.upload archive user ""
  let choices ← Host.SiteWork.alone (importer.resolveChoices upload.detections.keys explicit)
  if !(← get).json then showUpload upload choices
  let report ← Host.SiteWork.alone (importer.run user choices options)
  if (← get).json then
    printJson (.object [("upload", upload.toValue), ("choices", .object (choices.mapValues .str)),
      ("report", report.toValue)])
  else showReport report

end Pagewright.Command
