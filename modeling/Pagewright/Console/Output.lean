import Pagewright.Console.Grid
import Pagewright.Workspace

/-!
Console output: lines of markup, icons, panels and tables. In plain mode icons are ASCII and panels are
lines; in JSON mode panels are JSON objects.
-/

namespace Pagewright.Console

/-- The icons by name. -/
def icons : Table String :=
  [("complete", "[green]✔[/green]"), ("active", "[green]●[/green]"),
    ("installed", "[yellow]◉[/yellow]"), ("missing", "[dim]○[/dim]"),
    ("warning", "[yellow]⚠[/yellow]"), ("error", "[red]✘[/red]"), ("arrow", "[dim]──▸[/dim]"),
    ("bullet", "[cyan]•[/cyan]")]

/-- The icons of plain mode. -/
def plainIcons : Table String :=
  [("complete", "[OK]"), ("active", "[on]"), ("installed", "[--]"), ("missing", "[ ]"),
    ("warning", "[!]"), ("error", "[!!]"), ("arrow", "-->"), ("bullet", "*")]

/-- An icon as markup; unknown ones are empty. -/
def icon (plain : Bool) (name : String) : String :=
  ((if plain then plainIcons else icons).get? name).getD ""

/-- The icon of the state of a candidate on the host. -/
def statusIcon (plain installed active : Bool) : String :=
  icon plain (if active then "active" else if installed then "installed" else "missing")

/-- Printing a line as it is. -/
def writeLine (text : String) : Work Unit := modify fun w => { w with printed := w.printed ++ text ++ "\n" }

/-- The cells of a line of the console. -/
def consoleWidth : Nat := 1500

/-- Printing lines, unless making them fails. -/
def writeLines (lines : Except Fault (List (List Char))) : Work Unit := do
  (← Work.ofExcept (lines.mapError .fault)).forM fun line => writeLine (String.ofList line)

/-- Printing a line of markup. -/
def say (markup : String) : Work Unit :=
  writeLines do return wrap consoleWidth .fold .free (← render markup).toList

/-- Printing a value as JSON. -/
def printJson (v : Value) : Work Unit := writeLine (Json.print (.indented 2) v)

/-- Printing a table. -/
def printGrid (grid : Grid) : Work Unit := writeLines (grid.lines consoleWidth)

/-- Printing a table: its title, the heads of its columns and its rows. -/
def printTable (title : String) (heads : List String) (rows : List (List String)) : Work Unit :=
  printGrid ⟨title, heads.map fun head => ⟨head, .left⟩, rows⟩

/-- Printing a panel: its title and its text. -/
def printPanel (title body : String) : Work Unit := writeLines (panelLines consoleWidth title body)

/-- The title of a panel, which has to be a text or nothing. -/
def panelTitle (title : Value) : Except Fault String :=
  match title with
  | .str text => .ok text
  | title =>
    if !title.isTruthy then .ok ""
    else match title with
      | .list _ => .error (title.lacks "end")
      | .object _ => .error (title.lacks "end")
      | title => .error (title.lacks "copy")

/-- Printing named values under a title. -/
def keyValuePanel (title : Value) (rows : Table Value) : Work Unit := do
  let w ← get
  if w.json then printJson (.object rows)
  else if w.plain then
    writeLine title.text
    rows.forM fun row => writeLine s!"  {row.1}: {row.2.text}"
    writeLine ""
  else
    let title ← Work.ofExcept ((panelTitle title).mapError .fault)
    printPanel title ("\n".intercalate (rows.map fun row => s!"[bold]{row.1}:[/bold] {row.2.text}"))

/-- Printing warnings. -/
def showWarnings (warnings : List String) : Work Unit := do
  let plain := (← get).plain
  warnings.forM fun warning =>
    if plain then writeLine ("[!] " ++ warning)
    else say (icon false "warning" ++ " [warning]" ++ warning ++ "[/warning]")

end Pagewright.Console
