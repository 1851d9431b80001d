import Pagewright.Console.Output
import Pagewright.Design.Convert
import Pagewright.Fields.Selection
import Pagewright.Host.Selection
import Pagewright.Placeholder.Resolve

/-!
Commands that translate one source: a page component into a tree, or a design into a template. The result
is stored, written to a file or printed. A further command resolves the placeholders of a text or of a stored
document for one content item.
-/

namespace Pagewright.Command

open Console

/-- The text of a file, whatever its bytes are. -/
def sourceText (file : Path) : Work String := Work.ask fun files => do
  return (← files.read file).lenientText

/-- A text written to a file, or printed where no file is given. -/
def writeOrPrint (text : String) (output : Option Path) : Work Unit :=
  match output with
  | none => writeLine text
  | some file => do
    Work.change (·.write file (.ofText text))
    say s!"[success]Wrote[/success] {file.text}"

/-- A document handed to the document store that the settings name. -/
def storeDocument (store : Host.DocumentStore FileTree) (document : Host.NewDocument) :
    Work String := do
  let (result, files) := store.create document (← get).files
  modify fun w => { w with files }
  Work.ofExcept result

/-- A page component translated; it is stored as a draft if `save` is set. -/
def convertPage (file : Path) (save : Bool) (title : Option String) (output : Option Path) :
    Work Unit := do
  let text ← sourceText file
  let tree ← Work.build (Page.translate text.toList)
  let content := Document.toValues tree
  if save then
    let documents ← Host.documentDirectory .null none
    let title := match title with
      | some title => if title.isEmpty then file.stem else title
      | none => file.stem
    let id ← storeDocument documents.store ⟨.str title, content, .str "page", [], "draft"⟩
    say (icon (← get).plain "complete" ++ s!" Created document [slug]{id}[/slug] "
      ++ s!"with {tree.length} section(s)")
  else writeOrPrint (Json.print (.indented 2) (.list content)) output

/-- Storing in files, as work. -/
def storing {α : Type} (storing : Page.Storing FileTree α) : Work α := do
  let w ← get
  let (result, files, drawnIds) := (ExceptT.run storing).run (w.files, w.drawnIds)
  set { w with files, drawnIds }
  Work.ofExcept result

/-- A design translated; it is stored unless `dryRun` is set. -/
def convertDesign (file : Path) (dryRun : Bool) (output : Option Path) : Work Unit := do
  let text ← sourceText file
  if dryRun then
    let document ← Work.build (Design.template text file.text)
    writeOrPrint document.exportText output
  else
    let documents ← Host.documentDirectory .null none
    let (id, document) ← storing (Design.publish documents.store text file.text)
    say (icon (← get).plain "complete" ++ s!" Exported [bold]{document.title.text}[/bold] "
      ++ s!"as document [slug]{id}[/slug] ({document.content.length} section(s))")

/-- The stored document that a file holds, if it holds one: its fields and its content. -/
def documentIn? (file : Path) (text : String) : Except Fault (Option (Table Value × List Value)) :=
  if file.lowerSuffix != ".json" then .ok none
  else match Content.jsonOf false text with
    | .error fault => if fault.isBadValue then .ok none else .error fault
    | .ok (.object fields) => match Table.get? fields "content" with
      | some (.list content) => .ok (some (fields, content))
      | _ => .ok none
    | .ok _ => .ok none

/-- A file with its placeholders resolved for a content item, printed. -/
def renderFile (file : Path) (context : String) (contexts : Option Path) : Work Unit := do
  let providers ← Fields.providersFor .null
  let contexts ← match contexts with
    | some path => pure path
    | none => Fields.valuesFile
  let text ← sourceText file
  let files := (← get).files
  let sources := Fields.sourcesOf files providers
  let load := Placeholder.loadContext files contexts
  match ← Work.ofExcept ((documentIn? file text).mapError .fault) with
  | some (fields, content) =>
    let trees ← Work.build (Placeholder.resolveTrees sources load context content)
    printJson (.object (fields.put "content" (.list trees)))
  | none => writeLine (← Work.ofExcept (Placeholder.resolve sources load text context))

end Pagewright.Command
