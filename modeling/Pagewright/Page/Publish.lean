import Pagewright.Host.DocumentStore
import Pagewright.Page.Translate
import Pagewright.Style.Extract

/-!
Publishing the pages of a project: every page is translated and stored as one document. A store that
refuses a page ends the work, unless failures are collected; then the other pages are still stored.
-/

namespace Pagewright.Page

open Host (DocumentStore NewDocument)

/-- A page that was stored. -/
structure Published where
  name : Value
  document : String
  sections : Nat

/-- Storing with a state and drawing node ids. -/
abbrev Storing (σ : Type) := ExceptT Failure (StateM (σ × Nat))

namespace Storing

variable {σ α : Type}

/-- Drawing node ids while storing. -/
def ofBuild (b : Document.Build α) : Storing σ α := do
  let (state, drawn) ← get
  let (result, drawn) := b.run drawn
  set (state, drawn)
  match result with
  | .ok v => return v
  | .error failure => throw failure

/-- A step of the store. -/
def ofStep (step : σ → Except Failure α × σ) : Storing σ (Except Failure α) := do
  let (state, drawn) ← get
  let (result, state) := step state
  set (state, drawn)
  return result

end Storing

/-- The settings that pages get from the style of a project. -/
def settingsOf (style : Option Style.StyleData) : Table Value :=
  match style with
  | some data => if data.customCss.isEmpty then [] else [("custom_css", .str data.customCss)]
  | none => []

/-- The source text of a page. -/
def sourceText (page : Project.SourceFile) : Except Fault (List Char) :=
  match page.content with
  | .str s => .ok s.toList
  | v => .error (.wrongType s!"expected string or bytes-like object, got '{v.kindName}'")

/-- One page translated and handed to the store. -/
def publishPage {σ : Type} (store : DocumentStore σ) (settings : Table Value) (status : String)
    (page : Project.SourceFile) : Storing σ (Except Failure Published) := do
  let tree ← Storing.ofBuild do Page.translate (← (sourceText page : Except Fault _))
  let document : NewDocument := ⟨page.name, Document.toValues tree, .str "page", settings, status⟩
  let result ← Storing.ofStep (store.create document)
  return result.map fun id => ⟨page.name, id, tree.length⟩

/-- The line that reports a page that was refused. -/
def refusalLine (page : Project.SourceFile) (failure : Failure) : String :=
  s!"Failed to create page {page.name.text}: {failure.message}"

/-- How far publishing came: the pages stored, the lines about those refused, and the failure that ended
the work early, if one did. -/
structure Progress where
  published : List Published
  refused : List String
  failure : Option Failure

/-- The pages of a project published in order; without `collect` a refusal ends the work. -/
def publish {σ : Type} (store : DocumentStore σ) (settings : Table Value) (status : String)
    (collect : Bool) : List Project.SourceFile → σ × Nat → Progress × (σ × Nat)
  | [], state => (⟨[], [], none⟩, state)
  | page :: rest, state =>
    match (publishPage store settings status page).run state with
    | (.error failure, state) => (⟨[], [], some failure⟩, state)
    | (.ok (.ok published), state) =>
      let (progress, state) := publish store settings status collect rest state
      ({ progress with published := published :: progress.published }, state)
    | (.ok (.error failure), state) =>
      if collect && failure.isReported then
        let (progress, state) := publish store settings status collect rest state
        ({ progress with refused := refusalLine page failure :: progress.refused }, state)
      else (⟨[], [], some failure⟩, state)

end Pagewright.Page
