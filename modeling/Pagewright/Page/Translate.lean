import Pagewright.Document.Node
import Pagewright.Page.Markup

/-!
Page sources as document trees. Every section of the markup becomes a section with one column; its
headings, then its paragraphs, then its buttons become widgets. Markup without any of them is kept as a
single widget of plain markup, and a page without sections is one section.
-/

namespace Pagewright.Page

open Document (Build Node makeSection makeColumn makeWidget)

/-- The classes and the content of each section; the whole page when there is none. -/
def splitSections (content : List Char) : List (List Char × List Char) :=
  match Text.finds section? content with
  | [] => [([], content)]
  | sections => sections

/-- A widget before it is made: its type, classes and settings. -/
structure WidgetPlan where
  widgetType : String
  classes : String
  settings : Table Value

def headingPlan (found : Char × List Char × List Char) : WidgetPlan :=
  ⟨"heading", String.ofList found.2.1,
    [("title", .str (String.ofList (stripTags found.2.2))),
      ("header_size", .str (String.ofList ['h', found.1]))]⟩

def paragraphPlan (found : List Char × List Char) : WidgetPlan :=
  ⟨"text-editor", String.ofList found.1, [("editor", .str (String.ofList (Text.trim found.2)))]⟩

def buttonPlan (content : List Char) : WidgetPlan :=
  ⟨"button", "lovable-button",
    [("text", .str (String.ofList (stripTags content))), ("link", .object [("url", .str "#")])]⟩

def markupPlan (markup : List Char) : WidgetPlan :=
  ⟨"html", "lovable-html", [("html", .str (String.ofList (cleanMarkup markup)))]⟩

/-- The widgets of a section's markup. -/
def planWidgets (markup : List Char) : List WidgetPlan :=
  let plans := (Text.finds heading? markup).map headingPlan
    ++ (Text.finds paragraph? markup).map paragraphPlan
    ++ (Text.finds button? markup).map buttonPlan
  if plans.isEmpty then [markupPlan markup] else plans

/-- The widget nodes of a section's markup. -/
def parseWidgets (markup : List Char) : Build (List Node) :=
  (planWidgets markup).mapM fun plan =>
    makeWidget (.str plan.widgetType) (.str plan.classes) .null plan.settings

/-- The section node of a section's classes and content. -/
def translateSection (classes inner : List Char) : Build Node := do
  let sect ← makeSection (.str (String.ofList classes)) .null []
  let column ← makeColumn (.str "") .null (.int 100) []
  let widgets ← parseWidgets inner
  let column ← widgets.foldlM (fun column widget => column.add widget) column
  sect.add column

/-- The document tree of a page source. -/
def translate (content : List Char) : Build (List Node) := do
  let tree ← (splitSections content).mapM fun (classes, inner) => translateSection classes inner
  Document.validate tree
  return tree

end Pagewright.Page
