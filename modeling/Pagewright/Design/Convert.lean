import Pagewright.Document.Node
import Pagewright.Json.Printer
import Pagewright.Json.Reader
import Pagewright.Page.Publish
import Pagewright.Text.Case

/-!
Designs as document trees. A design describes either a project, whose pages have sections with a
heading, a text, elements, cards and buttons, or a layout of sections, columns and typed widgets. Each
section of either becomes one section of the document; placeholders are copied as they are. A design is
published by decoding its text, converting it and storing it as one template.
-/

namespace Pagewright.Design

open Document (Build Node makeSection makeColumn makeWidget fieldD)

/-- The version of the exported document format. -/
def documentVersion : String := "0.4"

def defaultTitle : String := "Lovable Design"

def defaultProjectTitle : String := "Lovable Project"

/-- A translated design. Title and type are taken over as they are given. -/
structure DesignDocument where
  title : Value
  type : Value
  content : List Node

/-- A translated design in its exported form. -/
def DesignDocument.toValue (document : DesignDocument) : Value :=
  .object [("version", .str documentVersion), ("title", document.title), ("type", document.type),
    ("content", .list (Document.toValues document.content))]

/-- A translated design as a template file. -/
def DesignDocument.exportText (document : DesignDocument) : String :=
  Json.print (.indented 4) document.toValue

/-- Settings of an image widget. -/
def imageSettings (fields : Table Value) : Table Value :=
  let source := fieldD fields "src" .null
  (if source.isTruthy then [("image", Value.object [("url", source)])] else []) ++
    [("image_size", fieldD fields "size" (.str "full")),
      ("align", fieldD fields "align" (.str "center")),
      ("caption", fieldD fields "caption" (.str ""))]

/-- Settings of a widget by its type; a type of its own that holds content shows it as text. -/
def widgetSettings (fields : Table Value) : Table Value :=
  let kind := fieldD fields "type" .null
  let content := fieldD fields "content" (.str "")
  if kind.isText "heading" then
    [("title", content), ("header_size", fieldD fields "tag" (.str "h2")),
      ("align", fieldD fields "align" (.str "left"))]
  else if kind.isText "text" || kind.isText "paragraph" then [("editor", content)]
  else if kind.isText "image" then imageSettings fields
  else if kind.isText "button" then
    [("text", fieldD fields "text" (.str "Click Here")),
      ("link", .object [("url", fieldD fields "url" (.str "#"))]),
      ("size", fieldD fields "size" (.str "md")), ("align", fieldD fields "align" (.str "left"))]
  else if kind.isText "icon" then
    [("icon", .object [("value", fieldD fields "icon" (.str "fas fa-star"))]),
      ("view", fieldD fields "view" (.str "default"))]
  else if kind.isText "video" then
    [("youtube_url", fieldD fields "url" (.str "")),
      ("video_type", fieldD fields "video_type" (.str "youtube"))]
  else if kind.isText "html" then [("html", content)]
  else if kind.isText "shortcode" then [("shortcode", content)]
  else if kind.isText "divider" || kind.isText "spacer" then []
  else match fields.get? "content" with
    | some given => [("editor", given)]
    | none => []

/-- A widget of a layout. -/
def convertWidget (fields : Table Value) : Build Node := do
  let widgetType ← Document.widgetTypeOf (fieldD fields "type" .null)
  makeWidget (.str widgetType) (fieldD fields "classes" (.str "")) (fieldD fields "animation" .null)
    (widgetSettings fields)

/-- An element of a project section: a text, or a widget with a type; all else is left out. -/
def convertElement? (element : Value) : Build (Option Node) :=
  match element with
  | .str s => some <$> makeWidget (.str "text-editor") (.str "") .null [("editor", .str s)]
  | .object fields =>
    if (fieldD fields "type" .null).isTruthy then some <$> convertWidget fields else pure none
  | _ => pure none

/-- A card of a project section. -/
def convertCard (fields : Table Value) : Build Node :=
  let icon := Text.lowerString ((fieldD fields "icono" .null).orElse (.str "")).text
  makeWidget (.str "icon-box") (.str "lovable-card") (.str "fadeInUp")
    [("title_text", fieldD fields "titulo" (.str "")),
      ("description_text", fieldD fields "descripcion" (.str "")),
      ("icon", .object [("value", .str ("fas fa-" ++ icon))])]

/-- A button of a project section. -/
def convertButton (label : Value) : Build Node :=
  makeWidget (.str "button") (.str "") (.str "scaleUp")
    [("text", .str label.text), ("link", .object [("url", .str "#")])]

/-- The items of an optional field that lists something. -/
def itemsOf (fields : Table Value) (key : String) : Build (List Value) :=
  ((fieldD fields key .null).orElse (.list [])).items

/-- A section of a project: heading, text, elements, cards and buttons in this order. -/
def convertProjectSection (fields : Table Value) : Build Node := do
  let sect ← makeSection (.str "") .null []
  let column ← makeColumn (.str "") .null (.int 100) []
  let heading ← makeWidget (.str "heading") (.str "") (.str "fadeInUp")
    [("title", (fieldD fields "nombre" .null).orElse (.str "Section")), ("header_size", .str "h2")]
  let content := fieldD fields "contenido" .null
  let texts ← if content.isTruthy then
      List.singleton <$> makeWidget (.str "text-editor") (.str "") .null [("editor", content)]
    else pure []
  let elements ← (← itemsOf fields "elementos").filterMapM convertElement?
  let cards ← ((← itemsOf fields "cards").filterMap Value.fields?).mapM convertCard
  let buttons ← (← itemsOf fields "botones").mapM convertButton
  let widgets := [heading] ++ texts ++ elements ++ cards ++ buttons
  let column ← widgets.foldlM (fun column widget => column.add widget) column
  sect.add column

/-- The sections of a page of a project. -/
def pageSections (page : Value) : Build (List Value) := do
  let fields ← (page.orElse (.object [])).fieldsFor "get"
  itemsOf fields "secciones"

/-- A project description. -/
def convertProject (fields : Table Value) : Build DesignDocument := do
  let title := (fieldD fields "nombre" .null).orElse (.str defaultProjectTitle)
  let plan ← ((fieldD fields "estructura_paginas" .null).orElse (.object [])).fieldsFor "get"
  let pages ← itemsOf plan "paginas"
  let content ← pages.mapM fun page => do
    let sections ← pageSections page
    (sections.filterMap Value.fields?).mapM convertProjectSection
  return ⟨title, .str "page", content.flatten⟩

/-- A column of a layout. -/
def convertColumn (fields : Table Value) : Build Node := do
  let width := fieldD fields "width" .null
  let column ← makeColumn (fieldD fields "classes" (.str "")) (fieldD fields "animation" .null)
    (if width.isNull then .int 100 else width) []
  let settings := if width.isNull then column.settings else column.settings.put "_inline_size" width
  let specs := (← itemsOf fields "widgets").filterMap Value.fields?
  let widgets ← specs.mapM convertWidget
  widgets.foldlM (fun column widget => column.add widget) { column with settings }

/-- A section of a layout. -/
def convertSection (fields : Table Value) : Build Node := do
  let sect ← makeSection (fieldD fields "classes" (.str "")) (fieldD fields "animation" .null)
    [("layout", fieldD fields "layout" (.str "boxed")),
      ("content_width", fieldD fields "content_width" (.str "boxed")),
      ("gap", fieldD fields "gap" (.str "default")),
      ("height", fieldD fields "height" (.str "default"))]
  let background := fieldD fields "background" .null
  let changes ← if background.isObject then (Document.convertBackground background : Except Fault _)
    else pure []
  let sect := { sect with settings := Table.update sect.settings changes }
  let specs := (← itemsOf fields "columns").filterMap Value.fields?
  let columns ← specs.mapM convertColumn
  columns.foldlM (fun sect column => sect.add column) sect

/-- A layout description. -/
def convertLayout (fields : Table Value) : Build DesignDocument := do
  let title := (fieldD fields "title" .null).orElse (.str defaultTitle)
  let type := (fieldD fields "type" .null).orElse (.str "page")
  let specs := (← itemsOf fields "sections").filterMap Value.fields?
  return ⟨title, type, ← specs.mapM convertSection⟩

/-- The document of a decoded design. -/
def convert (design : Value) : Build DesignDocument := do
  let fields ← design.fieldsFor "get"
  let document ← match fieldD fields "proyecto" .null with
    | .object project => convertProject project
    | _ => convertLayout fields
  Document.validate document.content
  return document

/-- The refusal of a text that decodes to no design. -/
def noDesign (source : String) : Failure :=
  .malformedInput .grammar source (.stated "Invalid design data structure")

/-- The design that a text holds: an object with at least one field. -/
def parse (text source : String) : Except Failure Value :=
  match Json.read (String.ofList (Text.trim text.toList)) false with
  | .error fault => .error (.undecodable (.notJson fault) source)
  | .ok v => if v.isObject && v.isTruthy then .ok v else .error (noDesign source)

/-- The title under which a design is stored. -/
def title (fields : Table Value) : Value :=
  let outer := (fieldD fields "title" .null).orElse (.str defaultTitle)
  match fieldD fields "proyecto" .null with
  | .object project => (fieldD project "nombre" .null).orElse outer
  | _ => outer

end Pagewright.Design

namespace Pagewright.Design

open Page (Storing)

/-- The template of a design text, which is not stored. -/
def template (text source : String) : Document.Build DesignDocument := do
  let design ← (parse text source : Except Failure Value)
  let document ← convert design
  return { document with title := title (design.fields?.getD []) }

/-- The id of the stored template of a design text, and its document. -/
def publish {σ : Type} (store : Host.DocumentStore σ) (text source : String) :
    Storing σ (String × DesignDocument) := do
  let design ← (parse text source : Except Failure Value)
  let document ← Storing.ofBuild (convert design)
  let stored : Host.NewDocument :=
    ⟨title (design.fields?.getD []), Document.toValues document.content, document.type, [], "publish"⟩
  match ← Storing.ofStep (store.create stored) with
  | .ok id => return (id, document)
  | .error failure => throw failure

end Pagewright.Design
