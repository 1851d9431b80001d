import Pagewright.Failure
import Pagewright.Text.Scan

/-!
Document trees. A page document is a list of sections; a section holds columns and a column holds
widgets. `Node.add` refuses any other nesting, and `validate` checks a finished tree. Nodes read back
from stored documents may name other kinds; these hold no children.

An entrance animation of a node is a name or an object with a type, a delay, a duration and a replay
flag; it becomes data attributes that the front end reads. Attributes are written as markup with their
values escaped, so a value cannot end its quotes. Backgrounds and widget types of a design are named by
settings and widget names of the page builder.
-/

namespace Pagewright.Document

/-- The animation of an object that names no type. -/
def defaultAnimation : String := "fadeIn"

def durations : List String := ["fast", "normal", "slow"]

/-- The longest delay in milliseconds. -/
def maxDelay : Int := 3000

/-- A delay as a whole number from 0 to the longest one; a value that is no number gives none, a
number beyond all bounds is a fault. -/
def clampDelay (v : Value) : Except Fault (Option Int) :=
  match v.toInt with
  | .ok n => .ok (some (max 0 (min maxDelay n)))
  | .error (.overflow message) => .error (.overflow message)
  | .error _ => .ok none

/-- The delay attribute of an animation object: present when it is not zero. -/
def delayAttribute (fields : Table Value) : Except Fault (Table String) := do
  let given := (Table.get? fields "delay").getD .null
  let delay ← if given.isTruthy then clampDelay given else .ok none
  return match delay with
    | some n => if n == 0 then [] else [("data-lovable-delay", toString n)]
    | none => []

/-- The duration attribute: an unknown duration counts as the normal one. -/
def durationAttribute (fields : Table Value) : Table String :=
  let given := (Table.get? fields "duration").getD .null
  if !given.isTruthy then []
  else match durations.find? given.isText with
    | some known => [("data-lovable-duration", known)]
    | none => [("data-lovable-duration", "normal")]

/-- The replay attribute: only false, zero and the word for false turn it off. -/
def onceAttribute (fields : Table Value) : Table String :=
  match Table.get? fields "once" with
  | none => []
  | some given =>
    [("data-lovable-once", if given.isZero || given.isText "false" then "false" else "true")]

/-- The data attributes of an animation. -/
def animationAttributes (animation : Value) : Except Fault (Table String) :=
  if !animation.isTruthy then .ok []
  else match animation with
    | .str name => .ok [("data-lovable-anim", name)]
    | .object fields => do
      let name := (((Table.get? fields "type").getD .null).orElse (.str defaultAnimation)).text
      let delay ← delayAttribute fields
      return ("data-lovable-anim", name) :: delay ++ durationAttribute fields ++ onceAttribute fields
    | _ => .ok []

/-- One attribute as markup. -/
def renderAttribute (name value : String) : List Char :=
  name.toList ++ '=' :: '"' :: Text.escapeMarkup value.toList ++ ['"']

/-- Attributes as markup, separated by single blanks. -/
def renderAttributes (attributes : Table String) : String :=
  String.ofList (Text.join [' '] (attributes.map fun entry => renderAttribute entry.1 entry.2))

/-- The kind of a node. -/
inductive Kind where
  | sect
  | column
  | widget
  /-- A kind that the page builder does not know. -/
  | foreign (name : Value)

namespace Kind

def ofValue (v : Value) : Kind :=
  match v with
  | .str "section" => .sect
  | .str "column" => .column
  | .str "widget" => .widget
  | v => .foreign v

def toValue : Kind → Value
  | .sect => .str "section"
  | .column => .str "column"
  | .widget => .str "widget"
  | .foreign name => name

/-- The name of a kind in messages. -/
def name (kind : Kind) : String := kind.toValue.text

def isSection : Kind → Bool
  | .sect => true
  | _ => false

def isColumn : Kind → Bool
  | .column => true
  | _ => false

def isWidget : Kind → Bool
  | .widget => true
  | _ => false

/-- The style class of every node of a kind; unknown kinds have none. -/
def styleClass : Kind → String
  | .sect => "lovable-section"
  | .column => "lovable-column"
  | .widget => "lovable-widget"
  | .foreign _ => ""

end Kind

/-- A section, column or widget with everything below it. -/
structure Node where
  kind : Kind
  settings : Table Value
  elements : List Node
  widgetType : Value
  id : Value

/-- Drawing node ids and failing. The state is the number of ids drawn so far. -/
abbrev Build := ExceptT Failure (StateM Nat)

/-- What all node ids of a run start with. -/
def idStem : String := "000000"

/-- The id that is drawn as the `n`-th. -/
def nodeId (n : Nat) : String :=
  idStem ++ String.ofList (Decimal.padZeros 7 (Decimal.hexDigits n))

/-- A node id that was not drawn before. -/
def newId : Build String := do
  let drawn ← get
  set (drawn + 1)
  return nodeId (drawn + 1)

/-- The style class of animated nodes. -/
def animateClass : String := "lovable-animate"

/-- User classes with single blanks between them; anything but text counts only when it is absent. -/
def userClasses (classes : Value) : Except Fault String :=
  match classes.orElse (.str "") with
  | .str s => .ok (String.ofList (Text.join [' '] (Text.words s.toList)))
  | v => .error (v.lacks "split")

/-- The class list of a node: the class of its kind, then user classes, then the animation class. -/
def cssClasses (kind : Kind) (classes animation : Value) : Except Fault String := do
  let user ← userClasses classes
  let attributes ← animationAttributes animation
  let parts := [kind.styleClass] ++ (if user.isEmpty then [] else [user])
    ++ (if attributes.isEmpty then [] else [animateClass])
  return " ".intercalate parts

/-- Settings with an animation recorded, as given and as attributes. -/
def applyAnimation (settings : Table Value) (animation : Value) : Except Fault (Table Value) := do
  let attributes ← animationAttributes animation
  if attributes.isEmpty then return settings
  return (settings.put "_lovable_animation" animation).put "_lovable_attributes"
    (.object (attributes.mapValues .str))

/-- A section with classes, an animation and further settings. -/
def makeSection (classes animation : Value) (settings : Table Value) : Build Node := do
  let css ← cssClasses .sect classes animation
  let given := Table.update [("layout", .str "boxed")] settings
  let settings ← applyAnimation (given.put "css_classes" (.str css)) animation
  return ⟨.sect, settings, [], .null, .str (← newId)⟩

/-- A column of a size in percent. -/
def makeColumn (classes animation size : Value) (settings : Table Value) : Build Node := do
  let css ← cssClasses .column classes animation
  let given := Table.update [("_column_size", size)] settings
  let settings ← applyAnimation (given.put "css_classes" (.str css)) animation
  return ⟨.column, settings, [], .null, .str (← newId)⟩

/-- A widget; its own settings come after the classes and the animation and win over them. -/
def makeWidget (widgetType classes animation : Value) (settings : Table Value) : Build Node := do
  let css ← cssClasses .widget classes animation
  let base ← applyAnimation [("_css_classes", .str css)] animation
  return ⟨.widget, Table.update base settings, [], widgetType, .str (← newId)⟩

/-- Whether a node of one kind may stand in a node of another; the refusal says why not. -/
def checkNesting (parent child : Kind) : Except Fault Unit :=
  match parent, child with
  | .sect, .column => .ok ()
  | .column, .widget => .ok ()
  | .sect, child =>
    .error (.badTree s!"A section can only contain columns, not a {child.name}")
  | .column, child =>
    .error (.badTree s!"A column can only contain widgets, not a {child.name}")
  | .widget, _ => .error (.badTree "A widget cannot have children")
  | .foreign name, _ =>
    if name.isHashable then .error (.badTree s!"A {name.text} cannot have children")
    else .error name.unhashable

/-- A node with one more child at the end. -/
def Node.add (parent child : Node) : Except Fault Node := do
  checkNesting parent.kind child.kind
  return { parent with elements := parent.elements ++ [child] }

mutual

/-- A node and everything below it, parents before children. -/
def Node.walk : Node → List Node
  | ⟨kind, settings, elements, widgetType, id⟩ =>
    ⟨kind, settings, elements, widgetType, id⟩ :: walkAll elements

def walkAll : List Node → List Node
  | [] => []
  | node :: rest => node.walk ++ walkAll rest

end

mutual

/-- A node in its stored form. -/
def Node.toValue : Node → Value
  | ⟨kind, settings, elements, widgetType, id⟩ =>
    .object ([("id", id), ("elType", kind.toValue)]
      ++ (if kind.isWidget then [("widgetType", widgetType)] else [])
      ++ [("settings", .object settings), ("elements", .list (toValues elements))])

/-- A forest in its stored form. -/
def toValues : List Node → List Value
  | [] => []
  | node :: rest => node.toValue :: toValues rest

end

/-- The settings that a value makes; one that makes none breaks the rules of a tree. -/
def settingsOf (v : Value) : Except Fault (Table Value) :=
  match (v.orElse (.object [])).toFields with
  | .error (.badValue message) => .error (.badTree message)
  | fields => fields

/-- A node read from its stored form, with a fresh id where it has none; `fuel` bounds the depth. -/
def Node.readWithin : Nat → Value → Build Node
  | 0, _ => throw (Fault.tooDeep : Failure)
  | fuel + 1, data => do
    let kind := Kind.ofValue (← data.member "elType")
    let fields ← data.fieldsFor "get"
    let field (key : String) : Value := (fields.get? key).getD .null
    let settings ← settingsOf (field "settings")
    let id ← if (field "id").isTruthy then pure (field "id") else Value.str <$> newId
    let children ← ((field "elements").orElse (.list [])).items
    let node : Node := ⟨kind, settings, [], field "widgetType", id⟩
    children.foldlM (fun node child => do node.add (← Node.readWithin fuel child)) node

/-- A node read from its stored form. -/
def Node.read (data : Value) : Build Node := Node.readWithin data.depth data

/-- The first rule that a widget of a tree breaks. -/
def validateWidget (column widget : Node) : Except Fault Unit :=
  if !widget.kind.isWidget then
    .error (.badTree s!"Column {column.id.text} contains a {widget.kind.name}")
  else if !widget.elements.isEmpty then
    .error (.badTree s!"Widget {widget.id.text} has children")
  else .ok ()

def validateColumn (parent column : Node) : Except Fault Unit := do
  if !column.kind.isColumn then
    throw (.badTree s!"Section {parent.id.text} contains a {column.kind.name}")
  column.elements.forM (validateWidget column)

def validateSection (node : Node) : Except Fault Unit := do
  if !node.kind.isSection then
    throw (.badTree s!"Top-level node {node.id.text} is a {node.kind.name}, not a section")
  node.elements.forM (validateColumn node)

/-- Whether a forest is a well formed document; the refusal names the first node that breaks a rule. -/
def validate (sections : List Node) : Except Fault Unit := sections.forM validateSection

/-- The value of a field or a default for a missing one. -/
def fieldD (fields : Table Value) (key : String) (default : Value) : Value :=
  (fields.get? key).getD default

/-- Settings of a background of a given kind. -/
def backgroundOf (kind : Value) (fields : Table Value) : Table Value :=
  [("background_background", kind)] ++
  if kind.isText "color" then
    [("background_color", fieldD fields "color" (.str "#ffffff"))]
  else if kind.isText "gradient" then
    [("background_color", fieldD fields "color" (.str "#ffffff")),
      ("background_color_b", fieldD fields "color_b" (.str "#000000")),
      ("background_gradient_angle", fieldD fields "angle" (.int 180))]
  else if kind.isText "image" then
    let image := fieldD fields "image" .null
    (if image.isTruthy then [("background_image", Value.object [("url", image)])] else []) ++
      [("background_position", fieldD fields "position" (.str "center center")),
        ("background_size", fieldD fields "size" (.str "cover"))]
  else []

/-- The settings that a background description stands for; none without a type. -/
def convertBackground (background : Value) : Except Fault (Table Value) := do
  if !background.isTruthy then return []
  let fields ← background.fieldsFor "get"
  let kind := fieldD fields "type" .null
  return if kind.isTruthy then backgroundOf kind fields else []

/-- The builder's widget for each type of a design. -/
def widgetTypes : Table String := [
  ("heading", "heading"), ("text", "text-editor"), ("paragraph", "text-editor"), ("image", "image"),
  ("button", "button"), ("divider", "divider"), ("spacer", "spacer"), ("icon", "icon"),
  ("video", "video"), ("html", "html"), ("shortcode", "shortcode"), ("icon-box", "icon-box"),
  ("image-box", "image-box"), ("star-rating", "star-rating"), ("testimonial", "testimonial"),
  ("counter", "counter"), ("progress", "progress"), ("accordion", "accordion"), ("tabs", "tabs"),
  ("toggle", "toggle")]

/-- The builder's widget for a type; unknown types become text editors. -/
def widgetTypeOf (sourceType : Value) : Except Fault String :=
  match sourceType.orElse (.str "") with
  | .str name => .ok ((widgetTypes.get? name).getD "text-editor")
  | v => if v.isHashable then .ok "text-editor" else .error v.unhashable

end Pagewright.Document
