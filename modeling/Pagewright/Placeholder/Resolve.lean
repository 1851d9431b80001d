import Pagewright.Document.Node
import Pagewright.Failure
import Pagewright.Fields.Provider
import Pagewright.Files.Tree
import Pagewright.Placeholder.Token

/-!
Resolving placeholders. A text is resolved in passes, one for each namespace in a fixed order; a pass
replaces the placeholders of its namespace and leaves all others. Attributes and terms come from the
context, custom fields from the source of their namespace. A placeholder without meaning stays. The contexts,
which are content items, are read from the posts table of a YAML file.
-/

namespace Pagewright.Placeholder

open Fields (FieldSource)

/-- The attributes of a content item that placeholders can name. -/
def attributeNames : List String :=
  ["title", "content", "excerpt", "date", "author", "permalink", "thumbnail"]

/-- A content item. -/
structure Context where
  id : String
  /-- The attributes under their names. -/
  attributes : Table String
  /-- The names of the terms of every taxonomy. -/
  terms : Table (List String)

/-- The items of a value that may be absent, as texts. -/
def textItems (v : Value) : Except Fault (List String) := do
  return (← (v.orElse (.list [])).items).map Value.text

/-- The context that a table entry describes. -/
def Context.read (id : String) (data : Value) : Except Fault Context := do
  let fields ← data.fieldsFor "get"
  let named (name : String) : String × String :=
    (name, (((fields.get? name).getD .null).orElse (.str "")).text)
  let terms ← (((fields.get? "terms").getD .null).orElse (.object [])).fieldsFor "items"
  let taxonomies ← terms.mapM fun (taxonomy, names) => do return (taxonomy, ← textItems names)
  return ⟨id, attributeNames.map named, Table.ofPairs taxonomies⟩

/-- The contexts of a file: the value of each under its id. -/
def loadPosts (files : FileTree) (path : Path) : Except Failure (Table Value) := do
  if !(← files.isFile path) then return []
  let data ← (← files.read path).yaml.mapError fun
    | .notYaml message => .malformedInput .grammar path.text (.decoder message)
    | fault => .fault fault
  let posts ← (data.orElse (.object [])).findD "posts" .null
  let fields ← (posts.orElse (.object [])).fieldsFor "items"
  return fields.mapValues fun v => v.orElse (.object [])

/-- The context with an id in a file, if it is there. -/
def loadContext (files : FileTree) (path : Path) (id : String) : Except Failure (Option Context) := do
  match (← loadPosts files path).get? id with
  | none => return none
  | some data => return some (← Context.read id data)

/-- The namespaces in the order of their passes. -/
def namespaceOrder : List String := ["post", "acf", "jet", "mb", "taxonomy"]

mutual

/-- A field value as text: items between commas, objects as JSON without blanks. -/
def formatValue : Value → String
  | .null => ""
  | .list items => ", ".intercalate (formatItems items)
  | .object fields => Json.print .compact (.object fields)
  | .bool b => if b then "1" else ""
  | v => v.text

def formatItems : List Value → List String
  | [] => []
  | v :: rest => formatValue v :: formatItems rest

end

/-- The value of a field from its source. A failure that the source does not report in words of its
own is reported as that of the source. -/
def fieldValue (source : FieldSource) (token : Token) (context : Context) : Except Failure Value :=
  match source.value token.field context.id with
  | .ok v => .ok v
  | .error (.fault reason) => .error (.collaborator
      s!"Field provider '{source.name}' failed for {token.namespaceName}.{token.field}"
      source.name (some reason) [])
  | .error failure => .error failure

/-- What a placeholder stands for; nothing where it stays. -/
def lookup (sources : Table FieldSource) (context : Context) (token : Token) :
    Except Failure (Option String) :=
  if token.namespaceName == "post" then .ok (context.attributes.get? token.field)
  else if token.namespaceName == "taxonomy" then
    .ok (some (", ".intercalate ((context.terms.get? token.field).getD [])))
  else match sources.get? token.namespaceName with
    | none => .ok none
    | some source => do return some (formatValue (← fieldValue source token context))

section Passes

/-! Passes ask a look-up what a placeholder stands for, in any monad that the look-up works in. -/

variable {m : Type → Type} [Monad m]

/-- A piece of a text in the pass of a namespace. -/
def expand (look : Token → m (Option String)) (space : String) : Piece → m (List Char)
  | .char c => pure [c]
  | .token token =>
    if token.namespaceName == space then do
      match ← look token with
      | some replacement => return replacement.toList
      | none => return token.text
    else pure token.text

/-- A text after the pass of a namespace. -/
def resolveNamespace (look : Token → m (Option String)) (text : List Char) (space : String) :
    m (List Char) := do
  return (← (pieces text).mapM (expand look space)).flatten

/-- A text after all passes. -/
def resolveIn (look : Token → m (Option String)) (text : List Char) : m (List Char) :=
  namespaceOrder.foldlM (resolveNamespace look) text

/-- A text with its placeholders resolved for a content item. A text without opening braces needs no
context, and without context a text stays as it is. -/
def resolveWith (look : Context → Token → m (Option String))
    (contexts : String → m (Option Context)) (text id : String) : m String := do
  if !Text.occursIn "\x7b\x7b" text then return text
  match ← contexts id with
  | none => return text
  | some context => return String.ofList (← resolveIn (look context) text.toList)

end Passes

/-- The contexts known by their ids. -/
abbrev Contexts := String → Except Failure (Option Context)

/-- A text with its placeholders resolved from sources and contexts. -/
def resolve (sources : Table FieldSource) (contexts : Contexts) (text id : String) :
    Except Failure String :=
  resolveWith (lookup sources) contexts text id

mutual

/-- A value with the placeholders of all its texts resolved; keys stay. -/
def resolveValue (sources : Table FieldSource) (contexts : Contexts) (id : String) :
    Value → Except Failure Value
  | .str s => do return .str (← resolve sources contexts s id)
  | .list items => do return .list (← resolveItems sources contexts id items)
  | .object fields => do return .object (← resolveFields sources contexts id fields)
  | v => .ok v

def resolveItems (sources : Table FieldSource) (contexts : Contexts) (id : String) :
    List Value → Except Failure (List Value)
  | [] => .ok []
  | v :: rest => do
    let first ← resolveValue sources contexts id v
    return first :: (← resolveItems sources contexts id rest)

def resolveFields (sources : Table FieldSource) (contexts : Contexts) (id : String) :
    List (String × Value) → Except Failure (List (String × Value))
  | [] => .ok []
  | (key, v) :: rest => do
    let first ← resolveValue sources contexts id v
    return (key, first) :: (← resolveFields sources contexts id rest)

end

mutual

/-- A tree with the placeholders in the settings of its widgets resolved. -/
def resolveNode (sources : Table FieldSource) (contexts : Contexts) (id : String) :
    Document.Node → Except Failure Document.Node
  | ⟨kind, settings, elements, widgetType, nodeId⟩ => do
    let settings ← if kind.isWidget then resolveFields sources contexts id settings else .ok settings
    return ⟨kind, settings, ← resolveNodes sources contexts id elements, widgetType, nodeId⟩

def resolveNodes (sources : Table FieldSource) (contexts : Contexts) (id : String) :
    List Document.Node → Except Failure (List Document.Node)
  | [] => .ok []
  | node :: rest => do
    let first ← resolveNode sources contexts id node
    return first :: (← resolveNodes sources contexts id rest)

end

/-- Stored trees with the placeholders of their widgets resolved, tree by tree. -/
def resolveTrees (sources : Table FieldSource) (contexts : Contexts) (id : String)
    (content : List Value) : Document.Build (List Value) :=
  content.mapM fun data => do
    let root ← Document.Node.read data
    let resolved ← (resolveNode sources contexts id root : Except Failure Document.Node)
    return resolved.toValue

end Pagewright.Placeholder
