import Pagewright.Console.Output
import Pagewright.Settings.Access

/-!
Commands about settings: showing them with the files that they come from, changing the file of the user,
showing where files are, and starting a file in the working directory. Another one lists the collaborators of
the program that can be chosen by name.
-/

namespace Pagewright.Command

open Console

/-- The text that stands for an empty value. -/
def notSet : String := "[dim]not set[/dim]"

/-- The text of a value of its own. -/
def topText (v : Value) : String := if v.text.isEmpty then notSet else v.text

/-- The text of a value in a section. -/
def sectionText (v : Value) : String := if v.isNull || v.isText "" then notSet else v.text

/-- The table of the values in a section. -/
def printSection (entry : String × Value) : Work Unit := do
  match entry.2 with
  | .object fields =>
    printTable (String.ofList (Text.capitalize entry.1.toList)) ["Setting", "Value"]
      (fields.map fun field => [field.1, sectionText field.2])
  | _ => return ()

/-- The line about a settings file. -/
def fileText (file : Option Path) : String := (file.map Path.text).getD "[dim]not found[/dim]"

/-- The settings shown. -/
def showSettings (asJson : Bool) : Work Unit := do
  if asJson then printJson (← Settings.overview)
  else
    let now ← Settings.refresh
    printPanel "Config Sources"
      ("Global:  " ++ fileText now.userFile ++ "\nProject: " ++ fileText now.projectFile)
    let top := now.data.filter (!·.2.isObject)
    if !top.isEmpty then
      printTable "General" ["Setting", "Value"] (top.map fun entry => [entry.1, topText entry.2])
    now.data.forM printSection

/-- A setting put into the file of the user. -/
def changeSetting (key text : String) : Work Unit := do
  let v := Settings.parseValue text
  Settings.setUser key v
  say s!"[green]Set[/green] {key} = {v.text}"

/-- The places of settings and data shown. -/
def showLocations : Work Unit := do
  (← Settings.locations).forM fun entry => say s!"[cyan]{entry.1}:[/cyan] {entry.2}"

/-- The failure to start a settings file where there is one. -/
def asConfigFailure : Failure → Failure
  | .fault (.alreadyExists message) => .config message []
  | .fault (.file .exists path) => .config (Fault.file .exists path).message []
  | failure => failure

/-- A settings file started in the working directory. -/
def startSettings : Work Unit := do
  match ← Work.outcome Settings.initProject with
  | .ok file => say s!"[green]Created[/green] {file.text}"
  | .error failure => throw (asConfigFailure failure)

/-- The kinds of collaborators that can be chosen. -/
inductive PluginGroup where
  | documentStore
  | fieldProvider
  | pluginRegistry
deriving DecidableEq

def PluginGroup.label : PluginGroup → String
  | .documentStore => "Document store"
  | .fieldProvider => "Field provider"
  | .pluginRegistry => "Plugin registry"

/-- A collaborator that can be chosen. -/
structure Plugin where
  name : String
  group : PluginGroup
  /-- Where it comes from. -/
  module : String

/-- The collaborators there are, by group and then by name. -/
def plugins : List Plugin :=
  [⟨"json", .documentStore, "l2wp.host.document_store:JsonDocumentStore"⟩,
    ⟨"meta", .fieldProvider, "l2wp.providers.meta_provider:MetaFieldProvider"⟩,
    ⟨"null", .fieldProvider, "l2wp.providers.null_provider:NullFieldProvider"⟩,
    ⟨"file", .pluginRegistry, "l2wp.host.plugin_registry:FilePluginRegistry"⟩]

def pluginRow (plain : Bool) (plugin : Plugin) : List String :=
  [plugin.name, plugin.group.label, plugin.module, icon plain "complete"]

/-- The collaborators of a group, or all of them, shown. -/
def listPlugins (group : Option PluginGroup) : Work Unit := do
  let shown := plugins.filter fun plugin => group.all (· == plugin.group)
  printGrid ⟨"l2wp Plugins", [⟨"Name", .left⟩, ⟨"Type", .left⟩, ⟨"Module", .left⟩, ⟨"Status", .center⟩],
    shown.map (pluginRow (← get).plain)⟩
  say s!"\n[dim]{shown.length} plugin(s) discovered[/dim]"

end Pagewright.Command
