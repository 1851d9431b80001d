import Pagewright.Command.Convert
import Pagewright.Command.Import
import Pagewright.Command.Line
import Pagewright.Command.Recommend
import Pagewright.Command.Settings
import Pagewright.Workspace

/-!
What a command line can ask for: the commands of the program with the words that each of them takes, and
groups of commands.
-/

namespace Pagewright.Command

/-- A command: the words it takes and what it does. -/
structure CommandSpec where
  name : String
  /-- What it does, in a sentence. -/
  about : String
  /-- The arguments, all of which have to be given. -/
  arguments : List ArgumentSpec := []
  options : List OptionSpec := []
  /-- Whether options may stand between arguments. They may not where commands could stand below. -/
  between : Bool := true
  run : Invocation → Work Unit

/-- What a command is about. -/
inductive Topic where
  | archive
  | components
  | conversion
  | advanced
deriving DecidableEq

def Topic.title : Topic → String
  | .archive => "Archive"
  | .components => "Components"
  | .conversion => "Conversion"
  | .advanced => "Advanced"

/-- The topics in the order in which they are shown. -/
def topics : List Topic := [.archive, .components, .conversion, .advanced]

/-- What the first word of a command line names. -/
inductive Subject where
  | command (topic : Topic) (spec : CommandSpec)
  | group (topic : Topic) (name about : String) (specs : List CommandSpec)

namespace Subject

def topic : Subject → Topic
  | .command topic _ => topic
  | .group topic _ _ _ => topic

def name : Subject → String
  | .command _ spec => spec.name
  | .group _ name _ _ => name

def about : Subject → String
  | .command _ spec => spec.about
  | .group _ _ about _ => about

end Subject

/-- An option to print the result as JSON. -/
def jsonOption : OptionSpec := .flag "json" ["--json"] "Output as JSON"

/-- A command whose result is printed as JSON if that is asked for. -/
def inMode (work : Invocation → Work Unit) (i : Invocation) : Work Unit := do
  modify fun w => { w with json := i.has "json" }
  work i

/-- The first argument as a path. -/
def Invocation.path (i : Invocation) : Path := Path.ofText (i.argument 0)

/-- The value of an option as a path. -/
def Invocation.path? (i : Invocation) (name : String) : Option Path := (i.value? name).map Path.ofText

/-- Which parts of an import the words ask for. -/
def importOptions (i : Invocation) : Import.Options :=
  ⟨!i.has "no-plugins", !i.has "no-assets", !i.has "no-css", i.has "remember"⟩

/-- The environment variables that name the user, the first of which counts. -/
def userVariables : List String := ["LOGNAME", "USER", "LNAME", "USERNAME"]

/-- The user for whom imports are done if nobody is named. -/
def defaultUser (environment : Table String) : String :=
  ((userVariables.filterMap environment.get?).find? (!·.isEmpty)).getD "default"

def zipArgument : ArgumentSpec := ⟨"archive", .path, "Lovable project ZIP"⟩

def projectArgument : ArgumentSpec :=
  ⟨"archive", .path, "Lovable project ZIP or unpacked project directory"⟩

/-- A command on an archive with the option to print JSON. -/
def archiveSpec (name about : String) (argument : ArgumentSpec) (options : List OptionSpec)
    (work : Invocation → Work Unit) : CommandSpec :=
  { name, about, arguments := [argument], options := options ++ [jsonOption], run := inMode work }

def validateSpec : CommandSpec :=
  archiveSpec "validate" "Validate an archive: size, type and required structure." zipArgument []
    fun i => validate i.path

def analyzeSpec : CommandSpec :=
  archiveSpec "analyze" "Analyze pages, components, dependencies and assets." projectArgument []
    fun i => analyze i.path

def stylesSpec : CommandSpec :=
  archiveSpec "styles" "Extract colors, fonts and custom CSS." projectArgument
    [.flag "palette" ["--palette", "-p"] "Show the color palette with hex values",
      .flag "stylesheet" ["--stylesheet"] "Print the generated stylesheet"]
    fun i => styles i.path (i.has "palette") (i.has "stylesheet")

def detectSpec : CommandSpec :=
  archiveSpec "detect" "Detect functionalities (forms, popups, sliders, ...)." projectArgument []
    fun i => detect i.path

def recommendSpec : CommandSpec :=
  { name := "recommend"
    about := "Rank substitute components for one functionality."
    arguments := [⟨"key", .text, "Functionality key (see 'l2wp signatures')"⟩]
    options := [jsonOption]
    run := inMode fun i => recommend (i.argument 0) }

def signaturesSpec : CommandSpec :=
  { name := "signatures"
    about := "List the known functionality signatures."
    options := [jsonOption]
    run := inMode fun _ => listSignatures }

def importSpec : CommandSpec :=
  archiveSpec "import" "Import a project: plugins, draft pages, assets and CSS." zipArgument
    [.text "choice" ["--choice", "-c"] "KEY=SLUG component choice (repeatable; SLUG may be 'skip')",
      .text "user" ["--user", "-u"] "User the analysis is cached for",
      .flag "no-plugins" ["--no-plugins"] "Do not install chosen plugins",
      .flag "no-assets" ["--no-assets"] "Do not import image assets",
      .flag "no-css" ["--no-css"] "Do not extract and apply the stylesheet",
      .flag "remember" ["--remember"] "Save the choices as preferences"]
    fun i => do
      let environment := (← get).environment
      let named := (i.value? "user").getD ""
      let user := if named.isEmpty then defaultUser environment else named
      importArchive i.path (i.values "choice") user (importOptions i)

def renderSpec : CommandSpec :=
  { name := "render"
    about := "Resolve \x7b\x7bnamespace.field\x7d\x7d placeholders for one content item."
    arguments := [⟨"file", .file, "Text file or stored document JSON"⟩]
    options := [{ OptionSpec.text "context" ["--context", "-C"] "Content item id to render for" with
        required := true },
      .path "contexts" ["--contexts"] "YAML file with posts and field values"]
    run := fun i => renderFile i.path ((i.value? "context").getD "") (i.path? "contexts") }

def convertSpecs : List CommandSpec :=
  [{ name := "page"
     about := "Translate one page component into sections, columns and widgets."
     arguments := [⟨"file", .file, "Page component source (.tsx/.jsx)"⟩]
     options := [.flag "save" ["--save", "-s"] "Store the result as a draft document",
       .text "title" ["--title", "-t"] "Document title (defaults to the file name)",
       .path "output" ["--output", "-o"] "Write the tree JSON to this file"]
     run := fun i => convertPage i.path (i.has "save") (i.value? "title") (i.path? "output") },
   { name := "design"
     about := "Export a design JSON description as a builder template."
     arguments := [⟨"file", .file, "Design JSON file"⟩]
     options := [.flag "dry-run" ["--dry-run", "-n"] "Print the template instead of storing it",
       .path "output" ["--output", "-o"] "With --dry-run, write the template here"]
     run := fun i => convertDesign i.path (i.has "dry-run") (i.path? "output") }]

def preferenceSpecs : List CommandSpec :=
  [{ name := "show"
     about := "Show the saved functionality -> solution choices."
     options := [jsonOption]
     run := fun i => showPreferences (i.has "json") },
   { name := "set"
     about := "Prefer a solution for one functionality."
     arguments := [⟨"key", .text, "Functionality key (e.g. forms)"⟩,
       ⟨"slug", .text, "Solution slug to prefer"⟩]
     run := fun i => setPreference (i.argument 0) (i.argument 1) },
   { name := "clear"
     about := "Forget all saved preferences."
     run := fun _ => clearPreferences }]

def settingsSpecs : List CommandSpec :=
  [{ name := "show"
     about := "Display the resolved configuration (all layers merged)."
     options := [jsonOption]
     run := fun i => showSettings (i.has "json") },
   { name := "set"
     about := "Set a global configuration value."
     arguments := [⟨"key", .text, "Config key in dotted notation (e.g. archive.max_size_mb)"⟩,
       ⟨"value", .text, "Value to set"⟩]
     run := fun i => changeSetting (i.argument 0) (i.argument 1) },
   { name := "paths"
     about := "Show config file locations and the data directory."
     run := fun _ => showLocations },
   { name := "init"
     about := "Create a .l2wp.toml project config in the current directory."
     run := fun _ => startSettings }]

/-- The group of collaborators that the words ask for; the first of several counts. -/
def pluginGroup? (i : Invocation) : Option PluginGroup :=
  if i.has "fields" then some .fieldProvider
  else if i.has "registries" then some .pluginRegistry
  else if i.has "stores" then some .documentStore
  else none

def pluginsSpec : CommandSpec :=
  { name := "plugins"
    about := "List discovered l2wp plugins"
    options := [.flag "fields" ["--fields"] "Show field provider plugins only",
      .flag "registries" ["--registries"] "Show plugin registry plugins only",
      .flag "stores" ["--stores"] "Show document store plugins only"]
    between := false
    run := fun i => listPlugins (pluginGroup? i) }

/-- The commands and groups of commands. -/
def subjects : List Subject :=
  [.command .archive validateSpec,
   .command .archive analyzeSpec,
   .command .archive stylesSpec,
   .command .components detectSpec,
   .command .components recommendSpec,
   .command .components signaturesSpec,
   .command .conversion importSpec,
   .command .conversion renderSpec,
   .group .conversion "convert" "Translate sources into builder documents" convertSpecs,
   .group .components "prefs" "Manage saved solution preferences" preferenceSpecs,
   .group .advanced "config" "Manage configuration" settingsSpecs,
   .command .advanced pluginsSpec]

/-- The options before the command. -/
def mainOptions : List OptionSpec :=
  [.flag "verbose" ["--verbose", "-v"] "Show debug logging",
    .flag "quiet" ["--quiet", "-q"] "Only log errors",
    .flag "plain" ["--plain"] "Plain text output (no colors or panels)",
    .flag "version" ["--version"] "Show the version and exit"]

end Pagewright.Command
