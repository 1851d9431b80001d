import Pagewright.Command.Catalog

/-!
Help texts: how a command is called, what it does, and its arguments, options and the commands below it,
each in a section of rows.
-/

namespace Pagewright.Command

/-- The word that stands for a value. -/
def ValueKind.word : ValueKind → String
  | .switch => "<bool>"
  | .text => "<str>"
  | .path => "<path>"
  | .file => "<file>"

/-- A section of a help text: a title and the words of each row. A section without rows is left out. -/
structure HelpSection where
  title : String
  rows : List (List String)

/-- The words of a row about something that has to be given or not. -/
def helpRow (required : Bool) (names : List String) (kind : ValueKind) (about : String) :
    List String :=
  (if required then ["*"] else []) ++ names ++ [kind.word, about]
    ++ if required then ["[required]"] else []

def argumentSection (arguments : List ArgumentSpec) : HelpSection :=
  ⟨"Arguments", arguments.map fun argument =>
    helpRow true [argument.name] argument.kind argument.about⟩

def optionSection (options : List OptionSpec) : HelpSection :=
  ⟨"Options", (options ++ [helpOption]).map fun option =>
    helpRow option.required option.spellings option.kind option.about⟩

/-- The lines of a section. -/
def HelpSection.lines (s : HelpSection) : List String :=
  if s.rows.isEmpty then []
  else "" :: s.title :: s.rows.map fun row => "  " ++ "  ".intercalate row

/-- The words of a call after the name of the program and the command. -/
def groupUsage : List String := ["[OPTIONS]", "COMMAND", "[ARGS]..."]

/-- The words of a call of a command after its name. -/
def CommandSpec.usage (spec : CommandSpec) : List String :=
  if spec.between then
    "[OPTIONS]" :: spec.arguments.map fun argument => "\x7b" ++ argument.name ++ "\x7d"
  else groupUsage

/-- A help text printed. -/
def printHelp (callWords : List String) (about : String) (sections : List HelpSection) :
    Work Unit := do
  Console.writeLine (" ".intercalate ("Usage:" :: "l2wp" :: callWords))
  Console.writeLine ""
  Console.writeLine about
  (sections.flatMap HelpSection.lines).forM Console.writeLine

/-- The help text of a command below some groups. -/
def CommandSpec.help (spec : CommandSpec) (above : List String) : Work Unit :=
  printHelp (above ++ spec.name :: spec.usage) spec.about
    [argumentSection spec.arguments, optionSection spec.options]

/-- The help text of a group of commands. -/
def groupHelp (name about : String) (specs : List CommandSpec) : Work Unit :=
  printHelp (name :: groupUsage) about
    [optionSection [], ⟨"Commands", specs.map fun spec => [spec.name, spec.about]⟩]

/-- The options before the command that set up the completion of words in a shell. -/
def completionOptions : List OptionSpec :=
  [.flag "install-completion" ["--install-completion"]
      "Install completion for the current shell.",
    .flag "show-completion" ["--show-completion"]
      "Show completion for the current shell, to copy it or customize the installation."]

/-- The commands of a topic. -/
def topicSection (topic : Topic) : HelpSection :=
  ⟨topic.title, (subjects.filter (·.topic == topic)).map fun subject =>
    [subject.name, subject.about]⟩

/-- The help text of the program. -/
def mainHelp : Work Unit :=
  printHelp groupUsage "Lovable to WordPress page-builder conversion CLI."
    (optionSection (mainOptions ++ completionOptions) :: topics.map topicSection)

end Pagewright.Command
