import Pagewright.Text.Scan

/-!
Command lines. Options start with a hyphen; those with two hyphens take a value after an equals sign or in
the next word, those with one letter may stand together and take what follows them as their value. Two
hyphens alone end the options. All other words are arguments.
-/

namespace Pagewright.Command

/-- What is wrong with a command line. -/
inductive Misuse where
  | unknownOption (spelling : String)
  | missingValue (spelling : String)
  | unexpectedValue (spelling : String)
  | missingOption (spelling : String)
  | missingArgument (name : String)
  | extraArgument (word : String)
  | notFile (word : String)
  | unknownCommand (word : String)
  | missingCommand
deriving Repr, DecidableEq

def Misuse.message : Misuse → String
  | .unknownOption spelling => s!"No such option: {spelling}"
  | .missingValue spelling => s!"Option '{spelling}' requires an argument."
  | .unexpectedValue spelling => s!"Option '{spelling}' does not take a value."
  | .missingOption spelling => s!"Missing option '{spelling}'."
  | .missingArgument name => s!"Missing argument '{name}'."
  | .extraArgument word => s!"Got unexpected extra argument ({word})"
  | .notFile word => s!"'{word}' is no file."
  | .unknownCommand word => s!"No such command '{word}'."
  | .missingCommand => "Missing command."

/-- What the value of an option or an argument is. -/
inductive ValueKind where
  /-- No value: an option that is given or not. -/
  | switch
  | text
  | path
  /-- The path of a file that is there. -/
  | file
deriving DecidableEq

/-- An argument of a command, which has to be given. -/
structure ArgumentSpec where
  name : String
  kind : ValueKind
  /-- What it is for. -/
  about : String

/-- An option: the name under which it is found, and its spellings. -/
structure OptionSpec where
  name : String
  spellings : List String
  kind : ValueKind
  /-- What it is for. -/
  about : String
  /-- Whether it has to be given. -/
  required : Bool := false

/-- An option that is given or not. -/
def OptionSpec.flag (name : String) (spellings : List String) (about : String) : OptionSpec :=
  { name, spellings, kind := .switch, about }

/-- An option with a text. -/
def OptionSpec.text (name : String) (spellings : List String) (about : String) : OptionSpec :=
  { name, spellings, kind := .text, about }

/-- An option with a path. -/
def OptionSpec.path (name : String) (spellings : List String) (about : String) : OptionSpec :=
  { name, spellings, kind := .path, about }

/-- Whether an option takes a value. -/
def OptionSpec.takesValue (option : OptionSpec) : Bool := option.kind != .switch

/-- The words of a command line in their roles. -/
structure Invocation where
  /-- The options given, in order, with their values; an option without value has the empty one. -/
  given : List (String × String)
  arguments : List String

namespace Invocation

/-- The words without options. -/
def ofArguments (arguments : List String) : Invocation := ⟨[], arguments⟩

/-- An invocation with options before all others. -/
def withGiven (options : List (String × String)) (i : Invocation) : Invocation :=
  { i with given := options ++ i.given }

/-- An invocation with an argument before all others. -/
def withArgument (word : String) (i : Invocation) : Invocation :=
  { i with arguments := word :: i.arguments }

/-- Whether an option is given. -/
def has (i : Invocation) (name : String) : Bool := i.given.any (·.1 == name)

/-- The values of an option in order. -/
def values (i : Invocation) (name : String) : List String :=
  (i.given.filter (·.1 == name)).map (·.2)

/-- The value of an option; the last one counts. -/
def value? (i : Invocation) (name : String) : Option String := (i.values name).getLast?

/-- The argument at a position. -/
def argument (i : Invocation) (position : Nat) : String := i.arguments.getD position ""

end Invocation

/-- The option with a spelling. -/
def optionSpelled? (options : List OptionSpec) (spelling : String) : Option OptionSpec :=
  options.find? (·.spellings.contains spelling)

/-- Options that are given, and the option whose value is the next word, if one waits for it. -/
abbrev Given := List (String × String) × Option String

/-- The options of one letter in a word. -/
def readLetters (options : List OptionSpec) : List Char → Except Misuse Given
  | [] => .ok ([], none)
  | c :: rest =>
    let spelling := String.ofList ['-', c]
    match optionSpelled? options spelling with
    | none => .error (.unknownOption spelling)
    | some option =>
      if !option.takesValue then do
        let (given, waiting) ← readLetters options rest
        return ((option.name, "") :: given, waiting)
      else if rest.isEmpty then .ok ([], some option.name)
      else .ok ([(option.name, String.ofList rest)], none)

/-- The options in a word that starts with a hyphen. -/
def readOption (options : List OptionSpec) (word : String) : Except Misuse Given :=
  let (spelling, value) := match Text.cut? ['='] word.toList with
    | some (spelling, value) => (String.ofList spelling, some (String.ofList value))
    | none => (word, none)
  let long := if spelling.length > 2 then optionSpelled? options spelling else none
  match long, value with
  | none, _ =>
    if word.startsWith "--" then .error (.unknownOption spelling)
    else readLetters options (word.toList.drop 1)
  | some option, none =>
    if option.takesValue then .ok ([], some option.name) else .ok ([(option.name, "")], none)
  | some option, some value =>
    if option.takesValue then .ok ([(option.name, value)], none)
    else .error (.unexpectedValue spelling)

/-- Whether a word is an option. -/
def isOption (word : String) : Bool := word.startsWith "-" && word != "-"

/-- The words of a command line in their roles, while an option waits for its value or none does. Where
options may not stand between arguments, the first argument ends them. -/
def readWords (options : List OptionSpec) (between : Bool) :
    Option String → List String → Except Misuse Invocation
  | some name, [] => .error (.missingValue name)
  | none, [] => .ok (.ofArguments [])
  | some name, word :: rest => do
    return (← readWords options between none rest).withGiven [(name, word)]
  | none, word :: rest =>
    if word == "--" then .ok (.ofArguments rest)
    else if isOption word then do
      let (given, waiting) ← readOption options word
      return (← readWords options between waiting rest).withGiven given
    else if between then do
      return (← readWords options between none rest).withArgument word
    else .ok (.ofArguments (word :: rest))

/-- The option that shows a help text in place of doing anything. -/
def helpOption : OptionSpec := .flag "help" ["--help"] "Show this message and exit."

/-- The words of a command line in their roles. -/
def readLine (options : List OptionSpec) (between : Bool) (words : List String) :
    Except Misuse Invocation :=
  readWords (helpOption :: options) between none words

end Pagewright.Command
