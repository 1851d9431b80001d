import Pagewright.Command.Help
import Pagewright.Console.Report

/-!
Running the program: what the words of a command line do, and how a run ends. A command line that is misused
ends a run before anything is done.
-/

namespace Pagewright.Command

open Console (Ending reported)

/-- How a run ends. -/
inductive Exit where
  | code (n : Int)
  | misuse (m : Misuse)

def Exit.number : Exit → Int
  | .code n => n
  | .misuse _ => 2

/-- Whether a word names a file. -/
def namesFile (files : FileTree) (word : String) : Bool :=
  (files.isFile (Path.ofText word)).toOption.getD false

/-- The first word for an argument that has to name a file and does not. -/
def CommandSpec.missingFile? (spec : CommandSpec) (files : FileTree) (i : Invocation) :
    Option String :=
  ((spec.arguments.zip i.arguments).find? fun (argument, word) =>
    argument.kind == .file && !namesFile files word).map (·.2)

/-- What is wrong with the words for a command, if anything is. -/
def CommandSpec.misuse? (spec : CommandSpec) (files : FileTree) (i : Invocation) :
    Option Misuse :=
  match spec.options.find? fun option => option.required && !i.has option.name,
      spec.arguments.drop i.arguments.length, i.arguments.drop spec.arguments.length with
  | some option, _, _ => some (.missingOption option.name)
  | none, argument :: _, _ => some (.missingArgument argument.name)
  | none, [], word :: _ => some (.extraArgument word)
  | none, [], [] => (spec.missingFile? files i).map .notFile

/-- A command below some groups run on its words. -/
def CommandSpec.call (spec : CommandSpec) (above words : List String) : Work Exit := do
  match readLine spec.options spec.between words with
  | .error misuse => return .misuse misuse
  | .ok i =>
    if i.has "help" then
      spec.help above
      return .code 0
    match spec.misuse? (← get).files i with
    | some misuse => return .misuse misuse
    | none => match ← reported (spec.run i) with
      | .value _ => return .code 0
      | .exit code => return .code code
      | .leave code => return .code code

/-- The command of a group that words name, and the words for it. -/
def groupCommand (specs : List CommandSpec) (words : List String) :
    Except Misuse (Option (CommandSpec × List String)) := do
  let i ← readLine [] false words
  if i.has "help" then return none
  match i.arguments with
  | [] => throw .missingCommand
  | word :: rest => match specs.find? (·.name == word) with
    | some spec => return some (spec, rest)
    | none => throw (.unknownCommand word)

/-- A command or a group of commands run on words. -/
def Subject.call (subject : Subject) (words : List String) : Work Exit :=
  match subject with
  | .command _ spec => spec.call [] words
  | .group _ name about specs => match groupCommand specs words with
    | .error misuse => return .misuse misuse
    | .ok none => do
      groupHelp name about specs
      return .code 0
    | .ok (some (spec, rest)) => spec.call [name] rest

/-- The output mode of a run. -/
def setMode (plain : Bool) : Work Unit := do
  let plain ← if plain then pure true
    else do pure (← Settings.get "ui.plain_output" (.bool false)).isTruthy
  modify fun w => { w with plain }

/-- A command line whose main options have been read; `prepare` is done before any command. -/
def runLine (prepare : Work Unit) (i : Invocation) : Work Exit := do
  match i.given.find? fun option => option.1 == "help" || option.1 == "version" with
  | some ("version", _) =>
    Console.writeLine s!"l2wp {Host.libraryVersion}"
    return .code 0
  | some _ =>
    mainHelp
    return .code 0
  | none => match i.arguments with
    | [] => return .misuse .missingCommand
    | word :: rest => match subjects.find? (·.name == word) with
      | none => return .misuse (.unknownCommand word)
      | some subject =>
        prepare
        setMode (i.has "plain")
        subject.call rest

/-- The words of a command line run, with `prepare` done before any command. A failure that nothing reports
ends the run. -/
def run (words : List String) (prepare : Work Unit := pure ()) : Work Exit := do
  match readLine mainOptions false words with
  | .error misuse => return .misuse misuse
  | .ok i => match ← Work.outcome (runLine prepare i) with
    | .ok ending => return ending
    | .error _ => return .code 1

end Pagewright.Command
