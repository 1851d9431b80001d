import Pagewright.Console.Output

/-!
How a command ends. A failure that is reported in words of its own is printed with a hint, an
interruption is noted, an exit goes through, and every other fault is printed as unexpected.
-/

namespace Pagewright.Console

/-- How a command ends. -/
inductive Ending (α : Type) where
  | value (v : α)
  /-- The command ends with an exit code after a failure was printed. -/
  | exit (code : Nat)
  /-- The program was told to end. -/
  | leave (code : Int)

/-- Whether details are printed. -/
def isDebug (environment : Table String) : Bool :=
  let word := Text.lowerString ((environment.get? "L2WP_DEBUG").getD "")
  word == "1" || word == "true" || word == "yes"

/-- What to do about a failure. -/
def hint? (failure : Failure) : Option String :=
  match failure with
  | .archiveNotFound _ => some "Check the archive path and try again."
  | .validation _ _ missing _ =>
    if missing.isEmpty then none
    else some ("Export the project again from Lovable so the archive keeps its src/, public/ and "
      ++ "package.json entries.")
  | .malformedInput .. => some "Validate the file with a JSON linter before retrying."
  | .notFound kind .. =>
    if kind == "functionality" then some "Run 'l2wp signatures' to see known functionality keys."
    else none
  | .collaborator .. => some "Run 'l2wp config paths' to check the host data directory."
  | _ => none

/-- The lines about the details of a failure. -/
def contextLines (failure : Failure) : List String :=
  let present := failure.context.filter (·.2.isTruthy)
  if present.isEmpty then []
  else "[dim]Context:[/dim]" :: present.map fun entry => s!"  [dim]{entry.1}:[/dim] {entry.2.text}"

/-- The text that stands for the way to a failure. -/
def traceText : String := "\n[dim]Traceback (most recent call last)[/dim]"

/-- Printing a failure that is reported in words of its own. -/
def printFailure (failure : Failure) : Work Unit := do
  let debug := isDebug (← get).environment
  say s!"\n[bold red]Error:[/bold red] {failure.message}"
  if debug then (contextLines failure).forM say
  match hint? failure with
  | some text => say s!"[dim]{text}[/dim]"
  | none => pure ()
  if debug then say traceText

/-- Printing a fault that nobody expected. -/
def printFault (fault : Fault) : Work Unit := do
  let debug := isDebug (← get).environment
  say s!"\n[bold red]Unexpected error:[/bold red] {fault.message}"
  if debug then say traceText
  else say "[dim]Set L2WP_DEBUG=1 for full traceback.[/dim]"

/-- A command with its failures printed. -/
def reported {α : Type} (work : Work α) : Work (Ending α) := do
  match ← Work.outcome work with
  | .ok v => return .value v
  | .error (.fault .interrupted) =>
    say "\n[dim]Interrupted.[/dim]"
    return .exit 130
  | .error (.fault (.exit code)) => return .leave code
  | .error (.fault fault) =>
    printFault fault
    return .exit 1
  | .error failure =>
    printFailure failure
    return .exit failure.exitCode

end Pagewright.Console
