import Pagewright.Document.Node
import Pagewright.Fields.Provider
import Pagewright.Settings.Layers

/-!
The state that commands work on: the files, the environment and the clock, and what a run remembers
between its parts: the ids it has drawn, resolved settings, field providers, the output mode and the
text printed so far. A failure keeps the state as it was when the failure came up.
-/

namespace Pagewright

structure Workspace where
  files : FileTree
  environment : Table String
  /-- The directory for temporary files. -/
  temporary : Path
  /-- The time in seconds that the next reading of the clock shows. -/
  time : Float
  /-- The number of document node ids drawn so far. -/
  drawnIds : Nat
  /-- The number of temporary directories drawn so far. -/
  drawnDirectories : Nat
  /-- The settings, once they have been resolved. -/
  settings : Option Settings.Resolved
  /-- The field providers in use, by name. -/
  providers : Table Fields.Provider
  /-- Whether output is plain text. -/
  plain : Bool
  /-- Whether results are printed as JSON. -/
  json : Bool
  /-- The text printed so far. -/
  printed : String

/-- The state at the start of a run. -/
def Workspace.start (files : FileTree) (environment : Table String) (temporary : Path) (time : Float) :
    Workspace :=
  { files, environment, temporary, time, drawnIds := 0, drawnDirectories := 0, settings := none,
    providers := [], plain := false, json := false, printed := "" }

/-- Working on the state, and failing. -/
abbrev Work := ExceptT Failure (StateM Workspace)

namespace Work

variable {α : Type}

/-- A question to the files. -/
def ask (question : FileTree → Except Fault α) : Work α := do
  match question (← get).files with
  | .ok answer => return answer
  | .error fault => throw (.fault fault)

/-- A change of the files. -/
def change (operation : FileTree → Except Fault FileTree) : Work Unit := do
  let files ← ask operation
  modify fun w => { w with files }

/-- A result that does not depend on the state. -/
def ofExcept (r : Except Failure α) : Work α :=
  match r with
  | .ok v => return v
  | .error failure => throw failure

/-- Drawing node ids goes on from the ids drawn so far. -/
def build (b : Document.Build α) : Work α := do
  let w ← get
  let (result, drawnIds) := b.run w.drawnIds
  set { w with drawnIds }
  ofExcept result

/-- A reading of the clock, which moves on by a moment. -/
def readClock : Work Float := do
  let now := (← get).time
  modify fun w => { w with time := now + 0.001 }
  return now

/-- The outcome of a piece of work, with the state it left. -/
def outcome (work : Work α) : Work (Except Failure α) := do
  let w ← get
  let (result, after) := (ExceptT.run work).run w
  set after
  return result

end Work

end Pagewright
