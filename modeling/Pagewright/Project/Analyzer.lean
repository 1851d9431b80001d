import Pagewright.Archive.Extract
import Pagewright.Project.Analyze
import Pagewright.Settings.Access
import Pagewright.Workspace

/-!
Analysis of project archives. An analyzer unpacks an archive into a directory of its own, which it keeps
until the next archive or the clean-up; a failed extraction keeps none. While there is such a directory,
one clean-up is registered for the end of the program. Work on the project in an archive or a directory
removes the directory of an archive at its end, whatever comes of the work.
-/

namespace Pagewright.Project

/-- An analyzer and the directory that it owns. -/
structure Analyzer where
  /-- Where directories are made; the directory for temporary files if nothing is given. -/
  temporaryRoot : Option Path
  /-- The directory of the archive unpacked last. -/
  extracted : Option Path
  /-- The root of the project analyzed last. -/
  root : Option Path
  /-- Whether the analyzer takes its clean-up to be registered for the end of the program. -/
  registered : Bool
  /-- The number of its clean-ups that are registered for the end of the program. -/
  hooks : Nat

/-- An analyzer that has unpacked nothing. -/
def Analyzer.new (temporaryRoot : Option Path) : Analyzer := ⟨temporaryRoot, none, none, false, 0⟩

/-- The analyzer with its clean-up registered, once more unless it is taken to be registered. -/
def Analyzer.register (a : Analyzer) : Analyzer :=
  if a.registered then a else { a with registered := true, hooks := a.hooks + 1 }

/-- The analyzer without a registered clean-up; all are dropped if there is taken to be one. -/
def Analyzer.unregister (a : Analyzer) : Analyzer :=
  if a.registered then { a with registered := false, hooks := 0 } else a

/-- The name of the `n`-th directory drawn in a run. -/
def directoryName (n : Nat) : String :=
  "l2wp-" ++ String.ofList (Decimal.padZeros 8 (Nat.toDigits 10 n))

/-- The number of names that are tried for a new directory. -/
def maxAttempts : Nat := 10000

/-- Files with a new directory below `base`, its path and the number of names drawn after that. -/
def drawDirectory (base : Path) : Nat → FileTree → Nat → Except Fault (FileTree × Path × Nat)
  | 0, _, _ => .error (.file .exists "No usable temporary directory name found")
  | attempts + 1, files, drawn =>
    let path := base.child (directoryName (drawn + 1))
    match files.makeDirectory path with
    | .ok files => .ok (files, path, drawn + 1)
    | .error (.file .exists _) => drawDirectory base attempts files (drawn + 1)
    | .error fault => .error fault

/-- The state without the directory of an analyzer, and the analyzer without it. -/
def Analyzer.cleanup (a : Analyzer) (w : Workspace) : Analyzer × Workspace :=
  let files := match a.extracted with
    | some directory => w.files.removeTree directory
    | none => w.files
  (Analyzer.unregister { a with extracted := none, root := none }, { w with files })

/-- The state with a new directory for an archive; the one before is removed. -/
def Analyzer.newDirectory (a : Analyzer) (w : Workspace) : Except Fault (Path × Analyzer × Workspace) := do
  let files ← match a.temporaryRoot with
    | some base => w.files.makeDirectories base
    | none => .ok w.files
  let base := a.temporaryRoot.getD w.temporary
  let (files, directory, drawnDirectories) ← drawDirectory base maxAttempts files w.drawnDirectories
  let (a, w) := a.cleanup { w with files, drawnDirectories }
  return (directory, Analyzer.register { a with extracted := some directory }, w)

/-- The state with an archive unpacked; an archive that cannot be unpacked leaves no directory. -/
def Analyzer.extract (a : Analyzer) (archive : Path) (w : Workspace) :
    Except Failure Path × Analyzer × Workspace :=
  match a.newDirectory w with
  | .error fault => (.error (.fault fault), a, w)
  | .ok (directory, a, w) =>
    let outcome : Except String FileTree := match w.files.read archive with
      | .error fault => .error fault.message
      | .ok content => Archive.extract w.files directory content.data
    match outcome with
    | .ok files => (.ok directory, a, { w with files })
    | .error reason =>
      let (a, w) := a.cleanup w
      (.error (.extraction s!"Could not extract {archive.name}: {reason}" archive.text), a, w)

/-- The root of the project in a directory: the directory itself or the only directory in it. -/
def locateRoot (files : FileTree) (directory : Path) : Except Failure Path := do
  if ← hasProjectFiles files directory then return directory
  let below := (← files.children directory).filter (·.2.isDirectory)
  let root := match below with
    | [(only, _)] => only
    | _ => directory
  if ← hasProjectFiles files root then return root
  throw (.validation "No project files found (expected package.json, src/ or index.html)"
    "invalid_structure" [] [])

/-- The project in a directory that the analyzer has to look at. -/
def Analyzer.analyzeIn (a : Analyzer) (root : Path) (w : Workspace) :
    Except Failure Project × Analyzer × Workspace :=
  (analyzeDirectory w.files root, { a with root := some root }, w)

/-- The project in an archive. -/
def Analyzer.analyze (a : Analyzer) (archive : Path) (w : Workspace) :
    Except Failure Project × Analyzer × Workspace :=
  match w.files.isFile archive with
  | .error fault => (.error (.fault fault), a, w)
  | .ok false => (.error (.archiveNotFound archive.text), a, w)
  | .ok true => match a.extract archive w with
    | (.error failure, a, w) => (.error failure, a, w)
    | (.ok directory, a, w) => match locateRoot w.files directory with
      | .error failure => (.error failure, a, w)
      | .ok root => a.analyzeIn root w

variable {α : Type}

/-- An analysis by an analyzer that has unpacked nothing yet. -/
abbrev Analysis := Analyzer → Workspace → Except Failure Project × Analyzer × Workspace

/-- Work with an analyzed project, and the clean-up after it. -/
def opened (analysis : Analysis) (use : Project → Work α) : Work α := do
  let analyzer := Analyzer.new (← Settings.temporaryDirectory?)
  let (project, analyzer, w) := analysis analyzer (← get)
  set w
  let result ← Work.outcome do use (← Work.ofExcept project)
  let (_, w) := analyzer.cleanup (← get)
  set w
  Work.ofExcept result

/-- Work with the project in an archive. -/
def withArchive (archive : Path) (use : Project → Work α) : Work α :=
  opened (·.analyze archive) use

/-- Work with the project in an archive or in a directory. -/
def withArchiveOrDirectory (path : Path) (use : Project → Work α) : Work α :=
  opened (fun analyzer w => match w.files.isDirectory path with
    | .error fault => (.error (.fault fault), analyzer, w)
    | .ok true => analyzer.analyzeIn path w
    | .ok false => analyzer.analyze path w) use

end Pagewright.Project
