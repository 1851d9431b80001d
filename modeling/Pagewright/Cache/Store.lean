import Pagewright.Detection.Detect
import Pagewright.Workspace

/-!
The cache of analyses: one JSON file for every user, named by the user id with all unusual characters
replaced, and beside it the images of the project. An entry is the project of an upload and what was detected
in it, with the user it belongs to and the time it was stored. Entries expire; an entry that is expired or
cannot be read is removed when it is asked for.
-/

namespace Pagewright.Cache

/-- A cached upload. -/
structure Entry where
  user : Value
  /-- The time in seconds at which the entry was stored. -/
  created : Value
  project : Project
  detections : Table Detection

namespace Entry

def toValue (entry : Entry) : Value :=
  .object [("user", entry.user), ("created_at", entry.created),
    ("project", entry.project.toValue true),
    ("detections", .object (entry.detections.mapValues Detection.toValue))]

/-- The entry that a decoded file holds; its time becomes a fraction. -/
def read (data : Value) : Except Failure Entry := do
  let user ← data.member "user"
  let created ← (← data.member "created_at").toFloat
  let project ← Project.read (← data.member "project")
  let table ← ((← data.findD "detections" .null).orElse (.object [])).fieldsFor "items"
  let detections ← table.mapM fun (key, v) => do return (key, ← Detection.read v)
  return ⟨user, .float created, project, detections⟩

end Entry

def isPlainChar (c : Char) : Bool :=
  ('A' ≤ c && c ≤ 'Z') || ('a' ≤ c && c ≤ 'z') || ('0' ≤ c && c ≤ '9') || c == '_' || c == '.' || c == '-'

/-- A user id as a part of file names. -/
def userKey (user : String) : String :=
  String.ofList (user.toList.map fun c => if isPlainChar c then c else '_')

/-- A cache in a directory. -/
structure Store where
  directory : Path
  /-- The number of seconds for which an entry counts. -/
  lifetime : Value
  clock : Work Value

namespace Store

/-- The clock of the workspace. -/
def workspaceClock : Work Value := do return .float (← Work.readClock)

/-- The cache below a data directory. -/
def below (data : Path) (lifetime : Value) : Store := ⟨data / "cache", lifetime, workspaceClock⟩

/-- The file of a user. -/
def fileOf (s : Store) (user : String) : Path := s.directory / (userKey user ++ ".json")

/-- The directory with the images of a user. -/
def imagesOf (s : Store) (user : String) : Path := s.directory / "assets" / userKey user

/-- The path that an image names. -/
def imagePath (image : Project.AssetFile) : Except Fault Path :=
  match image.path with
  | .str s => .ok (Path.ofText s)
  | v => .error (.wrongType s!"expected str, bytes or os.PathLike object, not {v.kindName}")

/-- The name of the copy of an image. -/
def copyName (position : Nat) (image : Project.AssetFile) : String :=
  String.ofList (Decimal.padZeros 4 (Nat.toDigits 10 position)) ++ "-" ++ image.name.text

/-- A copy of one image, and the image at its new path; an image without file stays. -/
def stageImage (target : Path) (position : Nat) (image : Project.AssetFile) :
    Work Project.AssetFile := do
  let source ← Work.ask fun _ => imagePath image
  if !(← Work.ask (·.isFile source)) then return image
  Work.change (·.makeDirectories target)
  let copy := target / copyName position image
  Work.change (·.copy source copy)
  return { image with path := .str copy.text }

/-- Copies of images, counted from zero. -/
def stageAll (target : Path) (images : List Project.AssetFile) : Work (List Project.AssetFile) :=
  images.zipIdx.mapM fun (image, position) => stageImage target position image

/-- The images of a project copied to the place of a user, where nothing else stays. -/
def stage (s : Store) (user : String) (project : Project) : Work Project := do
  let target := s.imagesOf user
  modify fun w => { w with files := w.files.removeTree target }
  let images ← stageAll target project.assets.images
  return { project with assets := { project.assets with images } }

/-- An analysis stored for a user in place of the one before. -/
def put (s : Store) (user : String) (project : Project) (detections : Table Detection) :
    Work Entry := do
  Work.change (·.makeDirectories s.directory)
  let project ← s.stage user project
  let entry : Entry := ⟨.str user, ← s.clock, project, detections⟩
  Work.change (·.write (s.fileOf user) (.document (.json .spaced) entry.toValue))
  return entry

/-- The entry of a user removed, if there is one. -/
def delete (s : Store) (user : String) : Work Unit := do
  Work.change (·.unlink (s.fileOf user))
  modify fun w => { w with files := w.files.removeTree (s.imagesOf user) }

/-- A number as a fraction. -/
def secondsOf (v : Value) : Except Fault Float :=
  match v with
  | .int n => (Value.int n).toFloat
  | .float x => .ok x
  | .bool b => (Value.bool b).toFloat
  | v => .error (.wrongType s!"unsupported operand type(s) for -: '{v.kindName}' and 'float'")

/-- Whether a time is longer than a whole number of seconds, however large. -/
def exceeds (age : Float) (limit : Int) : Bool :=
  match Decimal.wholePart age.floor with
  | .ok whole => limit < whole || (limit == whole && age.floor < age)
  | .error .notANumber => false
  | .error .infinite => 0.0 < age

/-- Whether the time from `created` to `now` is longer than a lifetime. -/
def isExpired (now lifetime created : Value) : Except Fault Bool := do
  let age := (← secondsOf now) - (← secondsOf created)
  match lifetime with
  | .int limit => return exceeds age limit
  | lifetime => return (← secondsOf lifetime) < age

/-- Whether a failure to read an entry only means that the entry counts for nothing. -/
def isUnreadable (failure : Failure) : Bool :=
  match failure with
  | .fault (.wrongType _) => true
  | .fault (.missingKey _) => true
  | .fault fault => fault.isBadValue || fault.isFile
  | _ => false

/-- The entry in a file. -/
def readEntry (files : FileTree) (path : Path) : Except Failure Entry := do
  let content ← files.read path
  let data ← content.json
  Entry.read data

/-- The entry of a user, if there is one that can be read and has not expired. -/
def get (s : Store) (user : String) : Work (Option Entry) := do
  let path := s.fileOf user
  if !(← Work.ask (·.isFile path)) then return none
  match readEntry (← MonadState.get).files path with
  | .error failure =>
    if isUnreadable failure then
      s.delete user
      return none
    else throw failure
  | .ok entry =>
    let now ← s.clock
    if ← Work.ofExcept ((isExpired now s.lifetime entry.created).mapError .fault) then
      s.delete user
      return none
    else return some entry

end Store

end Pagewright.Cache
