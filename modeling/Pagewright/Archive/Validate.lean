import Pagewright.Archive.Format
import Pagewright.Failure
import Pagewright.Files.Tree

/-!
Validation of an uploaded archive before it is unpacked. The checks run in order and the first one that
fails is reported: the file, its size, its type, its required entries. Unexpected file types and names
that look dangerous only give warnings.
-/

namespace Pagewright.Archive

/-- What an archive has to look like. -/
structure Rules where
  /-- The largest size in bytes. -/
  maxSize : Int
  /-- Pieces that have to occur in some member name. -/
  required : List String
  /-- File types that give no warning. -/
  allowed : List String

def defaultMaxSize : Int := 50 * 1024 * 1024

def requiredStructure : List String := ["src/", "public/", "package.json"]

def allowedTypes : List String :=
  ["js", "jsx", "ts", "tsx", "json", "css", "scss", "sass", "html", "svg", "png", "jpg", "jpeg",
    "gif", "webp", "md", "txt", "yml", "yaml"]

/-- The rules for project archives. -/
def Rules.standard : Rules := ⟨defaultMaxSize, requiredStructure, allowedTypes⟩

/-- Scripts, programs and ways out of the directory. -/
def dangerousPieces : List String := [".php", ".exe", ".sh", ".bat", ".cmd", "../"]

/-- A size in a unit: a whole one without places, any other with one. -/
def sizeIn (size : Float) (unit : String) : String :=
  Decimal.fixedPlaces (if size == size.floor then 0 else 1) size ++ " " ++ unit

/-- A size in the smallest unit in which it stays under 1024, or in the largest. -/
def sizeText (size : Float) : List String → String
  | [] => sizeIn size "B"
  | [unit] => sizeIn size unit
  | unit :: units => if size < 1024 then sizeIn size unit else sizeText (size / 1024) units

/-- A count of bytes for people. -/
def formatSize (bytes : Int) : Except Fault String := do
  return sizeText (← (Value.int bytes).toFloat) ["B", "KB", "MB", "GB"]

/-- The required pieces that occur in no member name. -/
def Rules.findMissing (rules : Rules) (names : List String) : List String :=
  rules.required.filter fun piece => !names.any (Text.occursIn piece ·)

/-- The file types of member names, directories aside, that are not allowed; each once. -/
def Rules.unexpectedTypes (rules : Rules) (names : List String) : List String :=
  let types := (names.filter (!·.endsWith "/")).map fun name => (Path.ofText name).fileType
  (types.filter fun type => !type.isEmpty && !rules.allowed.contains type).eraseDups

/-- The warnings about unexpected file types. -/
def Rules.checkTypes (rules : Rules) (names : List String) : List String :=
  (rules.unexpectedTypes names).map ("Unexpected file extension: " ++ ·)

/-- The warnings about dangerous names. -/
def checkSecurity (names : List String) : List String :=
  (names.filter fun name => dangerousPieces.any (Text.occursIn · name)).map
    ("Potentially dangerous file detected: " ++ ·)

/-- What a valid archive is like. -/
structure Report where
  path : Path
  size : Nat
  entries : Nat
  warnings : List String

def Report.toValue (r : Report) : Value :=
  .object [("path", .str r.path.text), ("size", .count r.size), ("entries", .count r.entries),
    ("warnings", .texts r.warnings)]

/-- The member names of an archive that passed the size check. -/
def openNames (data : ByteArray) (name : String) : Except Failure (List String) :=
  if (Path.ofText name).lowerSuffix != ".zip" || !isArchive data then
    .error (.validation "File must be a ZIP archive" "invalid_type" [] [("file", .str name)])
  else match unpack data with
    | .ok members => .ok (members.map (·.name))
    | .error reason => .error (.validation s!"Could not open ZIP file: {reason}" "invalid_structure" []
        [("file", .str name)])

/-- The check of the size of an archive. -/
def Rules.checkSize (rules : Rules) (size : Nat) : Except Failure Unit := do
  if rules.maxSize < size then
    let limit ← formatSize rules.maxSize
    throw (.validation s!"File size exceeds maximum allowed size of {limit}" "file_too_large" []
      [("size", .count size), ("max_size", .int rules.maxSize)])

/-- The check of the member names of an archive, with its warnings. -/
def Rules.checkNames (rules : Rules) (names : List String) : Except Failure (List String) := do
  let missing := rules.findMissing names
  let warnings := rules.checkTypes names
  if !missing.isEmpty then
    throw (.validation ("Missing required files/directories: " ++ ", ".intercalate missing)
      "invalid_structure" missing [("warnings", .texts warnings)])
  return warnings ++ checkSecurity names

/-- The report on an archive, which goes by another name if one is given. -/
def Rules.validate (rules : Rules) (files : FileTree) (path : Path) (filename : String) :
    Except Failure Report := do
  if !(← files.isFile path) then throw (.archiveNotFound path.text)
  let data := (← files.read path).data
  rules.checkSize data.size
  let names ← openNames data (if filename.isEmpty then path.name else filename)
  let warnings ← rules.checkNames names
  return ⟨path, data.size, names.length, warnings⟩

end Pagewright.Archive
