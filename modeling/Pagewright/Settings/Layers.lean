import Pagewright.Path
import Pagewright.Value.Display

/-!
Settings in layers. A setting has a dotted key, whose parts lead through nested tables. The layers are
the defaults, the file of the user, the file of the working directory and the environment; a later
layer wins, table by table.
-/

namespace Pagewright.Settings

/-- The parts of a dotted key. -/
def keyParts (key : String) : List String := (Text.splitOn '.' key.toList).map String.ofList

/-- The value at a path through tables; nothing where the path leads nowhere. -/
def lookup : Value → List String → Value
  | v, [] => v
  | .object fields, name :: path => lookup ((Table.get? fields name).getD .null) path
  | _, _ :: _ => .null

/-- The value of a setting, or a default where it has none. -/
def getD (data : Value) (key : String) (default : Value) : Value :=
  match lookup data (keyParts key) with
  | .null => default
  | v => v

/-- A table with a value at a path; what stands in the way of a table is replaced by one. -/
def setAt : Table Value → List String → Value → Table Value
  | fields, [], _ => fields
  | fields, [name], v => fields.put name v
  | fields, name :: path, v =>
    let below : Table Value := match fields.get? name with
      | some (.object below) => below
      | _ => []
    fields.put name (.object (setAt below path v))

/-- A table with the value of a setting. -/
def set (fields : Table Value) (key : String) (v : Value) : Table Value :=
  setAt fields (keyParts key) v

mutual

/-- A value laid over another one: tables are merged, anything else replaces what it covers. -/
def overlay (old : Option Value) : Value → Value
  | .object fields => match old with
    | some (.object base) => .object (merge base fields)
    | _ => .object fields
  | v => v

/-- A table laid over another one. -/
def merge (base : Table Value) : List (String × Value) → Table Value
  | [] => base
  | (key, v) :: rest => merge (base.put key (overlay (base.get? key) v)) rest

end

/-- The settings before any layer. -/
def defaults : Table Value :=
  [("data_dir", .str ""),
    ("archive", .object [("max_size_mb", .int 50), ("temp_dir", .str "")]),
    ("cache", .object [("ttl_seconds", .int 3600)]),
    ("detection", .object [("signatures_path", .str "")]),
    ("host", .object [("pro_active", .str "auto"), ("registry", .str "file"),
      ("document_store", .str "json")]),
    ("fields", .object [("acf", .str "null"), ("jet", .str "null"), ("mb", .str "null"),
      ("meta_path", .str "")]),
    ("ui", .object [("plain_output", .bool false)])]

/-- Environment variables and the settings that they give. -/
def variableKeys : List (String × String) :=
  [("L2WP_HOME", "data_dir"), ("L2WP_MAX_ZIP_MB", "archive.max_size_mb"),
    ("L2WP_TEMP_DIR", "archive.temp_dir"), ("L2WP_CACHE_TTL", "cache.ttl_seconds"),
    ("L2WP_SIGNATURES", "detection.signatures_path"), ("L2WP_PRO_ACTIVE", "host.pro_active"),
    ("L2WP_FIELD_ACF", "fields.acf"), ("L2WP_FIELD_JET", "fields.jet"),
    ("L2WP_FIELD_MB", "fields.mb"), ("L2WP_FIELDS_FILE", "fields.meta_path"),
    ("L2WP_PLAIN", "ui.plain_output")]

def numericKeys : List String := ["archive.max_size_mb", "cache.ttl_seconds"]

def switchKeys : List String := ["host.pro_active", "ui.plain_output"]

/-- The value that the text of an environment variable gives to a setting; nothing where a numeric
setting gets no number. -/
def coerce (key raw : String) : Value :=
  let lowered := Text.lowerString raw
  if lowered == "true" || lowered == "yes" then .bool true
  else if lowered == "false" || lowered == "no" then .bool false
  else if numericKeys.contains key then
    match Decimal.readInt? raw.toList with
    | some n => .int n
    | none => .null
  else if (lowered == "1" || lowered == "0") && switchKeys.contains key then .bool (lowered == "1")
  else .str raw

/-- Settings with those that the environment gives. -/
def withEnvironment (environment : Table String) (fields : Table Value) : Table Value :=
  variableKeys.foldl (fun fields (named, key) => match environment.get? named with
    | none => fields
    | some raw => match coerce key raw with
      | .null => fields
      | v => set fields key v) fields

/-- The settings that the layers make. -/
def resolve (user project : Table Value) (environment : Table String) : Table Value :=
  withEnvironment environment (merge (merge defaults user) project)

/-- A value typed on the command line: a truth value, a whole number or a text. -/
def parseValue (text : String) : Value :=
  let lowered := Text.lowerString text
  if ["true", "yes", "1"].contains lowered then .bool true
  else if ["false", "no", "0"].contains lowered then .bool false
  else match Decimal.readInt? text.toList with
    | some n => .int n
    | none => .str text

/-- Resolved settings and the files that they came from. -/
structure Resolved where
  data : Table Value
  userFile : Option Path
  projectFile : Option Path

end Pagewright.Settings
