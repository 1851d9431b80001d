import Pagewright.Decimal.Integer
import Pagewright.Host.Site
import Pagewright.Settings.Access

/-!
Choosing the collaborators of a site by name: the plugin registry and the document store that are asked
for or that the settings name. They are given the time as text: the date and the time of day in universal time,
to the second, of a count of seconds since the start of 1970.
-/

namespace Pagewright.Host

/-- Whether a year has a leap day. -/
def isLeap (year : Nat) : Bool := year % 4 == 0 && (year % 100 != 0 || year % 400 == 0)

def monthLengths (year : Nat) : List Nat :=
  [31, if isLeap year then 29 else 28, 31, 30, 31, 30, 31, 31, 30, 31, 30, 31]

/-- The month and the day of a day of a year, both counted from one. -/
def monthDay : List Nat → Nat → Nat → Nat × Nat
  | [], month, day => (month, day + 1)
  | length :: rest, month, day =>
    if day < length then (month, day + 1) else monthDay rest (month + 1) (day - length)

/-- The year of a day, and the day in that year; `fuel` bounds the number of years. -/
def yearOf : Nat → Nat → Nat → Nat × Nat
  | 0, year, day => (year, day)
  | fuel + 1, year, day =>
    let length := if isLeap year then 366 else 365
    if day < length then (year, day) else yearOf fuel (year + 1) (day - length)

def padded (width n : Nat) : String := String.ofList (Decimal.padZeros width (Nat.toDigits 10 n))

/-- A time as text. -/
def timestamp (seconds : Nat) : String :=
  let days := seconds / 86400
  let (year, day) := yearOf (days / 365 + 1) 1970 days
  let (month, day) := monthDay (monthLengths year) 1 day
  let rest := seconds % 86400
  padded 4 year ++ "-" ++ padded 2 month ++ "-" ++ padded 2 day ++ "T" ++ padded 2 (rest / 3600)
    ++ ":" ++ padded 2 (rest / 60 % 60) ++ ":" ++ padded 2 (rest % 60) ++ "+00:00"

/-- The refusal of a name that no collaborator of a kind has. -/
def unknownName (kind name available : String) : Failure :=
  .config s!"Unknown {kind} '{name}'. Available: {available}" [(kind, .str name)]

/-- A collaborator found under the name that is given or that a setting holds; there is one of each kind. -/
def requireName (kind key available : String) (name : Value) : Work Unit := do
  let chosen ← if name.isTruthy then pure name else Settings.get key (.str available)
  match chosen with
  | .str chosen => if chosen != available then throw (unknownName kind chosen available)
  | v =>
    if !v.isHashable then throw (.fault v.unhashable)
    throw (.config s!"Unknown {kind} '{v.text}'. Available: {available}" [(kind, v)])

/-- The directory that collaborators work in. -/
def dataDirectoryOr (data : Option Path) : Work Path :=
  match data with
  | some data => return data
  | none => Settings.dataDirectory

/-- The plugin registry of a name. -/
def registryFile (name : Value) (data : Option Path) : Work RegistryFile := do
  requireName "plugin registry" "host.registry" "file" name
  return .below (← dataDirectoryOr data)

/-- The document store of a name, which stamps documents with the time of the workspace. -/
def documentDirectory (name : Value) (data : Option Path) : Work DocumentDirectory := do
  requireName "document store" "host.document_store" "json" name
  return .below (← dataDirectoryOr data) (timestamp (← get).time.toUInt64.toNat)

end Pagewright.Host
