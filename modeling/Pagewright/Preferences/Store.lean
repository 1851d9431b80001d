import Pagewright.Workspace

/-!
Saved preferences: the solution that is preferred for a functionality. They are kept in a YAML file; an
absent or malformed file holds none.
-/

namespace Pagewright.Preferences

/-- A preferences file. -/
structure Store where
  path : Path

namespace Store

/-- The preferences file below a data directory. -/
def below (data : Path) : Store := ⟨data / "preferences.yaml"⟩

/-- The preferences that a decoded file holds, as texts. -/
def preferencesOf (data : Value) : Except Fault (Table String) := do
  let saved : Value := match data with
    | .object fields => (Table.get? fields "preferences").getD (.object [])
    | _ => .object []
  (← (saved.orElse (.object [])).fieldsFor "items").mapM fun (key, v) => do return (key, ← v.written)

/-- The saved preferences. -/
def load (s : Store) (files : FileTree) : Except Fault (Table String) := do
  if !(← files.isFile s.path) then return []
  match (files.read s.path).bind Content.yaml with
  | .ok data => preferencesOf (data.orElse (.object []))
  | .error (.notYaml _) => return []
  | .error fault => if fault.isFile then return [] else throw fault

/-- Preferences saved in place of those before. The file is emptied first, so that preferences of a
wrong shape leave an empty file. -/
def save (s : Store) (preferences : Value) : Work Unit := do
  Work.change fun files => do
    (← files.makeDirectories s.path.parent).write s.path (.bytes ByteArray.empty)
  let entries ← Work.ofExcept (preferences.toEntries.mapError .fault)
  let fields := Table.ofPairs (entries.map fun entry => (entry.1.text, entry.2))
  Work.change (·.write s.path (.document .yaml (.object [("preferences", .object fields)])))

/-- One more preference, saved with those before. -/
def update (s : Store) (key slug : String) : Work (Table String) := do
  let preferences := (← Work.ask s.load).put key slug
  s.save (.object (preferences.mapValues .str))
  return preferences

/-- All preferences forgotten. -/
def clear (s : Store) : Work Unit := do
  if ← Work.ask (·.exists? s.path) then Work.change (·.unlink s.path)

end Store

end Pagewright.Preferences
