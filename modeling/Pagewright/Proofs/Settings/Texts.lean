import Pagewright.Proofs.Settings
import Pagewright.Proofs.Settings.Layers

/-! Settings that are texts. A variable of the environment gives such a setting its own text, unless that is one of the
words for truth values in any case; and there is a setting at all only where both settings files can be read. -/
namespace Pagewright.Settings

/-- The settings that are paths or names of providers. -/
def textKeys : List String := ["data_dir","archive.temp_dir","detection.signatures_path","fields.acf","fields.jet",
  "fields.mb","fields.meta_path"]

/-- The words that are taken for truth values. -/
def truthWords : List String := ["true","yes","false","no"]

variable (key raw : String)

theorem coerce_text (textual : key ∈ textKeys) (plain : Text.lowerString raw ∉ truthWords) :
    coerce key raw = .str raw := by
  have neither : ∀ key ∈ textKeys, key ∉ numericKeys ∧ key ∉ switchKeys := by decide
  simp only [truthWords,List.mem_cons,List.not_mem_nil,or_false,not_or] at plain
  simp [coerce,plain,neither key textual]

theorem coerce_word (word : Text.lowerString raw ∈ truthWords) : ∃ b, coerce key raw = .bool b := by
  simp only [truthWords,List.mem_cons,List.not_mem_nil,or_false] at word
  unfold coerce
  obtain same | same | same | same := word <;> simp [same]

/-- A setting whose variable gives it a value has that value, whatever the files hold. -/
theorem getD_given (named : String) (mapped : (named,key) ∈ variableKeys) (environment : Table String)
    (given : environment.get? named = some raw) (user project : Table Value) (default : Value)
    (proper : coerce key raw ≠ .null) :
    getD (.object (resolve user project environment)) key default = coerce key raw := by
  have value : given? environment named key = some (coerce key raw) := by
    unfold given?
    rw [given]
    dsimp only
    generalize coerce key raw = v at proper ⊢
    cases v with
    | null => exact absurd rfl proper
    | _ => rfl
  have found := environment_rules environment (merge (merge defaults user) project) (keyParts key) _
    (.value named key _ mapped value rfl)
  unfold getD resolve
  rw [found]
  generalize coerce key raw = v at proper ⊢
  cases v with
  | null => exact absurd rfl proper
  | _ => rfl

/-- A home directory with a settings file, and a directory for temporary files in the environment. -/
def limitedWorkspace (directory : String) : Workspace :=
  homeWorkspace [("archive",.object [("max_size_mb",.int 5)])] [("L2WP_TEMP_DIR",directory)]

end Pagewright.Settings
