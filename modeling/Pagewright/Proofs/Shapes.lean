import Pagewright.Detection.Detect
import Pagewright.Project.Codec
import Pagewright.Proofs.Except

/-! What decoding a value can be refused for. Every record is refused for the shape of a value only, but for the tables
of a manifest. -/
namespace Pagewright

/-- A fault that a value of the wrong shape causes. -/
def Fault.isShape : Fault → Bool
  | .wrongType _ => true
  | .missingKey _ => true
  | .badValue _ => true
  | .noAttribute _ => true
  | .overflow _ => true
  | _ => false

/-- Only the shape of a value can be wrong. -/
abbrev ByShape {α : Type} (r : Except Fault α) : Prop := RefusedBy (Fault.isShape · = true) r

namespace Value

variable (v : Value) (key : String) (default : Value)

theorem items_byShape : ByShape v.items := by
  cases v <;> first | exact refusedBy_ok _ | exact refusedBy_error _ rfl

theorem fieldsFor_byShape (operation : String) : ByShape (v.fieldsFor operation) := by
  cases v <;> first | exact refusedBy_ok _ | exact refusedBy_error _ rfl

theorem findD_byShape : ByShape (v.findD key default) :=
  refusedBy_bind _ _ (refusedBy_bind _ _ (v.fieldsFor_byShape "get") fun _ => refusedBy_ok _) fun _ => refusedBy_ok _

theorem member_byShape : ByShape (v.member key) := by
  cases v with
  | object fields =>
    unfold member
    dsimp only
    split
    · exact refusedBy_ok _
    · exact refusedBy_error _ rfl
  | _ => exact refusedBy_error _ rfl

theorem toInt_byShape : ByShape v.toInt := by
  unfold toInt
  split
  · exact refusedBy_ok _
  · exact refusedBy_ok _
  · split <;> first | exact refusedBy_ok _ | exact refusedBy_error _ rfl
  · split <;> first | exact refusedBy_ok _ | exact refusedBy_error _ rfl
  · exact refusedBy_error _ rfl

theorem written_byShape : ByShape v.written := by
  unfold written
  split
  · exact refusedBy_ok _
  · exact refusedBy_error _ rfl

theorem toFloat_byShape : ByShape v.toFloat := by
  unfold toFloat
  split
  · exact refusedBy_ok _
  · exact refusedBy_ok _
  · split <;> first | exact refusedBy_ok _ | exact refusedBy_error _ rfl
  · split <;> first | exact refusedBy_ok _ | exact refusedBy_error _ rfl
  · exact refusedBy_error _ rfl

end Value

namespace Project

variable (data : Value)

theorem namedField_byShape (key : String) : ByShape (namedField data key) := by
  have found : ByShape (some <$> data.member key) := by
    rw [map_eq_pure_bind]
    exact refusedBy_bind _ _ (data.member_byShape key) fun _ => refusedBy_ok _
  unfold namedField
  split
  · exact refusedBy_ok _
  · split
    · exact found
    · exact refusedBy_ok _
  · split
    · exact found
    · exact refusedBy_ok _
  · exact refusedBy_error _ rfl

theorem namedFieldD_byShape (key : String) (default : Value) : ByShape (namedFieldD data key default) :=
  refusedBy_bind _ _ (namedField_byShape data key) fun _ => refusedBy_ok _

theorem SourceFile.read_byShape : ByShape (SourceFile.read data) := by
  unfold SourceFile.read
  refine refusedBy_bind _ _ (data.member_byShape _) fun _ => refusedBy_bind _ _ (data.member_byShape _) fun _ => ?_
  refine refusedBy_bind _ _ (data.findD_byShape _ _) fun _ => refusedBy_bind _ _ (data.findD_byShape _ _) fun _ => ?_
  refine refusedBy_bind _ _ (data.findD_byShape _ _) fun size => ?_
  exact refusedBy_bind _ _ size.toInt_byShape fun _ => refusedBy_ok _

theorem AssetFile.read_byShape : ByShape (AssetFile.read data) := by
  unfold AssetFile.read
  refine refusedBy_bind _ _ (data.member_byShape _) fun _ => refusedBy_bind _ _ (data.findD_byShape _ _) fun _ => ?_
  refine refusedBy_bind _ _ (data.findD_byShape _ _) fun size => ?_
  refine refusedBy_bind _ _ size.toInt_byShape fun _ => ?_
  exact refusedBy_bind _ _ (data.findD_byShape _ _) fun _ =>
    refusedBy_bind _ _ (data.findD_byShape _ _) fun _ => refusedBy_ok _

theorem readListed_byShape {α : Type} (key : String) (read : Value → Except Fault α) (each : ∀ v, ByShape (read v)) :
    ByShape (readListed data key read) := by
  unfold readListed listed
  refine refusedBy_bind _ _ ?_ fun items => refusedBy_mapM _ items each
  exact refusedBy_bind _ _ (data.findD_byShape _ _) fun v => v.items_byShape

theorem Assets.read_byShape : ByShape (Assets.read data) := by
  have each (key : String) := readListed_byShape data key AssetFile.read AssetFile.read_byShape
  exact refusedBy_bind _ _ (each _) fun _ => refusedBy_bind _ _ (each _) fun _ =>
    refusedBy_bind _ _ (each _) fun _ => refusedBy_ok _

theorem BuildInfo.read_byShape : ByShape (BuildInfo.read data) := by
  unfold BuildInfo.read
  refine refusedBy_bind _ _ (namedFieldD_byShape data _ _) fun _ => refusedBy_bind _ _ (namedFieldD_byShape data _ _) fun _ => ?_
  refine refusedBy_bind _ _ (namedFieldD_byShape data _ _) fun _ => refusedBy_bind _ _ (namedFieldD_byShape data _ _) fun _ => ?_
  exact refusedBy_bind _ _ (namedFieldD_byShape data _ _) fun _ => refusedBy_ok _

theorem Description.read_byShape : ByShape (Description.read data) := by
  unfold Description.read
  refine refusedBy_bind _ _ (namedFieldD_byShape data _ _) fun _ => refusedBy_bind _ _ (namedFieldD_byShape data _ _) fun _ => ?_
  refine refusedBy_bind _ _ (namedFieldD_byShape data _ _) fun _ => refusedBy_bind _ _ (namedFieldD_byShape data _ _) fun _ => ?_
  refine refusedBy_bind _ _ (namedFieldD_byShape data _ _) fun _ => refusedBy_bind _ _ (namedFieldD_byShape data _ _) fun _ => ?_
  exact refusedBy_ok _

theorem readPath?_byShape : ByShape (readPath? data) := by
  unfold readPath?
  split
  · exact refusedBy_ok _
  · split
    · exact refusedBy_ok _
    · exact refusedBy_error _ rfl

/-- A manifest is refused for the shape of a value, or for a table of dependencies. -/
theorem Manifest.read_refused {P : Failure → Prop} (source : String)
    (shape : ∀ fault : Fault, fault.isShape = true → P (.fault fault))
    (malformed : ∀ key : String, P (.malformedInput .grammar source (.stated s!"'{key}' must be an object"))) :
    RefusedBy P (Manifest.read data source) := by
  have field (key : String) : RefusedBy P (liftM (data.findD key .null) : Except Failure Value) :=
    refusedBy_lift _ fun fault refused => shape fault (data.findD_byShape key .null fault refused)
  have table (key : String) (v : Value) : RefusedBy P (dependencyTable key source v) := by
    unfold dependencyTable
    split
    · exact refusedBy_ok _
    · exact refusedBy_error _ (malformed key)
  unfold Manifest.read
  refine refusedBy_bind _ _ (field _) fun _ => refusedBy_bind _ _ (table _ _) fun _ => ?_
  refine refusedBy_bind _ _ (field _) fun _ => refusedBy_bind _ _ (field _) fun _ => ?_
  refine refusedBy_bind _ _ (table _ _) fun _ => refusedBy_bind _ _ (field _) fun _ => ?_
  exact refusedBy_bind _ _ (field _) fun _ => refusedBy_ok _

end Project

namespace Detection

variable (data : Value)

theorem Candidate.read_byShape : ByShape (Candidate.read data) := by
  unfold Candidate.read
  refine refusedBy_bind _ _ (data.member_byShape _) fun slug => refusedBy_bind _ _ slug.written_byShape fun _ => ?_
  refine refusedBy_bind _ _ (data.fieldsFor_byShape _) fun _ => ?_
  refine refusedBy_bind _ _ (Value.toInt_byShape _) fun _ => ?_
  exact refusedBy_bind _ _ (Value.items_byShape _) fun _ => refusedBy_ok _

theorem Occurrence.read_byShape : ByShape (Occurrence.read data) := by
  unfold Occurrence.read
  refine refusedBy_bind _ _ (data.member_byShape _) fun _ => refusedBy_bind _ _ (data.findD_byShape _ _) fun _ => ?_
  exact refusedBy_bind _ _ (data.findD_byShape _ _) fun _ =>
    refusedBy_bind _ _ (data.findD_byShape _ _) fun _ => refusedBy_ok _

theorem read_byShape : ByShape (Detection.read data) := by
  unfold Detection.read
  refine refusedBy_bind _ _ (data.member_byShape _) fun _ => refusedBy_bind _ _ (data.findD_byShape _ _) fun _ => ?_
  refine refusedBy_bind _ _ (data.findD_byShape _ _) fun listed => ?_
  refine refusedBy_bind _ _ listed.items_byShape fun items => ?_
  refine refusedBy_bind _ _ (refusedBy_mapM _ items Occurrence.read_byShape) fun _ => ?_
  refine refusedBy_bind _ _ (data.findD_byShape _ _) fun listed => ?_
  refine refusedBy_bind _ _ listed.items_byShape fun items => ?_
  exact refusedBy_bind _ _ (refusedBy_mapM _ items Candidate.read_byShape) fun _ => refusedBy_ok _

end Detection

end Pagewright
