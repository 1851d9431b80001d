import Pagewright.Host.PluginRegistry
import Pagewright.Proofs.Files.Progress
import Pagewright.Proofs.Table

/-! The sections of a registry file and the paths in them. The path of a slug is a directory of its name with a
script of its name in it. The sections are all there once they are loaded, and what is saved is what is loaded next. -/
namespace Pagewright.Host.RegistryFile

/-- The path under which a slug is installed. -/
def ownPath (slug : String) : String := slug ++ "/" ++ slug ++ ".php"

theorem ownPath_toList (slug : String) :
    (ownPath slug).toList = slug.toList ++ '/' :: (slug ++ ".php").toList := by
  simp [ownPath]

theorem belongsTo_ownPath (slug : String) : belongsTo slug (ownPath slug) = true := by
  have start : Text.startsWith (slug ++ "/").toList (ownPath slug).toList = true := by
    rw [Text.startsWith_iff,ownPath_toList]
    exact ⟨(slug ++ ".php").toList,by simp⟩
  unfold belongsTo
  rw [start]
  rfl

theorem before_slash (first second rest rest' : List Char) (plain : '/' ∉ first) (plain' : '/' ∉ second)
    (same : first ++ '/' :: rest = second ++ '/' :: rest') : first = second := by
  have run : ∀ s t : List Char, '/' ∉ s → (s ++ '/' :: t).takeWhile (· != '/') = s := by
    intro s t plain
    have all : ∀ c ∈ s, (c != '/') = true := by
      intro c member
      rw [bne_iff_ne]
      rintro rfl
      exact plain member
    rw [List.takeWhile_append_of_pos all]
    simp
  rw [← run first rest plain,same,run second rest' plain']

/-- A text without slashes lies on one side of a slash. -/
theorem infix_around_slash (piece before after : List Char) (plain : '/' ∉ piece)
    (inside : piece <:+: before ++ '/' :: after) : piece <:+: before ∨ piece <:+: after := by
  obtain ⟨start,rest,same⟩ := inside
  rcases List.append_eq_append_iff.mp same with ⟨gap,split,_⟩ | ⟨gap,split,remains⟩
  · left
    exact ⟨start,gap,split.symm⟩
  · cases gap with
    | nil =>
      left
      exact ⟨start,[],by simpa using split⟩
    | cons c gap =>
      obtain ⟨rfl,after⟩ := List.cons.inj remains
      rcases List.append_eq_append_iff.mp split with ⟨part,_,slash⟩ | ⟨part,_,slash⟩
      · have member : '/' ∈ piece := by rw [slash]; simp
        exact absurd member plain
      · cases part with
        | nil =>
          have member : '/' ∈ piece := by rw [← List.nil_append piece,← slash]; simp
          exact absurd member plain
        | cons c part =>
          right
          refine ⟨part,rest,?_⟩
          rw [after,(List.cons.inj slash).2]
          rfl

theorem slash_script (slug : String) (plain : '/' ∉ slug.toList) : '/' ∉ (slug ++ ".php").toList := by
  rw [String.toList_append,List.mem_append,not_or]
  exact ⟨plain,by decide⟩

/-- The own path of a slug belongs to the slugs whose script name is part of its script name. -/
theorem belongsTo_ownPath_iff (slug other : String) (plain : '/' ∉ slug.toList)
    (plainOther : '/' ∉ other.toList) : belongsTo slug (ownPath other) = true ↔
      Text.occursIn (slug ++ ".php") (other ++ ".php") = true := by
  unfold belongsTo Text.occursIn
  rw [Bool.or_eq_true,Text.startsWith_iff,Text.occurs_iff,Text.occurs_iff,ownPath_toList]
  constructor
  · rintro (⟨rest,same⟩ | inside)
    · have equal : slug.toList = other.toList := by
        refine before_slash _ _ rest _ plain plainOther (Eq.trans ?_ same)
        simp
      obtain rfl := String.toList_inj.mp equal
      exact List.infix_refl _
    · rcases infix_around_slash _ _ _ (slash_script slug plain) inside with before | after
      · have script : (other ++ ".php").toList = other.toList ++ ".php".toList := String.toList_append
        rw [script]
        exact before.trans (List.prefix_append _ _).isInfix
      · exact after
  · intro inside
    right
    rw [List.append_cons]
    exact inside.trans (List.suffix_append _ _).isInfix

theorem ownPath_inj (slug other : String) (plain : '/' ∉ slug.toList) (plainOther : '/' ∉ other.toList)
    (same : ownPath slug = ownPath other) : slug = other := by
  have lists := congrArg String.toList same
  rw [ownPath_toList,ownPath_toList] at lists
  exact String.toList_inj.mp (before_slash _ _ _ _ plain plainOther lists)

/-- Every section of a registry is there. -/
structure Complete (data : Table Value) : Prop where
  plugins : ∃ v, data.get? "plugins" = some v
  pro : ∃ v, data.get? "pro" = some v
  unavailable : ∃ v, data.get? "unavailable" = some v

theorem withSections_complete (fields : Table Value) : Complete (withSections fields) := by
  unfold withSections
  obtain ⟨plugins,first⟩ := fields.get?_putNew_self "plugins" (.object [])
  obtain ⟨pro,second⟩ := (fields.putNew "plugins" (.object [])).get?_putNew_self "pro" noPro
  refine ⟨⟨plugins,?_⟩,⟨pro,?_⟩,Table.get?_putNew_self _ _ _⟩
  · exact Table.get?_putNew_some _ _ _ _ _ (Table.get?_putNew_some _ _ _ _ _ first)
  · exact Table.get?_putNew_some _ _ _ _ _ second

theorem withSections_of_complete (data : Table Value) (complete : Complete data) :
    withSections data = data := by
  have known := fun name => (Table.has_iff data name).mpr
  simp only [withSections,Table.putNew,known _ complete.plugins,known _ complete.pro,
    known _ complete.unavailable,if_true]

theorem sectionOf_put_self (data : Table Value) (name : String) (v : Value) :
    sectionOf (data.put name v) name = v := by
  unfold sectionOf
  rw [Table.get?_put_self]
  rfl

theorem sectionOf_put_of_ne (data : Table Value) (name other : String) (v : Value) (different : other ≠ name) :
    sectionOf (data.put name v) other = sectionOf data other := by
  unfold sectionOf
  rw [Table.get?_put_of_ne _ _ different]

theorem complete_put (data : Table Value) (complete : Complete data) (v : Value) :
    Complete (data.put "plugins" v) where
  plugins := ⟨v,Table.get?_put_self _ _ _⟩
  pro := by rw [Table.get?_put_of_ne _ _ (by decide)]; exact complete.pro
  unavailable := by rw [Table.get?_put_of_ne _ _ (by decide)]; exact complete.unavailable

variable (r : RegistryFile)

theorem load_complete (files : FileTree) (data : Table Value) (ok : r.load files = .ok data) :
    Complete data := by
  unfold load at ok
  obtain ⟨present,_,ok⟩ := except_bind_success _ _ _ ok
  split at ok
  · cases ok
    exact ⟨⟨_,rfl⟩,⟨_,rfl⟩,⟨_,rfl⟩⟩
  · split at ok
    · obtain ⟨fields,_,ok⟩ := except_bind_success _ _ _ ok
      cases ok
      exact withSections_complete fields
    · cases ok
    · cases ok

theorem save_made (data : Table Value) (files made : FileTree) (place : Place)
    (making : files.makeDirectories r.path.parent = .ok made)
    (located : made.locate r.path = .ok place) (noDirectory : made.find? place ≠ some .directory) :
    r.save data files = .ok (made.put place (.file (.document .yaml (.object data)))) := by
  unfold save
  rw [making]
  exact FileTree.write_free made _ _ _ located noDirectory

/-- Saved sections are what is loaded next. -/
theorem load_saved (files files' : FileTree) (data : Table Value) (complete : Complete data)
    (ok : r.save data files = .ok files') : r.load files' = .ok data := by
  obtain ⟨made,_,written⟩ := except_bind_success _ _ _ ok
  obtain ⟨located,standing⟩ := FileTree.write_leads made files' r.path _ written
  have present := FileTree.isFile_standing files' _ _ _ located standing
  have found := FileTree.read_standing files' _ _ _ located standing
  have nonempty : data.isEmpty = false := by
    obtain ⟨v,first⟩ := complete.plugins
    cases data with
    | nil => cases first
    | cons entry rest => rfl
  have itself : (Value.object data).orElse (.object []) = .object data := by
    simp [Value.orElse,Value.isTruthy,nonempty]
  unfold load
  simp only [present,found,Except.bind,Content.yaml,itself,Value.fieldsFor]
  exact congrArg Except.ok (withSections_of_complete data complete)

end Pagewright.Host.RegistryFile
