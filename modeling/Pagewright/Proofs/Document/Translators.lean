import Pagewright.Design.Convert
import Pagewright.Page.Translate
import Pagewright.Proofs.Document.Building

/-! What the two translators make. Every converter makes a node that may stand where it is put, so that no nesting is
ever refused and a document that comes out of a translator is well formed. -/
namespace Pagewright.Document

theorem styled_plain (stops : Fault → Prop) (classes : String) : Styled stops (.str classes) .null := by
  refine ⟨?_,refusedBy_ok []⟩
  unfold userClasses
  have given : ∃ text, (Value.str classes).orElse (.str "") = .str text := by
    unfold Value.orElse
    split
    · exact ⟨_,rfl⟩
    · exact ⟨_,rfl⟩
  obtain ⟨text,same⟩ := given
  rw [same]
  exact refusedBy_ok _

/-- A section with one column that holds a widget at least, and nothing but widgets. -/
structure Node.SingleColumn (node : Node) : Prop where
  kind : node.kind = .sect
  elements : ∃ column, node.elements = [column] ∧ column.IsColumn ∧ column.elements ≠ []

theorem Node.SingleColumn.isSection {node : Node} (single : node.SingleColumn) : node.IsSection := by
  obtain ⟨kind,column,elements,is,_⟩ := single
  refine ⟨kind,?_⟩
  rw [elements]
  exact List.forall_mem_singleton.mpr is

/-- A column with widgets is added to a section that is empty so far. -/
theorem builds_single {stops : Fault → Prop} (sect column : Node) (widgets : List Node)
    (section_kind : sect.kind = .sect ∧ sect.elements = []) (column_kind : column.kind = .column ∧ column.elements = [])
    (are : ∀ widget ∈ widgets, widget.IsWidget) (filled : widgets ≠ []) :
    Builds stops (do
      let column ← widgets.foldlM (fun column widget => liftM (column.add widget)) column
      liftM (sect.add column)) Node.SingleColumn := by
  refine builds_bind (builds_adding column widgets fun widget among => ?_) fun full same => ?_
  · rw [column_kind.1,(are widget among).kind]
    exact .widgets
  · have kind : full.kind = .column := by rw [same]; exact column_kind.1
    have elements : full.elements = widgets := by rw [same,column_kind.2,List.nil_append]
    have may : MayHold sect.kind full.kind := by rw [section_kind.1,kind]; exact .columns
    rw [add_ok sect full may]
    refine builds_pure _ ⟨section_kind.1,full,?_,⟨kind,?_⟩,?_⟩
    · rw [section_kind.2,List.nil_append]
    · rw [elements]
      exact are
    · rw [elements]
      exact filled

end Pagewright.Document

namespace Pagewright.Page
open Document

variable {stops : Fault → Prop}

theorem planWidgets_some (markup : List Char) : planWidgets markup ≠ [] := by
  unfold planWidgets
  dsimp only
  split
  · exact List.cons_ne_nil _ _
  · rename_i planned
    exact fun none => planned (by rw [none]; rfl)

theorem builds_parseWidgets (markup : List Char) : Builds stops (parseWidgets markup) fun widgets =>
    widgets ≠ [] ∧ ∀ widget ∈ widgets, widget.IsWidget := by
  refine builds_weaken (builds_mapM fun plan _ => builds_widget (styled_plain _ _) _ _) ?_
  intro widgets ⟨length,are⟩
  refine ⟨fun none => planWidgets_some markup (List.eq_nil_of_length_eq_zero ?_),are⟩
  rw [← length,none]
  rfl

theorem builds_translateSection (classes inner : List Char) :
    Builds stops (translateSection classes inner) Node.SingleColumn := by
  refine builds_bind (builds_section (styled_plain _ _) _) fun sect empty => ?_
  refine builds_bind (builds_column (styled_plain _ _) _ _) fun column bare => ?_
  refine builds_bind (builds_parseWidgets inner) fun widgets made => ?_
  exact builds_single sect column widgets empty bare made.2 made.1

/-- A page has as many sections as its source, and one where the source has none. -/
theorem splitSections_length (content : List Char) :
    (splitSections content).length = max 1 (Text.finds section? content).length := by
  unfold splitSections
  split
  · rename_i none
    rw [none]
    rfl
  · rename_i some
    have := List.length_pos_iff.mpr some
    omega

theorem builds_translate (content : List Char) : Builds stops (translate content) fun tree =>
    tree.length = max 1 (Text.finds section? content).length ∧ ∀ node ∈ tree, node.SingleColumn := by
  refine builds_bind (builds_mapM fun part _ => builds_translateSection part.1 part.2)
    fun tree ⟨length,single⟩ => ?_
  have valid : validate tree = .ok () := (validate_ok_iff tree).mpr fun node among => (single node among).isSection
  rw [valid]
  exact builds_pure tree ⟨by rw [length,splitSections_length],single⟩

end Pagewright.Page

namespace Pagewright.Design
open Document

/-- A fault that is no bad value, in particular no broken rule of a tree. -/
def Sound (fault : Fault) : Prop := fault.isBadValue = false

section Parts

theorem items_sound (v : Value) : RefusedBy Sound v.items := by
  cases v <;> first | exact refusedBy_ok _ | exact refusedBy_error _ rfl

theorem fieldsFor_sound (operation : String) (v : Value) : RefusedBy Sound (v.fieldsFor operation) := by
  cases v <;> first | exact refusedBy_ok _ | exact refusedBy_error _ rfl

theorem clampDelay_sound (v : Value) : RefusedBy Sound (clampDelay v) := by
  unfold clampDelay
  split
  · exact refusedBy_ok _
  · exact refusedBy_error _ rfl
  · exact refusedBy_ok _

theorem delayAttribute_sound (fields : Table Value) : RefusedBy Sound (delayAttribute fields) := by
  unfold delayAttribute
  dsimp only
  split
  · exact refusedBy_bind _ _ (clampDelay_sound _) fun _ => refusedBy_ok _
  · exact refusedBy_ok _

theorem styled_sound (classes animation : Value) : Styled Sound classes animation := by
  constructor
  · unfold userClasses
    split
    · exact refusedBy_ok _
    · exact refusedBy_error _ rfl
  · unfold animationAttributes
    split
    · exact refusedBy_ok _
    · split
      · exact refusedBy_ok _
      · exact refusedBy_bind _ _ (delayAttribute_sound _) fun _ => refusedBy_ok _
      · exact refusedBy_ok _

theorem widgetTypeOf_sound (sourceType : Value) : RefusedBy Sound (widgetTypeOf sourceType) := by
  unfold widgetTypeOf
  split
  · exact refusedBy_ok _
  · split
    · exact refusedBy_ok _
    · exact refusedBy_error _ rfl

theorem convertBackground_sound (background : Value) : RefusedBy Sound (convertBackground background) := by
  unfold convertBackground
  split
  · exact refusedBy_ok _
  · exact refusedBy_bind _ _ (fieldsFor_sound _ _) fun _ => refusedBy_ok _

theorem builds_itemsOf (fields : Table Value) (key : String) : Builds Sound (itemsOf fields key) fun _ => True :=
  builds_lift _ (items_sound _)

end Parts

section Converters

variable (fields : Table Value)

theorem builds_convertWidget : Builds Sound (convertWidget fields) Node.IsWidget :=
  builds_bind (builds_lift _ (widgetTypeOf_sound _)) fun _ _ => builds_widget (styled_sound _ _) _ _

theorem builds_singleton {work : Build Node} (is : Builds Sound work Node.IsWidget) :
    Builds Sound (List.singleton <$> work) fun made => ∀ widget ∈ made, widget.IsWidget :=
  builds_map is fun _ is => List.forall_mem_singleton.mpr is

theorem builds_convertElement (element : Value) :
    Builds Sound (convertElement? element) fun made => ∀ widget ∈ made, widget.IsWidget := by
  have one (work : Build Node) (is : Builds Sound work Node.IsWidget) :
      Builds Sound (some <$> work) fun made => ∀ widget ∈ made, widget.IsWidget :=
    builds_map is fun widget is other same => Option.some.inj same ▸ is
  unfold convertElement?
  split
  · exact one _ (builds_widget (styled_sound _ _) _ _)
  · split
    · exact one _ (builds_convertWidget _)
    · exact builds_pure none nofun
  · exact builds_pure none nofun

theorem builds_convertProjectSection : Builds Sound (convertProjectSection fields) Node.SingleColumn := by
  refine builds_bind (builds_section (styled_sound _ _) _) fun sect empty => ?_
  refine builds_bind (builds_column (styled_sound _ _) _ _) fun column bare => ?_
  refine builds_bind (builds_widget (styled_sound _ _) _ _) fun heading first => ?_
  refine builds_either (builds_singleton (builds_widget (styled_sound _ _) _ _)) (builds_pure [] nofun)
    fun texts second => ?_
  refine builds_bind (builds_itemsOf _ _) fun _ _ => ?_
  refine builds_bind (builds_filterMapM fun item _ => builds_convertElement item) fun elements third => ?_
  refine builds_bind (builds_itemsOf _ _) fun _ _ => ?_
  refine builds_bind (builds_mapM fun card _ => builds_widget (styled_sound _ _) _ _) fun cards fourth => ?_
  refine builds_bind (builds_itemsOf _ _) fun _ _ => ?_
  refine builds_bind (builds_mapM fun label _ => builds_widget (styled_sound _ _) _ _) fun buttons fifth => ?_
  refine builds_single sect column _ empty bare ?_ (by simp)
  intro widget among
  simp only [List.mem_append,List.mem_singleton] at among
  obtain (((rfl | among) | among) | among) | among := among
  · exact first
  · exact second widget among
  · exact third widget among
  · exact fourth.2 widget among
  · exact fifth.2 widget among

theorem builds_pageSections (page : Value) : Builds Sound (pageSections page) fun _ => True :=
  builds_bind (builds_lift _ (fieldsFor_sound _ _)) fun _ _ => builds_itemsOf _ _

theorem builds_pageContent (page : Value) :
    Builds Sound (do
      let sections ← pageSections page
      (sections.filterMap Value.fields?).mapM convertProjectSection) fun made => ∀ node ∈ made, node.IsSection := by
  refine builds_bind (builds_pageSections page) fun sections _ => ?_
  refine builds_weaken (builds_mapM fun part _ => builds_convertProjectSection part) fun made single => ?_
  exact fun node among => (single.2 node among).isSection

theorem builds_convertProject : Builds Sound (convertProject fields) fun document =>
    ∀ node ∈ document.content, node.IsSection := by
  refine builds_bind (builds_lift _ (fieldsFor_sound _ _)) fun plan _ => ?_
  refine builds_bind (builds_itemsOf _ _) fun pages _ => ?_
  refine builds_bind (builds_mapM fun page _ => builds_pageContent page) fun content are => ?_
  refine builds_pure _ fun node among => ?_
  obtain ⟨made,inside,among⟩ := List.mem_flatten.mp among
  exact are.2 made inside node among

theorem builds_convertColumn : Builds Sound (convertColumn fields) Node.IsColumn := by
  refine builds_bind (builds_column (styled_sound _ _) _ _) fun column bare => ?_
  refine builds_bind (builds_itemsOf _ _) fun _ _ => ?_
  refine builds_bind (builds_mapM fun part _ => builds_convertWidget part) fun widgets are => ?_
  refine builds_weaken (builds_adding _ widgets fun widget among => ?_) fun full same => ?_
  · rw [bare.1,(are.2 widget among).kind]
    exact .widgets
  · subst same
    refine ⟨bare.1,?_⟩
    rw [bare.2,List.nil_append]
    exact are.2

theorem builds_convertSection : Builds Sound (convertSection fields) Node.IsSection := by
  refine builds_bind (builds_section (styled_sound _ _) _) fun sect empty => ?_
  refine builds_either (builds_lift _ (convertBackground_sound _)) (builds_pure [] trivial) fun changes _ => ?_
  refine builds_bind (builds_itemsOf _ _) fun _ _ => ?_
  refine builds_bind (builds_mapM fun part _ => builds_convertColumn part) fun columns are => ?_
  refine builds_weaken (builds_adding _ columns fun column among => ?_) fun full same => ?_
  · rw [empty.1,(are.2 column among).kind]
    exact .columns
  · subst same
    refine ⟨empty.1,?_⟩
    rw [empty.2,List.nil_append]
    exact are.2

theorem builds_convertLayout : Builds Sound (convertLayout fields) fun document =>
    ∀ node ∈ document.content, node.IsSection := by
  refine builds_bind (builds_itemsOf _ _) fun _ _ => ?_
  refine builds_bind (builds_mapM fun part _ => builds_convertSection part) fun content are => ?_
  exact builds_pure _ are.2

/-- The way through a decoded design before its document is checked. -/
def traverse (fields : Table Value) : Build DesignDocument :=
  match fieldD fields "proyecto" .null with
  | .object project => convertProject project
  | _ => convertLayout fields

theorem convert_eq : convert (.object fields) = (do
    let document ← traverse fields
    validate document.content
    return document) := by
  unfold convert traverse
  rw [show (Value.object fields).fieldsFor "get" = .ok fields from rfl,lift_bind]
  cases fieldD fields "proyecto" .null <;> rfl

theorem builds_traverse : Builds Sound (traverse fields) fun document => ∀ node ∈ document.content, node.IsSection := by
  unfold traverse
  split
  · exact builds_convertProject _
  · exact builds_convertLayout fields

end Converters

end Pagewright.Design

namespace Pagewright.Document

/-- Every page translates to sections with one column of widgets, one for each section that its source has. A design
is refused by no rule of a tree: what its traversal gives is a document, and what stops it is no bad value. -/
theorem translators_build_documents :
    (∀ (content : List Char) (s : Nat), ∃ tree s', (Page.translate content).run.run s = (.ok tree,s') ∧ tree ≠ [] ∧
      tree.length = max 1 (Text.finds Page.section? content).length ∧ ∀ node ∈ tree, node.SingleColumn) ∧
    ∀ (fields : Table Value) (s : Nat),
      (∃ document s', (Design.traverse fields).run.run s = (.ok document,s') ∧ validate document.content = .ok () ∧
        (Design.convert (.object fields)).run.run s = (.ok document,s')) ∨
      ∃ fault s', (Design.traverse fields).run.run s = (.error (.fault fault),s') ∧ fault.isBadValue = false ∧
        (Design.convert (.object fields)).run.run s = (.error (.fault fault),s') := by
  constructor
  · intro content s
    have built : Builds (fun _ => False) (Page.translate content) _ := Page.builds_translate content
    obtain ⟨tree,s',ran,length,single⟩ | ⟨_,_,_,never⟩ := built s
    · refine ⟨tree,s',ran,fun none => ?_,length,single⟩
      rw [none,List.length_nil] at length
      omega
    · exact never.elim
  · intro fields s
    rw [Design.convert_eq,run_bind]
    obtain ⟨document,s',ran,are⟩ | ⟨fault,s',ran,sound⟩ := Design.builds_traverse fields s
    · have valid := (validate_ok_iff document.content).mpr are
      refine .inl ⟨document,s',ran,valid,?_⟩
      rw [ran]
      dsimp only
      rw [valid]
      rfl
    · refine .inr ⟨fault,s',ran,sound,?_⟩
      rw [ran]

end Pagewright.Document
