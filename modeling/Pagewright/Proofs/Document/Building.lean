import Pagewright.Document.Node
import Pagewright.Proofs.Except

/-! Building documents. Nesting is a matter of single edges, from a section to a column and from a column to a widget;
a tree of such edges is never deeper than the three levels that a check of a whole document looks at. A piece of work on
a document gives something with a property or is stopped by a fault of a certain sort; the rules go along the constructs
that such work is made of, and nodes are added where they may stand. -/
namespace Pagewright.Document

inductive MayHold : Kind → Kind → Prop
  | columns : MayHold .sect .column
  | widgets : MayHold .column .widget

theorem MayHold.below_section {child : Kind} (may : MayHold .sect child) : child = .column := by
  cases may
  rfl

theorem MayHold.below_column {child : Kind} (may : MayHold .column child) : child = .widget := by
  cases may
  rfl

/-- Every edge below a node is one that is allowed. -/
inductive Node.Nested : Node → Prop
  | mk (node : Node) : (∀ child ∈ node.elements, MayHold node.kind child.kind) →
      (∀ child ∈ node.elements, child.Nested) → node.Nested

structure Node.IsWidget (node : Node) : Prop where
  kind : node.kind = .widget
  elements : node.elements = []

structure Node.IsColumn (node : Node) : Prop where
  kind : node.kind = .column
  elements : ∀ child ∈ node.elements, child.IsWidget

structure Node.IsSection (node : Node) : Prop where
  kind : node.kind = .sect
  elements : ∀ child ∈ node.elements, child.IsColumn

theorem checkNesting_ok_iff (parent child : Kind) : checkNesting parent child = .ok () ↔ MayHold parent child := by
  constructor
  · intro ok
    unfold checkNesting at ok
    split at ok
    · exact .columns
    · exact .widgets
    · cases ok
    · cases ok
    · cases ok
    · split at ok <;> cases ok
  · intro may
    cases may <;> rfl

theorem add_ok (parent child : Node) (may : MayHold parent.kind child.kind) :
    parent.add child = .ok { parent with elements := parent.elements ++ [child] } := by
  unfold Node.add
  rw [(checkNesting_ok_iff _ _).mpr may]
  rfl

theorem add_refused (parent child : Node) (may : ¬ MayHold parent.kind child.kind) :
    ∃ fault, parent.add child = .error fault := by
  unfold Node.add
  cases checked : checkNesting parent.kind child.kind with
  | error fault => exact ⟨fault,rfl⟩
  | ok done => exact absurd ((checkNesting_ok_iff _ _).mp checked) may

section Checking

theorem forM_ok_iff {α : Type} (items : List α) (check : α → Except Fault Unit) :
    items.forM check = .ok () ↔ ∀ item ∈ items, check item = .ok () := by
  induction items with
  | nil => exact ⟨fun _ => nofun,fun _ => rfl⟩
  | cons item items ih =>
    rw [List.forall_mem_cons,← ih]
    change (check item >>= fun _ => items.forM check) = .ok () ↔ _
    cases check item with
    | error fault => exact ⟨nofun,fun both => by cases both.1⟩
    | ok done => exact ⟨fun rest => ⟨rfl,rest⟩,fun both => both.2⟩

theorem kind_isWidget (kind : Kind) : kind.isWidget = true ↔ kind = .widget := by
  cases kind <;> simp [Kind.isWidget]

theorem kind_isColumn (kind : Kind) : kind.isColumn = true ↔ kind = .column := by
  cases kind <;> simp [Kind.isColumn]

theorem kind_isSection (kind : Kind) : kind.isSection = true ↔ kind = .sect := by
  cases kind <;> simp [Kind.isSection]

theorem validateWidget_ok_iff (column widget : Node) : validateWidget column widget = .ok () ↔ widget.IsWidget := by
  have holds : widget.IsWidget ↔ widget.kind.isWidget = true ∧ widget.elements.isEmpty = true := by
    rw [kind_isWidget,List.isEmpty_iff]
    exact ⟨fun is => ⟨is.kind,is.elements⟩,fun both => ⟨both.1,both.2⟩⟩
  rw [holds]
  unfold validateWidget
  cases widget.kind.isWidget <;> cases widget.elements.isEmpty <;> simp

theorem validateColumn_ok_iff (parent column : Node) : validateColumn parent column = .ok () ↔ column.IsColumn := by
  have holds : column.IsColumn ↔
      column.kind.isColumn = true ∧ column.elements.forM (validateWidget column) = .ok () := by
    rw [kind_isColumn,forM_ok_iff]
    simp only [validateWidget_ok_iff]
    exact ⟨fun is => ⟨is.kind,is.elements⟩,fun both => ⟨both.1,both.2⟩⟩
  rw [holds]
  unfold validateColumn
  cases column.kind.isColumn with
  | false => exact ⟨nofun,nofun⟩
  | true => exact ⟨fun rest => ⟨rfl,rest⟩,fun both => both.2⟩

theorem validateSection_ok_iff (node : Node) : validateSection node = .ok () ↔ node.IsSection := by
  have holds : node.IsSection ↔ node.kind.isSection = true ∧ node.elements.forM (validateColumn node) = .ok () := by
    rw [kind_isSection,forM_ok_iff]
    simp only [validateColumn_ok_iff]
    exact ⟨fun is => ⟨is.kind,is.elements⟩,fun both => ⟨both.1,both.2⟩⟩
  rw [holds]
  unfold validateSection
  cases node.kind.isSection with
  | false => exact ⟨nofun,nofun⟩
  | true => exact ⟨fun rest => ⟨rfl,rest⟩,fun both => both.2⟩

/-- A forest passes the check exactly if all its trees are sections of columns of widgets. -/
theorem validate_ok_iff (sections : List Node) : validate sections = .ok () ↔ ∀ node ∈ sections, node.IsSection := by
  unfold validate
  rw [forM_ok_iff]
  simp only [validateSection_ok_iff]

end Checking

theorem isWidget_iff (node : Node) : node.IsWidget ↔ node.kind = .widget ∧ node.Nested := by
  constructor
  · intro is
    refine ⟨is.kind,.mk _ ?_ ?_⟩ <;> simp [is.elements]
  · rintro ⟨kind,⟨_,edges,_⟩⟩
    rw [kind] at edges
    exact ⟨kind,List.eq_nil_iff_forall_not_mem.mpr fun child member => nomatch edges child member⟩

theorem isColumn_iff (node : Node) : node.IsColumn ↔ node.kind = .column ∧ node.Nested := by
  constructor
  · intro is
    refine ⟨is.kind,.mk _ (fun child member => ?_) fun child member => ?_⟩
    · rw [is.kind,(is.elements child member).kind]
      exact .widgets
    · exact ((isWidget_iff _).mp (is.elements child member)).2
  · rintro ⟨kind,⟨_,edges,nested⟩⟩
    rw [kind] at edges
    exact ⟨kind,fun child member => (isWidget_iff _).mpr ⟨(edges child member).below_column,nested child member⟩⟩

theorem isSection_iff (node : Node) : node.IsSection ↔ node.kind = .sect ∧ node.Nested := by
  constructor
  · intro is
    refine ⟨is.kind,.mk _ (fun child member => ?_) fun child member => ?_⟩
    · rw [is.kind,(is.elements child member).kind]
      exact .columns
    · exact ((isColumn_iff _).mp (is.elements child member)).2
  · rintro ⟨kind,⟨_,edges,nested⟩⟩
    rw [kind] at edges
    exact ⟨kind,fun child member => (isColumn_iff _).mpr ⟨(edges child member).below_section,nested child member⟩⟩

variable {α β : Type} {stops : Fault → Prop} {middle holds : α → Prop} {result : β → Prop}

/-- Work that gives, from any number of drawn ids, something with a property, or is stopped by a fault of a sort. -/
def Builds (stops : Fault → Prop) (work : Build α) (holds : α → Prop) : Prop :=
  ∀ s, (∃ a s', work.run.run s = (.ok a,s') ∧ holds a) ∨
    ∃ fault s', work.run.run s = (.error (.fault fault),s') ∧ stops fault

section Rules

theorem builds_pure (a : α) (given : holds a) : Builds stops (pure a) holds :=
  fun s => .inl ⟨a,s,rfl,given⟩

theorem builds_weaken {work : Build α} (built : Builds stops work middle) (given : ∀ a, middle a → holds a) :
    Builds stops work holds := by
  intro s
  obtain ⟨a,s',ran,good⟩ | stopped := built s
  · exact .inl ⟨a,s',ran,given a good⟩
  · exact .inr stopped

theorem builds_bind {work : Build α} {next : α → Build β} (first : Builds stops work holds)
    (rest : ∀ a, holds a → Builds stops (next a) result) : Builds stops (work >>= next) result := by
  intro s
  rw [run_bind]
  obtain ⟨a,s',ran,given⟩ | ⟨fault,s',ran,stopped⟩ := first s
  · rw [ran]
    exact rest a given s'
  · rw [ran]
    exact .inr ⟨fault,s',rfl,stopped⟩

/-- Work that goes on in the same way after one of two beginnings. -/
theorem builds_either {choice : Bool} {work other : Build α} {next : α → Build β} (one : Builds stops work holds)
    (two : Builds stops other holds) (rest : ∀ a, holds a → Builds stops (next a) result) :
    Builds stops (if choice then work >>= next else other >>= next) result := by
  split
  · exact builds_bind one rest
  · exact builds_bind two rest

theorem lift_bind (value : α) (next : α → Build β) :
    ((liftM (.ok value : Except Fault α) : Build α) >>= next) = next value := rfl

theorem builds_lift (r : Except Fault α) (refused : RefusedBy stops r) :
    Builds stops (liftM r : Build α) fun _ => True := by
  intro s
  cases r with
  | error fault => exact .inr ⟨fault,s,rfl,refused fault rfl⟩
  | ok a => exact .inl ⟨a,s,rfl,trivial⟩

theorem builds_newId : Builds stops newId fun _ => True := fun _ => .inl ⟨_,_,rfl,trivial⟩

theorem builds_map {work : Build α} {f : α → β} (first : Builds stops work holds)
    (given : ∀ a, holds a → result (f a)) : Builds stops (f <$> work) result := by
  rw [← bind_pure_comp]
  exact builds_bind first fun a made => builds_pure _ (given a made)

theorem builds_mapM {f : α → Build β} {items : List α} (each : ∀ item ∈ items, Builds stops (f item) result) :
    Builds stops (items.mapM f) fun made => made.length = items.length ∧ ∀ one ∈ made, result one := by
  induction items with
  | nil => exact builds_pure [] ⟨rfl,nofun⟩
  | cons item items ih =>
    rw [List.forall_mem_cons] at each
    rw [List.mapM_cons]
    refine builds_bind each.1 fun first good => ?_
    refine builds_bind (ih each.2) fun rest others => ?_
    refine builds_pure _ ⟨?_,List.forall_mem_cons.mpr ⟨good,others.2⟩⟩
    rw [List.length_cons,others.1,List.length_cons]

theorem builds_filterMapM {f : α → Build (Option β)} {items : List α}
    (each : ∀ item ∈ items, Builds stops (f item) fun made => ∀ one ∈ made, result one) :
    Builds stops (items.filterMapM f) fun made => ∀ one ∈ made, result one := by
  induction items with
  | nil => exact builds_pure [] nofun
  | cons item items ih =>
    rw [List.forall_mem_cons] at each
    rw [List.filterMapM_cons]
    refine builds_bind each.1 fun made good => ?_
    cases made with
    | none => exact ih each.2
    | some first =>
      refine builds_bind (ih each.2) fun rest others => ?_
      exact builds_pure _ (List.forall_mem_cons.mpr ⟨good first rfl,others⟩)

/-- Children that may stand in a node are added in their order. -/
theorem builds_adding (parent : Node) (children : List Node)
    (may : ∀ child ∈ children, MayHold parent.kind child.kind) :
    Builds stops (children.foldlM (fun node child => liftM (node.add child)) parent)
      (· = { parent with elements := parent.elements ++ children }) := by
  induction children generalizing parent with
  | nil => exact builds_pure parent (by cases parent; rw [List.append_nil])
  | cons child children ih =>
    rw [List.forall_mem_cons] at may
    rw [List.foldlM_cons,add_ok parent child may.1]
    have rest := ih { parent with elements := parent.elements ++ [child] } may.2
    rw [List.append_assoc] at rest
    exact rest

end Rules

section Makers

/-- Classes and an animation that stop work, if at all, with a fault of a sort. -/
structure Styled (stops : Fault → Prop) (classes animation : Value) : Prop where
  classes : RefusedBy stops (userClasses classes)
  animation : RefusedBy stops (animationAttributes animation)

variable {classes animation : Value} (styled : Styled stops classes animation)
include styled

theorem Styled.cssClasses (kind : Kind) : RefusedBy stops (cssClasses kind classes animation) :=
  refusedBy_bind _ _ styled.classes fun _ => refusedBy_bind _ _ styled.animation fun _ => refusedBy_ok _

theorem Styled.applyAnimation (settings : Table Value) : RefusedBy stops (applyAnimation settings animation) := by
  refine refusedBy_bind _ _ styled.animation fun attributes => ?_
  split
  · exact refusedBy_ok _
  · exact refusedBy_ok _

/-- A node of a kind that is made from classes, an animation and a new id has nothing below it yet. -/
theorem builds_node (kind : Kind) (given : String → Table Value) (node : Table Value → Value → Node)
    (made : ∀ settings id, (node settings id).kind = kind ∧ (node settings id).elements = []) :
    Builds stops (do
      let css ← liftM (Document.cssClasses kind classes animation)
      let settings ← liftM (Document.applyAnimation (given css) animation)
      return node settings (.str (← newId))) fun node => node.kind = kind ∧ node.elements = [] := by
  refine builds_bind (builds_lift _ (styled.cssClasses kind)) fun css _ => ?_
  refine builds_bind (builds_lift _ (styled.applyAnimation _)) fun settings _ => ?_
  exact builds_bind builds_newId fun id _ => builds_pure _ (made settings (.str id))

theorem builds_section (settings : Table Value) :
    Builds stops (makeSection classes animation settings) fun node => node.kind = .sect ∧ node.elements = [] :=
  builds_node styled .sect _ (fun settings id => ⟨.sect,settings,[],.null,id⟩) fun _ _ => ⟨rfl,rfl⟩

theorem builds_column (size : Value) (settings : Table Value) :
    Builds stops (makeColumn classes animation size settings) fun node => node.kind = .column ∧ node.elements = [] :=
  builds_node styled .column _ (fun settings id => ⟨.column,settings,[],.null,id⟩) fun _ _ => ⟨rfl,rfl⟩

theorem builds_widget (widgetType : Value) (settings : Table Value) :
    Builds stops (makeWidget widgetType classes animation settings) Node.IsWidget :=
  builds_weaken (builds_node styled .widget _
    (fun base id => ⟨.widget,Table.update base settings,[],widgetType,id⟩) fun _ _ => ⟨rfl,rfl⟩)
    fun _ made => ⟨made.1,made.2⟩

end Makers

end Pagewright.Document
