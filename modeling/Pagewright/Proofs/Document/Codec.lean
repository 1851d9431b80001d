import Pagewright.Proofs.Document.Building
import Pagewright.Proofs.Value

/-! Reading a tree back from its stored form. The reader adds the children of a node one by one, so that it goes
through exactly if every edge of the tree is allowed, and what it makes is stored in the same form again. -/
namespace Pagewright.Document

/-- A tree as it comes from outside: every node has a kind that is named by a text and an id. -/
inductive Node.Raw : Node → Prop
  | mk (node : Node) (name : String) : node.kind = .ofValue (.str name) → node.id.isTruthy = true →
      (∀ child ∈ node.elements, child.Raw) → node.Raw

theorem toValues_eq (nodes : List Node) : toValues nodes = nodes.map Node.toValue := by
  induction nodes with
  | nil => rfl
  | cons node nodes ih => rw [toValues,List.map_cons,ih]

/-- The fields of a stored node. -/
def Node.fields (node : Node) : Table Value :=
  [("id",node.id),("elType",node.kind.toValue)] ++ (if node.kind.isWidget then [("widgetType",node.widgetType)] else [])
    ++ [("settings",.object node.settings),("elements",.list (node.elements.map Node.toValue))]

theorem toValue_eq (node : Node) : node.toValue = .object node.fields := by
  obtain ⟨kind,settings,elements,widgetType,id⟩ := node
  rw [Node.toValue,toValues_eq]
  rfl

theorem ofValue_toValue (name : String) : (Kind.ofValue (.str name)).toValue = .str name := by
  unfold Kind.ofValue
  split <;> simp_all [Kind.toValue]

/-- A node without what is below it, with the type that its stored form keeps. -/
def Node.bare (node : Node) : Node :=
  { node with elements := [], widgetType := if node.kind.isWidget then node.widgetType else .null }

mutual

/-- A tree as it is read back: the types of widgets are stored, those of other nodes are not. -/
def Node.stored : Node → Node
  | ⟨kind,settings,elements,widgetType,id⟩ =>
    ⟨kind,settings,storedAll elements,if kind.isWidget then widgetType else .null,id⟩

def storedAll : List Node → List Node
  | [] => []
  | node :: rest => node.stored :: storedAll rest

end

theorem storedAll_eq (nodes : List Node) : storedAll nodes = nodes.map Node.stored := by
  induction nodes with
  | nil => rfl
  | cons node nodes ih => rw [storedAll,List.map_cons,ih]

theorem stored_eq (node : Node) : node.stored = { node.bare with elements := node.elements.map Node.stored } := by
  obtain ⟨kind,settings,elements,widgetType,id⟩ := node
  rw [Node.stored,storedAll_eq]
  rfl

mutual

theorem toValue_stored : ∀ node : Node, node.stored.toValue = node.toValue
  | ⟨kind,settings,elements,widgetType,id⟩ => by
    rw [Node.stored,Node.toValue,Node.toValue,toValues_stored elements]
    cases kind <;> rfl

theorem toValues_stored : ∀ nodes : List Node, toValues (storedAll nodes) = toValues nodes
  | [] => rfl
  | node :: rest => by rw [storedAll,toValues,toValues,toValue_stored node,toValues_stored rest]

end

/-- Adding the nodes that are read from stored forms one by one. -/
def addRead (fuel : Nat) (children : List Value) (node : Node) : Build Node :=
  children.foldlM (fun node child => do node.add (← Node.readWithin fuel child)) node

theorem settingsOf_object (settings : Table Value) : settingsOf (.object settings) = .ok settings := by
  have given : (Value.object settings).orElse (.object []) = .object settings := by cases settings <;> rfl
  have fields : (Value.object settings).toFields = .ok settings := by
    change Except.ok ((settings.map fun field => (Value.str field.1,field.2)).map
      fun field => (field.1.keyText,field.2)) = _
    rw [List.map_map]
    exact congrArg Except.ok (List.map_id _)
  rw [settingsOf,given,fields]

theorem items_elements (children : List Value) : ((Value.list children).orElse (.list [])).items = .ok children := by
  cases children <;> rfl

theorem readWithin_toValue (fuel : Nat) (node : Node) (raw : node.Raw) :
    Node.readWithin (fuel + 1) node.toValue = addRead fuel (node.elements.map Node.toValue) node.bare := by
  obtain ⟨_,name,kind,id,_⟩ := raw
  have widgetType : (node.fields.get? "widgetType").getD .null = node.bare.widgetType := by
    unfold Node.fields Node.bare
    cases node.kind.isWidget <;> rfl
  have settings : (node.fields.get? "settings").getD .null = .object node.settings := by
    unfold Node.fields
    cases node.kind.isWidget <;> rfl
  have elements : (node.fields.get? "elements").getD .null = .list (node.elements.map Node.toValue) := by
    unfold Node.fields
    cases node.kind.isWidget <;> rfl
  have given : (node.fields.get? "id").getD .null = node.id := rfl
  have named : Kind.ofValue node.kind.toValue = node.kind := by rw [kind,ofValue_toValue]
  have stored : node.toValue.member "elType" = .ok node.kind.toValue := by rw [toValue_eq]; rfl
  have read : node.toValue.fieldsFor "get" = .ok node.fields := by rw [toValue_eq]; rfl
  rw [Node.readWithin,stored,read,lift_bind,lift_bind]
  simp only [widgetType,settings,elements,given,named,id,settingsOf_object,items_elements,lift_bind,if_true,pure_bind]
  rfl

theorem depth_child (node child : Node) (member : child ∈ node.elements) :
    child.toValue.depth + 1 ≤ node.toValue.depth := by
  have inside : ("elements",Value.list (node.elements.map Node.toValue)) ∈ node.fields := by simp [Node.fields]
  have item := depth_item _ _ (List.mem_map_of_mem (f := Node.toValue) member)
  have field := depth_field _ _ _ inside
  rw [Value.depth] at field
  rw [toValue_eq node,Value.depth]
  omega

/-- What reading the stored form of a node gives: the node as it was where every edge is allowed, else a refusal. -/
structure ReadsBack (fuel : Nat) (node : Node) (s : Nat) : Prop where
  accepted : node.Nested → ∃ read, (Node.readWithin fuel node.toValue).run.run s = (.ok read,s) ∧
    read.kind = node.kind ∧ read.toValue = node.toValue
  refused : ¬ node.Nested → ∃ failure s', (Node.readWithin fuel node.toValue).run.run s = (.error failure,s')

section Adding

variable (fuel s : Nat) (start : Node)

theorem addRead_next (child : Node) (rest : List Value) (back : ReadsBack fuel child s) (nested : child.Nested)
    (may : MayHold start.kind child.kind) : ∃ read : Node, read.toValue = child.toValue ∧
      (addRead fuel (child.toValue :: rest) start).run.run s =
        (addRead fuel rest { start with elements := start.elements ++ [read] }).run.run s := by
  obtain ⟨read,ran,kind,same⟩ := back.accepted nested
  refine ⟨read,same,?_⟩
  rw [addRead,List.foldlM_cons,bind_assoc,run_bind,ran]
  simp only []
  rw [add_ok start read (kind ▸ may)]
  rfl

theorem addRead_stopped (child : Node) (rest : List Value) (back : ReadsBack fuel child s)
    (bad : ¬ (MayHold start.kind child.kind ∧ child.Nested)) :
    ∃ failure s', (addRead fuel (child.toValue :: rest) start).run.run s = (.error failure,s') := by
  rw [addRead,List.foldlM_cons,bind_assoc,run_bind]
  by_cases nested : child.Nested
  · obtain ⟨read,ran,kind,_⟩ := back.accepted nested
    obtain ⟨fault,refused⟩ := add_refused start read fun may => bad ⟨kind ▸ may,nested⟩
    rw [ran]
    simp only []
    rw [refused]
    exact ⟨_,_,rfl⟩
  · obtain ⟨failure,s',ran⟩ := back.refused nested
    rw [ran]
    exact ⟨_,_,rfl⟩

theorem addRead_stored (children : List Node) (edges : ∀ child ∈ children, MayHold start.kind child.kind)
    (back : ∀ child ∈ children, (Node.readWithin fuel child.toValue).run.run s = (.ok child.stored,s)) :
    (addRead fuel (children.map Node.toValue) start).run.run s =
      (.ok { start with elements := start.elements ++ children.map Node.stored },s) := by
  induction children generalizing start with
  | nil =>
    cases start
    rw [addRead,List.map_nil,List.foldlM_nil,List.map_nil,List.append_nil]
    rfl
  | cons child children ih =>
    rw [List.forall_mem_cons] at back edges
    have may : MayHold start.kind child.stored.kind := by
      rw [stored_eq]
      exact edges.1
    have rest := ih { start with elements := start.elements ++ [child.stored] } edges.2 back.2
    rw [List.append_assoc] at rest
    rw [List.map_cons,addRead,List.foldlM_cons,bind_assoc,run_bind,back.1]
    simp only []
    rw [add_ok start child.stored may]
    exact rest

theorem addRead_refused (children : List Node) (back : ∀ child ∈ children, ReadsBack fuel child s)
    (bad : ¬ ∀ child ∈ children, MayHold start.kind child.kind ∧ child.Nested) :
    ∃ failure s', (addRead fuel (children.map Node.toValue) start).run.run s = (.error failure,s') := by
  induction children generalizing start with
  | nil => exact absurd (fun _ member => nomatch member) bad
  | cons child children ih =>
    rw [List.forall_mem_cons] at back bad
    by_cases good : MayHold start.kind child.kind ∧ child.Nested
    · obtain ⟨read,_,ran⟩ := addRead_next fuel s start child (children.map Node.toValue) back.1 good.2 good.1
      rw [List.map_cons,ran]
      exact ih _ back.2 fun others => bad ⟨good,others⟩
    · exact addRead_stopped fuel s start child _ back.1 good

end Adding

theorem Node.nested_iff (node : Node) :
    node.Nested ↔ ∀ child ∈ node.elements, MayHold node.kind child.kind ∧ child.Nested :=
  ⟨fun ⟨_,edges,nested⟩ child member => ⟨edges child member,nested child member⟩,
    fun both => .mk node (fun child member => (both child member).1) fun child member => (both child member).2⟩

/-- Reading the stored form of a tree of allowed edges draws no id and loses what is not stored, nothing else. -/
theorem readWithin_stored (fuel : Nat) (node : Node) (raw : node.Raw) (nested : node.Nested)
    (deep : node.toValue.depth ≤ fuel) (s : Nat) : (Node.readWithin fuel node.toValue).run.run s = (.ok node.stored,s) := by
  induction fuel generalizing node with
  | zero =>
    rw [toValue_eq,Value.depth] at deep
    omega
  | succ fuel ih =>
    obtain ⟨_,_,_,_,below⟩ := id raw
    obtain ⟨_,edges,children⟩ := nested
    rw [readWithin_toValue fuel node raw,addRead_stored fuel s node.bare node.elements edges fun child member =>
      ih child (below child member) (children child member) (by have := depth_child node child member; omega),stored_eq]
    rfl

theorem reads_back (fuel : Nat) (node : Node) (raw : node.Raw) (deep : node.toValue.depth ≤ fuel) (s : Nat) :
    ReadsBack fuel node s := by
  induction fuel generalizing node with
  | zero =>
    rw [toValue_eq,Value.depth] at deep
    omega
  | succ fuel ih =>
    obtain ⟨_,_,_,_,below⟩ := id raw
    have back : ∀ child ∈ node.elements, ReadsBack fuel child s := fun child member =>
      ih child (below child member) (by have := depth_child node child member; omega)
    constructor
    · intro nested
      refine ⟨node.stored,readWithin_stored (fuel + 1) node raw nested deep s,?_,toValue_stored node⟩
      rw [stored_eq]
      rfl
    · intro unnested
      rw [readWithin_toValue fuel node raw]
      exact addRead_refused fuel s node.bare node.elements back fun both => unnested (node.nested_iff.mpr both)

/-- A tree from outside is a document exactly if it is a section and its stored form can be read, and what is read
has the same stored form and draws no ids. -/
theorem document_iff_readable (node : Node) (raw : node.Raw) (s : Nat) :
    (validate [node] = .ok () ↔
      node.kind = .sect ∧ ∃ read s', (Node.read node.toValue).run.run s = (.ok read,s')) ∧
    ∀ read s', (Node.read node.toValue).run.run s = (.ok read,s') → read.toValue = node.toValue ∧ s' = s := by
  have back := reads_back _ node raw (Nat.le_refl _) s
  have readable : (∃ read s', (Node.read node.toValue).run.run s = (.ok read,s')) ↔ node.Nested := by
    constructor
    · intro ⟨read,s',ran⟩
      by_cases nested : node.Nested
      · exact nested
      · obtain ⟨failure,s'',failed⟩ := back.refused nested
        cases ran.symm.trans failed
    · intro nested
      obtain ⟨read,ran,_,_⟩ := back.accepted nested
      exact ⟨read,s,ran⟩
  constructor
  · rw [validate_ok_iff,List.forall_mem_singleton,isSection_iff,readable]
  · intro read s' ran
    obtain ⟨other,again,_,same⟩ := back.accepted (readable.mp ⟨read,s',ran⟩)
    cases ran.symm.trans again
    exact ⟨same,rfl⟩

/-- A heading in a column in a section. -/
def headed : Node :=
  ⟨.sect,[("layout",.str "boxed")],
    [⟨.column,[("_column_size",.int 100)],[⟨.widget,[("title",.str "Pricing")],[],.str "heading",.str "w"⟩],
      .null,.str "c"⟩],.null,.str "s"⟩

theorem headed_raw : headed.Raw := by
  refine .mk _ "section" rfl (by decide) fun column among => ?_
  obtain rfl := List.mem_singleton.mp among
  refine .mk _ "column" rfl (by decide) fun widget inside => ?_
  obtain rfl := List.mem_singleton.mp inside
  exact .mk _ "widget" rfl (by decide) nofun

theorem headed_readable : headed.Raw ∧ validate [headed] = .ok () ∧
    ∃ read, (Node.read headed.toValue).run.run 6 = (.ok read,6) ∧ read.toValue = headed.toValue := by
  have both := document_iff_readable headed headed_raw 6
  obtain ⟨_,read,s',ran⟩ := both.1.mp rfl
  obtain ⟨same,rfl⟩ := both.2 read s' ran
  exact ⟨headed_raw,rfl,read,ran,same⟩

end Pagewright.Document
