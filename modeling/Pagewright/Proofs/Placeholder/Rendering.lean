import Mathlib.Data.List.Forall2
import Pagewright.Placeholder.Resolve
import Pagewright.Proofs.Document.Codec
import Pagewright.Proofs.Placeholder.AtOnce

/-! Rendering stored documents. A tree is read, the texts in the settings of its widgets are resolved, and the tree is
stored again; what comes out is the tree that went in with other texts, node by node and value by value. -/
namespace Pagewright.Placeholder
open Document
open Fields (FieldSource)

/-- A value with another text in place of each of its texts, at any depth. Keys, the order of fields and items, and all
that is no text stay. -/
inductive Rendered (f : String → String) : Value → Value → Prop
  | text (s : String) : Rendered f (.str s) (.str (f s))
  | list {items items' : List Value} : List.Forall₂ (Rendered f) items items' → Rendered f (.list items) (.list items')
  | object {fields fields' : Table Value} : fields'.keys = fields.keys →
      List.Forall₂ (Rendered f) (fields.map (·.2)) (fields'.map (·.2)) → Rendered f (.object fields) (.object fields')
  | null : Rendered f .null .null
  | bool (b : Bool) : Rendered f (.bool b) (.bool b)
  | int (n : Int) : Rendered f (.int n) (.int n)
  | float (x : Float) : Rendered f (.float x) (.float x)

/-- A tree of the same nodes in the same places, with other texts in the settings of its widgets. -/
inductive RenderedNode (f : String → String) : Node → Node → Prop
  | mk (node node' : Node) : node'.id = node.id → node'.kind = node.kind → node'.widgetType = node.widgetType →
      (node.kind = .widget → Rendered f (.object node.settings) (.object node'.settings)) →
      (node.kind ≠ .widget → node'.settings = node.settings) →
      List.Forall₂ (RenderedNode f) node.elements node'.elements → RenderedNode f node node'

variable (sources : Table FieldSource) (contexts : Contexts) (id : String)

/-- What a resolver that refuses no text makes of each text. -/
def ResolvesTo (f : String → String) : Prop := ∀ text, resolve sources contexts text id = .ok (f text)

section Unfailing

/-- Where no field is refused, no text is. -/
theorem resolve_total (found : Option Context) (known : contexts id = .ok found)
    (answer : ∀ space source field context, sources.get? space = some source → ∃ v, source.value field context = .ok v)
    (text : String) : ∃ resolved, resolve sources contexts text id = .ok resolved := by
  have expands (context : Context) (space : String) (p : Piece) :
      ∃ s, expand (lookup sources context) space p = .ok s := by
    cases p with
    | char c => exact ⟨[c],rfl⟩
    | token t =>
      simp only [expand,beq_iff_eq]
      split
      · obtain ⟨value,looked⟩ := lookup_total sources context t fun source => answer _ source _ _
        rw [looked]
        cases value <;> exact ⟨_,rfl⟩
      · exact ⟨_,rfl⟩
  have passes (context : Context) (order : List String) (s : List Char) :
      ∃ s', order.foldlM (resolveNamespace (lookup sources context)) s = .ok s' := by
    induction order generalizing s with
    | nil => exact ⟨s,rfl⟩
    | cons space order ih =>
      obtain ⟨pass,expanded⟩ := except_mapM_total _ (pieces s) fun p _ => expands context space p
      rw [List.foldlM_cons,resolveNamespace,expanded]
      exact ih _
  unfold resolve resolveWith
  split
  · exact ⟨text,rfl⟩
  · rw [known]
    cases found with
    | none => exact ⟨text,rfl⟩
    | some context =>
      obtain ⟨s,passed⟩ := passes context namespaceOrder text.toList
      refine ⟨String.ofList s,?_⟩
      change (fun s => String.ofList s) <$> resolveIn (lookup sources context) text.toList = _
      rw [resolveIn,passed]
      rfl

theorem resolve_unknown (unknown : contexts id = .ok none) : ResolvesTo sources contexts id fun text => text := by
  intro text
  unfold resolve resolveWith
  split
  · rfl
  · rw [unknown]
    rfl

end Unfailing

section Values

variable {sources contexts id} {f : String → String}

mutual

theorem resolveValue_rendered (resolves : ResolvesTo sources contexts id f) : ∀ v, ∃ v',
    resolveValue sources contexts id v = .ok v' ∧ Rendered f v v' ∧ ((∀ text, f text = text) → v' = v)
  | .null => ⟨_,rfl,.null,fun _ => rfl⟩
  | .bool b => ⟨_,rfl,.bool b,fun _ => rfl⟩
  | .int n => ⟨_,rfl,.int n,fun _ => rfl⟩
  | .float x => ⟨_,rfl,.float x,fun _ => rfl⟩
  | .str s => by
    refine ⟨.str (f s),?_,.text s,fun still => by rw [still]⟩
    rw [resolveValue,resolves]
    rfl
  | .list items => by
    obtain ⟨items',ran,rendered,same⟩ := resolveItems_rendered resolves items
    refine ⟨.list items',?_,.list rendered,fun still => by rw [same still]⟩
    rw [resolveValue,ran]
    rfl
  | .object fields => by
    obtain ⟨fields',ran,rendered,same⟩ := resolveFields_rendered resolves fields
    refine ⟨.object fields',?_,rendered,fun still => by rw [same still]⟩
    rw [resolveValue,ran]
    rfl

theorem resolveItems_rendered (resolves : ResolvesTo sources contexts id f) : ∀ items, ∃ items',
    resolveItems sources contexts id items = .ok items' ∧ List.Forall₂ (Rendered f) items items' ∧
      ((∀ text, f text = text) → items' = items)
  | [] => ⟨[],rfl,.nil,fun _ => rfl⟩
  | v :: rest => by
    obtain ⟨v',one,first,kept⟩ := resolveValue_rendered resolves v
    obtain ⟨rest',ran,rendered,same⟩ := resolveItems_rendered resolves rest
    refine ⟨v' :: rest',?_,.cons first rendered,fun still => by rw [kept still,same still]⟩
    rw [resolveItems,one,ran]
    rfl

theorem resolveFields_rendered (resolves : ResolvesTo sources contexts id f) : ∀ fields, ∃ fields',
    resolveFields sources contexts id fields = .ok fields' ∧ Rendered f (.object fields) (.object fields') ∧
      ((∀ text, f text = text) → fields' = fields)
  | [] => ⟨[],rfl,.object rfl .nil,fun _ => rfl⟩
  | (key,v) :: rest => by
    obtain ⟨v',one,first,kept⟩ := resolveValue_rendered resolves v
    obtain ⟨rest',ran,rendered,same⟩ := resolveFields_rendered resolves rest
    cases rendered with
    | object keys values =>
    refine ⟨(key,v') :: rest',?_,.object (congrArg (key :: ·) keys) (.cons first values),
      fun still => by rw [kept still,same still]⟩
    rw [resolveFields,one,ran]
    rfl

end

mutual

/-- The tree that is resolved is the one that was read, so that types which are not stored have been lost. -/
theorem resolveNode_rendered (resolves : ResolvesTo sources contexts id f) : ∀ node : Node, ∃ node' : Node,
    resolveNode sources contexts id node.stored = .ok node'.stored ∧ RenderedNode f node node' ∧
      ((∀ text, f text = text) → node' = node)
  | ⟨kind,settings,elements,widgetType,number⟩ => by
    obtain ⟨elements',below,nodes,kept⟩ := resolveNodes_rendered resolves elements
    by_cases widget : kind = .widget
    · subst widget
      obtain ⟨settings',ran,rendered,same⟩ := resolveFields_rendered resolves settings
      refine ⟨⟨.widget,settings',elements',widgetType,number⟩,?_,
        .mk _ _ rfl rfl rfl (fun _ => rendered) (fun other => absurd rfl other) nodes,
        fun still => by rw [same still,kept still]⟩
      rw [Node.stored,resolveNode,below,show Kind.widget.isWidget = true from rfl,if_pos rfl,ran]
      rfl
    · refine ⟨⟨kind,settings,elements',widgetType,number⟩,?_,
        .mk _ _ rfl rfl rfl (fun is => absurd is widget) (fun _ => rfl) nodes,fun still => by rw [kept still]⟩
      rw [Node.stored,resolveNode,below,if_neg fun is => widget ((kind_isWidget kind).mp is)]
      rfl

theorem resolveNodes_rendered (resolves : ResolvesTo sources contexts id f) : ∀ nodes : List Node, ∃ nodes' : List Node,
    resolveNodes sources contexts id (storedAll nodes) = .ok (storedAll nodes') ∧
      List.Forall₂ (RenderedNode f) nodes nodes' ∧ ((∀ text, f text = text) → nodes' = nodes)
  | [] => ⟨[],rfl,.nil,fun _ => rfl⟩
  | node :: rest => by
    obtain ⟨node',one,first,kept⟩ := resolveNode_rendered resolves node
    obtain ⟨rest',ran,rendered,same⟩ := resolveNodes_rendered resolves rest
    refine ⟨node' :: rest',?_,.cons first rendered,fun still => by rw [kept still,same still]⟩
    rw [storedAll,resolveNodes,one,ran]
    rfl

end

theorem resolveTrees_rendered (resolves : ResolvesTo sources contexts id f) (trees : List Node) (s : Nat)
    (stored : ∀ tree ∈ trees, tree.Raw ∧ tree.Nested) :
    ∃ trees' : List Node, (resolveTrees sources contexts id (toValues trees)).run.run s = (.ok (toValues trees'),s) ∧
      List.Forall₂ (RenderedNode f) trees trees' ∧ ((∀ text, f text = text) → trees' = trees) := by
  induction trees with
  | nil => exact ⟨[],rfl,.nil,fun _ => rfl⟩
  | cons tree trees ih =>
    rw [List.forall_mem_cons] at stored
    obtain ⟨tree',one,first,kept⟩ := resolveNode_rendered resolves tree
    obtain ⟨trees',ran,rendered,same⟩ := ih stored.2
    have read : (Node.read tree.toValue).run.run s = (.ok tree.stored,s) :=
      readWithin_stored _ tree stored.1.1 stored.1.2 (Nat.le_refl _) s
    refine ⟨tree' :: trees',?_,.cons first rendered,fun still => by rw [kept still,same still]⟩
    unfold resolveTrees at ran ⊢
    rw [toValues,List.mapM_cons,bind_assoc,run_bind,read]
    dsimp only
    rw [one,toValues,← toValue_stored tree']
    change ((do
      let rest ← (toValues trees).mapM _
      pure (tree'.stored.toValue :: rest) : Build (List Value)).run.run s) = _
    rw [run_bind,ran]
    rfl

end Values

/-- Rendering stored trees with a resolver that refuses no text draws no id and gives the trees as they were but for the
texts in the settings of widgets, which are resolved. For an item that is not known nothing changes at all. -/
theorem rendering_changes_widget_texts (trees : List Node) (s : Nat)
    (stored : ∀ tree ∈ trees, tree.Raw ∧ tree.Nested) :
    (∀ f, ResolvesTo sources contexts id f → ∃ trees' : List Node,
      (resolveTrees sources contexts id (toValues trees)).run.run s = (.ok (toValues trees'),s) ∧
        List.Forall₂ (RenderedNode f) trees trees') ∧
    (contexts id = .ok none →
      (resolveTrees sources contexts id (toValues trees)).run.run s = (.ok (toValues trees),s)) := by
  constructor
  · intro f resolves
    obtain ⟨trees',ran,rendered,_⟩ := resolveTrees_rendered resolves trees s stored
    exact ⟨trees',ran,rendered⟩
  · intro unknown
    obtain ⟨trees',ran,_,same⟩ := resolveTrees_rendered (resolve_unknown sources contexts id unknown) trees s stored
    rw [same fun _ => rfl] at ran
    exact ran

/-- A tree with placeholders in a column and, at several depths, in a widget. -/
def bylined : Node :=
  ⟨.sect,[],
    [⟨.column,[("css_classes",.str "\x7b\x7bpost.title\x7d\x7d")],
      [⟨.widget,[("title",.str "\x7b\x7bpost.title\x7d\x7d!"),
        ("items",.list [.int 7,.object [("term",.str "\x7b\x7btaxonomy.category\x7d\x7d")]])],
        [],.str "heading",.str "w"⟩],
      .null,.str "c"⟩],.null,.str "s"⟩

theorem bylined_stored : ∀ tree ∈ [bylined], tree.Raw ∧ tree.Nested := by
  intro tree among
  obtain rfl := List.mem_singleton.mp among
  refine ⟨.mk _ "section" rfl (by decide) fun column among => ?_,?_⟩
  · obtain rfl := List.mem_singleton.mp among
    refine .mk _ "column" rfl (by decide) fun widget inside => ?_
    obtain rfl := List.mem_singleton.mp inside
    exact .mk _ "widget" rfl (by decide) nofun
  · exact ((isSection_iff _).mp ((validate_ok_iff [bylined]).mp rfl _ (List.mem_singleton_self _))).2

theorem bylined_rendered : ∃ (f : String → String) (trees' : List Node),
    ResolvesTo [] (fun _ => .ok (some samplePost)) "42" f ∧
    f "\x7b\x7bpost.title\x7d\x7d!" = "Hello!" ∧ f "\x7b\x7btaxonomy.category\x7d\x7d" = "News, Tech" ∧
    (resolveTrees [] (fun _ => .ok (some samplePost)) "42" (toValues [bylined])).run.run 6 =
      (.ok (toValues trees'),6) ∧
    List.Forall₂ (RenderedNode f) [bylined] trees' := by
  choose f resolves using resolve_total [] (fun _ => .ok (some samplePost)) "42" _ rfl nofun
  obtain ⟨trees',ran,rendered⟩ := (rendering_changes_widget_texts [] (fun _ => .ok (some samplePost)) "42" [bylined] 6
    bylined_stored).1 f resolves
  have reads (text value : String)
      (resolved : (resolve [] (fun _ => .ok (some samplePost)) text "42").toOption = some value) : f text = value := by
    rw [resolves] at resolved
    exact Option.some.inj resolved
  exact ⟨f,trees',resolves,reads _ _ (by decide +kernel),reads _ _ (by decide +kernel),ran,rendered⟩

end Pagewright.Placeholder
