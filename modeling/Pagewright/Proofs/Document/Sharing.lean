import Mathlib.Data.List.Forall2
import Mathlib.Logic.Relation
import Pagewright.Document.Pool
import Pagewright.Proofs.Document.Building

/-! Documents whose nodes are shared. Every node is made without children and every edge is checked when it is drawn,
so that edges lead down from sections to columns and from columns to widgets however often a node is used and in
whatever order. That bounds every way down by three nodes, which is why nothing is below itself and why walks end. -/
namespace Pagewright.Document

/-- How many levels of nodes there may be below a node of a kind. -/
def Kind.height : Kind → Nat
  | .sect => 2
  | .column => 1
  | _ => 0

theorem MayHold.height {above below : Kind} (may : MayHold above below) : below.height < above.height := by
  cases may <;> decide

namespace Pool

/-- One call on a pool: a new node, or one more child for a node. -/
inductive Call where
  | makeSection (classes animation : Value) (settings : Table Value)
  | makeColumn (classes animation size : Value) (settings : Table Value)
  | makeWidget (widgetType classes animation : Value) (settings : Table Value)
  | add (parent child : Nat)

def Call.perform (pool : Pool) : Call → Build Pool
  | .makeSection classes animation settings => pool.insert <$> Document.makeSection classes animation settings
  | .makeColumn classes animation size settings => pool.insert <$> Document.makeColumn classes animation size settings
  | .makeWidget widgetType classes animation settings =>
    pool.insert <$> Document.makeWidget widgetType classes animation settings
  | .add parent child => liftM (pool.add parent child)

/-- The pool and the number of drawn ids after a call. Ids stay drawn when a call fails. -/
def after (state : Pool × Nat) (call : Call) : Pool × Nat :=
  match (call.perform state.1).run.run state.2 with
  | (.ok pool,drawn) => (pool,drawn)
  | (.error _,drawn) => (state.1,drawn)

/-- The pool after a run of calls that starts with no nodes. -/
def run (calls : List Call) : Pool × Nat := calls.foldl after ([],0)

variable (pool : Pool)

/-- A node has another one as a child. -/
def Edge (above below : Nat) : Prop := ∃ node : SharedNode, pool[above]? = some node ∧ below ∈ node.children

/-- Every edge leads to a node of the pool and is one that is allowed. -/
def WellNested : Prop := ∀ (number : Nat) (node : SharedNode), pool[number]? = some node → ∀ child ∈ node.children,
  ∃ below : SharedNode, pool[child]? = some below ∧ MayHold node.kind below.kind

theorem add_ok_iff (pool' : Pool) (parent child : Nat) : pool.add parent child = .ok pool' ↔
    ∃ above below : SharedNode, pool[parent]? = some above ∧ pool[child]? = some below ∧ MayHold above.kind below.kind ∧
      pool' = pool.set parent { above with children := above.children ++ [child] } := by
  unfold add node
  cases pool[parent]? with
  | none => exact ⟨nofun,fun ⟨_,_,absent,_⟩ => nomatch absent⟩
  | some above =>
    cases pool[child]? with
    | none => exact ⟨nofun,fun ⟨_,_,_,absent,_⟩ => nomatch absent⟩
    | some below =>
      change (checkNesting above.kind below.kind >>= fun _ => _) = Except.ok pool' ↔ _
      constructor
      · intro ok
        obtain ⟨_,may,ok⟩ := except_bind_success _ _ _ ok
        exact ⟨above,below,rfl,rfl,(checkNesting_ok_iff _ _).mp may,(Except.ok.inj ok).symm⟩
      · rintro ⟨_,_,⟨⟩,⟨⟩,may,rfl⟩
        rw [(checkNesting_ok_iff _ _).mpr may]
        rfl

theorem after_add (drawn parent child : Nat) : after (pool,drawn) (.add parent child) =
    match pool.add parent child with
    | .ok pool' => (pool',drawn)
    | .error _ => (pool,drawn) := by
  change (match (liftM (pool.add parent child) : Build Pool).run.run drawn with
    | (.ok pool',drawn) => (pool',drawn)
    | (.error _,drawn) => (pool,drawn)) = _
  cases pool.add parent child <;> rfl

theorem insert_leaf (node : Node) (bare : node.elements = []) :
    pool.insert node = pool ++ [⟨node.kind,node.settings,[],node.widgetType,node.id⟩] := by
  obtain ⟨kind,settings,elements,widgetType,id⟩ := node
  cases bare
  unfold insert
  simp only [flatten,flattenAll,List.append_nil]

section Steps

theorem styled_any (classes animation : Value) : Styled (fun _ => True) classes animation :=
  ⟨fun _ _ => trivial,fun _ _ => trivial⟩

/-- What a call does to the nodes: nothing, one more node without children, or one more child of a node. -/
theorem after_cases (drawn : Nat) (call : Call) :
    (after (pool,drawn) call).1 = pool ∨
      (∃ node : SharedNode, node.children = [] ∧ (after (pool,drawn) call).1 = pool ++ [node]) ∨
      ∃ parent child, pool.add parent child = .ok (after (pool,drawn) call).1 := by
  have made (work : Build Node) (bare : Builds (fun _ => True) work fun node => node.elements = [])
      (performed : call.perform pool = pool.insert <$> work) : (after (pool,drawn) call).1 = pool ∨
        ∃ node : SharedNode, node.children = [] ∧ (after (pool,drawn) call).1 = pool ++ [node] := by
    have inserted : Builds (fun _ => True) (call.perform pool) fun pool' =>
        ∃ node : SharedNode, node.children = [] ∧ pool' = pool ++ [node] := by
      rw [performed]
      exact builds_map bare fun node bare => ⟨_,rfl,insert_leaf pool node bare⟩
    unfold after
    obtain ⟨pool',s',ran,node,leaf,same⟩ | ⟨fault,s',ran,_⟩ := inserted drawn
    · rw [ran]
      exact .inr ⟨node,leaf,same⟩
    · rw [ran]
      exact .inl rfl
  cases call with
  | makeSection classes animation settings =>
    have bare := builds_weaken (builds_section (styled_any classes animation) settings) fun _ made => made.2
    exact (made _ bare rfl).imp_right .inl
  | makeColumn classes animation size settings =>
    have bare := builds_weaken (builds_column (styled_any classes animation) size settings) fun _ made => made.2
    exact (made _ bare rfl).imp_right .inl
  | makeWidget widgetType classes animation settings =>
    have bare := builds_weaken (builds_widget (styled_any classes animation) widgetType settings) fun _ made =>
      made.elements
    exact (made _ bare rfl).imp_right .inl
  | add parent child =>
    rw [after_add]
    cases added : pool.add parent child with
    | error fault => exact .inl rfl
    | ok pool' => exact .inr (.inr ⟨parent,child,added⟩)

variable {pool}

theorem wellNested_leaf (nested : pool.WellNested) (leaf : SharedNode) (bare : leaf.children = []) :
    WellNested (pool ++ [leaf]) := by
  unfold WellNested
  intro number node here child among
  have old : pool[number]? = some node := by
    rw [List.getElem?_append] at here
    split at here
    · exact here
    · obtain rfl := List.mem_singleton.mp (List.mem_of_getElem? here)
      rw [bare] at among
      cases among
  obtain ⟨below,found,may⟩ := nested number node old child among
  refine ⟨below,?_,may⟩
  rw [List.getElem?_append_left (List.getElem?_eq_some_iff.mp found).1,found]

/-- No node changes its kind when one gets another child, so that the edges which were allowed stay so. -/
theorem wellNested_add (nested : pool.WellNested) (pool' : Pool) (parent child : Nat)
    (added : pool.add parent child = .ok pool') : pool'.WellNested := by
  obtain ⟨above,below,here,there,may,rfl⟩ := (add_ok_iff _ _ _ _).mp added
  have inside := (List.getElem?_eq_some_iff.mp here).1
  have lasting (kind : Kind) (number : Nat)
      (old : ∃ node : SharedNode, pool[number]? = some node ∧ MayHold kind node.kind) :
      ∃ node : SharedNode, (pool.set parent { above with children := above.children ++ [child] })[number]? = some node ∧
        MayHold kind node.kind := by
    obtain ⟨node,found,allowed⟩ := old
    by_cases same : parent = number
    · subst same
      cases here.symm.trans found
      exact ⟨_,List.getElem?_set_self inside,allowed⟩
    · exact ⟨node,by rw [List.getElem?_set_ne same,found],allowed⟩
  unfold WellNested
  intro number node found member among
  by_cases same : parent = number
  · subst same
    rw [List.getElem?_set_self inside] at found
    cases found
    refine lasting _ _ ?_
    rcases List.mem_append.mp among with old | new
    · exact nested parent above here member old
    · rw [List.mem_singleton.mp new]
      exact ⟨below,there,may⟩
  · rw [List.getElem?_set_ne same] at found
    exact lasting _ _ (nested number node found member among)

theorem wellNested_after (nested : pool.WellNested) (drawn : Nat) (call : Call) :
    WellNested (after (pool,drawn) call).1 := by
  obtain same | ⟨leaf,bare,same⟩ | ⟨parent,child,added⟩ := after_cases pool drawn call
  · rw [same]
    exact nested
  · rw [same]
    exact wellNested_leaf nested leaf bare
  · exact wellNested_add nested _ parent child added

end Steps

theorem wellNested_run (calls : List Call) : (run calls).1.WellNested := by
  have from_any (state : Pool × Nat) (nested : state.1.WellNested) : (calls.foldl after state).1.WellNested := by
    induction calls generalizing state with
    | nil => exact nested
    | cons call calls ih => exact ih (after state call) (wellNested_after nested state.2 call)
  exact from_any ([],0) nofun

section Descent

variable {pool}

theorem lower_transGen (nested : pool.WellNested) (above below : Nat) (way : Relation.TransGen pool.Edge above below) :
    ∃ node child : SharedNode, pool[above]? = some node ∧ pool[below]? = some child ∧
      child.kind.height < node.kind.height := by
  induction way with
  | single edge =>
    obtain ⟨node,found,among⟩ := edge
    obtain ⟨child,there,may⟩ := nested above node found _ among
    exact ⟨node,child,found,there,may.height⟩
  | tail _ edge ih =>
    obtain ⟨node,middle,found,between,lower⟩ := ih
    obtain ⟨same,here,among⟩ := edge
    cases between.symm.trans here
    obtain ⟨child,there,may⟩ := nested _ middle between _ among
    exact ⟨node,child,found,there,Nat.lt_trans may.height lower⟩

theorem not_below_itself (nested : pool.WellNested) (number : Nat) : ¬ Relation.TransGen pool.Edge number number := by
  intro way
  obtain ⟨node,child,found,there,lower⟩ := lower_transGen nested number number way
  cases found.symm.trans there
  exact Nat.lt_irrefl _ lower

section Levels

variable (levels number : Nat) (node : SharedNode) (found : pool[number]? = some node)
include found

theorem unfoldWithin_node : pool.unfoldWithin (levels + 1) number =
    (do return node.withElements (← node.children.mapM (pool.unfoldWithin levels))) := by
  rw [unfoldWithin,Pool.node,found]
  rfl

theorem outline_node : pool.outline (levels + 1) number =
    (do return node.withElements (← node.children.mapM (pool.outline levels))) := by
  rw [outline,Pool.node,found]
  rfl

theorem outline_top : pool.outline 0 number = .ok (node.withElements []) := by
  rw [outline,Pool.node,found]
  rfl

end Levels

/-- A node unfolds into a tree however many levels are allowed, from a number of them on. -/
def Unfolds (pool : Pool) (height : Nat) (number : Nat) (tree : Node) : Prop :=
  ∀ levels, height ≤ levels → pool.unfoldWithin (levels + 1) number = .ok tree ∧ pool.outline levels number = .ok tree

theorem unfolds_all (holds : Node → Prop) (height : Nat) (numbers : List Nat)
    (each : ∀ number ∈ numbers, ∃ tree, holds tree ∧ pool.Unfolds height number tree) :
    ∃ trees : List Node, (∀ tree ∈ trees, holds tree) ∧ ∀ levels, height ≤ levels →
      numbers.mapM (pool.unfoldWithin (levels + 1)) = .ok trees ∧ numbers.mapM (pool.outline levels) = .ok trees := by
  induction numbers with
  | nil => exact ⟨[],nofun,fun _ _ => ⟨rfl,rfl⟩⟩
  | cons number numbers ih =>
    rw [List.forall_mem_cons] at each
    obtain ⟨tree,good,one⟩ := each.1
    obtain ⟨trees,others,rest⟩ := ih each.2
    refine ⟨tree :: trees,List.forall_mem_cons.mpr ⟨good,others⟩,fun levels enough => ?_⟩
    obtain ⟨first,second⟩ := one levels enough
    obtain ⟨firsts,seconds⟩ := rest levels enough
    rw [List.mapM_cons,List.mapM_cons,first,second,firsts,seconds]
    exact ⟨rfl,rfl⟩

/-- The way down from a node ends by itself, after as many levels as its kind has below it. -/
theorem unfolds_node (nested : pool.WellNested) (height number : Nat) (node : SharedNode)
    (found : pool[number]? = some node) (low : node.children ≠ [] → node.kind.height ≤ height) :
    ∃ tree, (tree.kind = node.kind ∧ tree.Nested) ∧ pool.Unfolds height number tree := by
  induction height generalizing number node with
  | zero =>
    have bare : node.children = [] := by
      by_contra filled
      obtain ⟨child,among⟩ := List.exists_mem_of_ne_nil _ filled
      obtain ⟨below,_,may⟩ := nested number node found child among
      have := may.height
      have := low filled
      omega
    refine ⟨node.withElements [],⟨rfl,.mk _ nofun nofun⟩,fun levels _ => ?_⟩
    rw [unfoldWithin_node levels number node found,bare]
    cases levels with
    | zero => exact ⟨rfl,outline_top number node found⟩
    | succ levels =>
      rw [outline_node levels number node found,bare]
      exact ⟨rfl,rfl⟩
  | succ height ih =>
    have each : ∀ child ∈ node.children, ∃ tree, (MayHold node.kind tree.kind ∧ tree.Nested) ∧
        pool.Unfolds height child tree := by
      intro child among
      obtain ⟨below,there,may⟩ := nested number node found child among
      have low := low (List.ne_nil_of_mem among)
      have lower := may.height
      obtain ⟨tree,⟨kind,good⟩,unfolds⟩ := ih child below there fun _ => by omega
      exact ⟨tree,⟨kind ▸ may,good⟩,unfolds⟩
    obtain ⟨trees,good,all⟩ := unfolds_all _ height node.children each
    refine ⟨node.withElements trees,⟨rfl,.mk _ (fun tree among => (good tree among).1)
      fun tree among => (good tree among).2⟩,fun levels enough => ?_⟩
    obtain ⟨levels,rfl⟩ : ∃ fewer, levels = fewer + 1 := ⟨levels - 1,by omega⟩
    obtain ⟨unfolded,outlined⟩ := all levels (by omega)
    rw [unfoldWithin_node _ number node found,outline_node _ number node found,unfolded,outlined]
    exact ⟨rfl,rfl⟩

theorem walk_ends (nested : pool.WellNested) (number : Nat) (inside : number < pool.length) :
    ∃ tree, pool.unfold number = .ok tree ∧ ∀ fuel, 3 ≤ fuel → pool.unfoldWithin fuel number = .ok tree := by
  have found : pool[number]? = some pool[number] := List.getElem?_eq_getElem inside
  -- a node with something below it is not the only one of the pool, which is why the fuel of `unfold` is enough
  obtain ⟨height,low,few,short⟩ : ∃ height, (pool[number].children ≠ [] → pool[number].kind.height ≤ height) ∧
      height ≤ pool.length ∧ height ≤ 2 := by
    have bound : pool[number].kind.height ≤ 2 := by cases pool[number].kind <;> simp [Kind.height]
    by_cases bare : pool[number].children = []
    · exact ⟨0,fun filled => absurd bare filled,by omega,by omega⟩
    · obtain ⟨child,among⟩ := List.exists_mem_of_ne_nil _ bare
      have other : child ≠ number := by
        rintro rfl
        exact not_below_itself nested child (.single ⟨_,found,among⟩)
      obtain ⟨_,there,_⟩ := nested number _ found child among
      have beside := (List.getElem?_eq_some_iff.mp there).1
      exact ⟨_,fun _ => Nat.le_refl _,by omega,bound⟩
  obtain ⟨tree,_,unfolds⟩ := unfolds_node nested height number _ found low
  refine ⟨tree,(unfolds pool.length few).1,fun fuel enough => ?_⟩
  obtain ⟨levels,rfl⟩ : ∃ levels, fuel = levels + 1 := ⟨fuel - 1,by omega⟩
  exact (unfolds levels (by omega)).1

theorem sections_valid (nested : pool.WellNested) (sections : List Nat)
    (are : ∀ number ∈ sections, ∃ node : SharedNode, pool[number]? = some node ∧ node.kind = .sect) :
    pool.validateAt sections = .ok () := by
  have each : ∀ number ∈ sections, ∃ tree, Node.IsSection tree ∧ pool.Unfolds 2 number tree := by
    intro number among
    obtain ⟨node,found,kind⟩ := are number among
    obtain ⟨tree,⟨same,below⟩,unfolds⟩ := unfolds_node nested 2 number node found fun _ => by rw [kind]; decide
    exact ⟨tree,(isSection_iff tree).mpr ⟨same.trans kind,below⟩,unfolds⟩
  obtain ⟨trees,good,all⟩ := unfolds_all Node.IsSection 2 sections each
  unfold validateAt
  rw [(all 3 (by decide)).2]
  exact (validate_ok_iff trees).mpr good

end Descent

/-- One node has one more child at the end, and all others are as they were. -/
structure OneMore (pool' : Pool) (parent child : Nat) : Prop where
  grown : ∃ node : SharedNode, pool[parent]? = some node ∧
    pool'[parent]? = some { node with children := node.children ++ [child] }
  kept : ∀ other, other ≠ parent → pool'[other]? = pool[other]?

theorem add_oneMore (pool' : Pool) (parent child : Nat) (added : pool.add parent child = .ok pool') :
    pool.OneMore pool' parent child := by
  obtain ⟨above,_,here,_,_,rfl⟩ := (add_ok_iff _ _ _ _).mp added
  exact ⟨⟨above,here,List.getElem?_set_self (List.getElem?_eq_some_iff.mp here).1⟩,
    fun other elsewhere => List.getElem?_set_ne elsewhere.symm⟩

/-- After any run of calls, an add changes nothing or gives one node one more child, all edges are allowed, nothing is
below itself, the walk from every node ends by itself, and sections of the pool are a document. -/
theorem sharing_keeps_documents (calls : List Call) : ∃ pool drawn, run calls = (pool,drawn) ∧
    (∀ parent child,
      (∃ fault, pool.add parent child = .error fault ∧ after (pool,drawn) (.add parent child) = (pool,drawn)) ∨
      ∃ pool', pool.add parent child = .ok pool' ∧ after (pool,drawn) (.add parent child) = (pool',drawn) ∧
        pool.OneMore pool' parent child) ∧
    (∀ above below, pool.Edge above below → ∃ node child : SharedNode, pool[above]? = some node ∧
      pool[below]? = some child ∧ MayHold node.kind child.kind) ∧
    (∀ number, ¬ Relation.TransGen pool.Edge number number) ∧
    (∀ number < pool.length, ∃ tree, pool.unfold number = .ok tree ∧
      ∀ fuel, 3 ≤ fuel → pool.unfoldWithin fuel number = .ok tree) ∧
    ∀ sections, (∀ number ∈ sections, ∃ node : SharedNode, pool[number]? = some node ∧ node.kind = .sect) →
      pool.validateAt sections = .ok () := by
  have nested := wellNested_run calls
  refine ⟨(run calls).1,(run calls).2,rfl,fun parent child => ?_,fun above below edge => ?_,not_below_itself nested,
    walk_ends nested,sections_valid nested⟩
  · rw [after_add]
    cases added : (run calls).1.add parent child with
    | error fault => exact .inl ⟨fault,rfl,rfl⟩
    | ok pool' => exact .inr ⟨pool',rfl,rfl,add_oneMore _ pool' parent child added⟩
  · obtain ⟨node,found,among⟩ := edge
    obtain ⟨child,there,may⟩ := nested above node found below among
    exact ⟨node,child,found,there,may⟩

/-- A section with two columns that share a widget, which one of them holds twice. -/
def sharedHeading : List Call :=
  [.makeSection (.str "hero") .null [],.makeColumn (.str "") .null (.int 50) [],.add 0 1,
    .makeColumn (.str "") (.str "fadeIn") (.int 50) [],.makeWidget (.str "heading") (.str "") .null [],
    .add 1 3,.add 2 3,.add 0 2,.add 3 0,.add 2 3]

theorem sharedHeading_document : ∃ pool drawn, run sharedHeading = (pool,drawn) ∧
    pool.map SharedNode.children = [[1,2],[3],[3,3],[]] ∧ pool.validateAt [0,0] = .ok () := by
  obtain ⟨pool,drawn,ran,_,_,_,_,valid⟩ := sharing_keeps_documents sharedHeading
  have children : (run sharedHeading).1.map SharedNode.children = [[1,2],[3],[3,3],[]] := by decide +kernel
  have top : (run sharedHeading).1[0]?.map (·.kind.isSection) = some true := by decide +kernel
  rw [ran] at children top
  obtain ⟨node,found,kind⟩ := Option.map_eq_some_iff.mp top
  refine ⟨pool,drawn,ran,children,valid _ fun number among => ?_⟩
  obtain rfl : number = 0 := by simpa using among
  exact ⟨node,found,(kind_isSection _).mp kind⟩

end Pool

end Pagewright.Document
