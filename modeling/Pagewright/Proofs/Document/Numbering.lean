import Mathlib.Data.List.Nodup
import Pagewright.Design.Convert
import Pagewright.Page.Translate
import Pagewright.Proofs.Document.Building

/-! The ids of new documents. Whatever a translator builds, the nodes of its trees, parents before children, have the
ids that were drawn meanwhile in the order in which they were drawn, so that none of them comes twice. -/
namespace Pagewright.Decimal

/-- The number that hexadecimal digits write. -/
def ofHex (s : List Char) : Nat := s.foldl (fun n c => 16 * n + (Text.hexValue? c).getD 0) 0

theorem ofHex_snoc (s : List Char) (d : Nat) (digit : d < 16) : ofHex (s ++ [d.digitChar]) = 16 * ofHex s + d := by
  have value : ∀ d < 16, (Text.hexValue? d.digitChar).getD 0 = d := by decide
  rw [ofHex,List.foldl_append,List.foldl_cons,List.foldl_nil,value d digit]
  rfl

theorem ofHex_hexDigits (n : Nat) : ofHex (hexDigits n) = n := by
  induction n using Nat.strongRecOn with
  | ind n ih =>
    unfold hexDigits at ih ⊢
    rw [Nat.toDigits_eq_if (by decide)]
    split
    next small =>
      have := ofHex_snoc [] n small
      rw [List.nil_append] at this
      rw [this]
      exact Nat.zero_add n
    next large =>
      rw [ofHex_snoc _ _ (Nat.mod_lt _ (by decide)),ih (n / 16) (by omega)]
      exact Nat.div_add_mod n 16

theorem ofHex_padZeros (width : Nat) (s : List Char) : ofHex (padZeros width s) = ofHex s := by
  have zeros (k : Nat) : ofHex (List.replicate k '0') = 0 := by
    induction k with
    | zero => rfl
    | succ k ih =>
      rw [List.replicate_succ']
      have := ofHex_snoc (List.replicate k '0') 0 (by decide)
      rw [ih] at this
      exact this
  have start := zeros (width - s.length)
  unfold ofHex at start
  rw [padZeros,ofHex,List.foldl_append,start]
  rfl

end Pagewright.Decimal

namespace Pagewright.Document

/-- Zeros in front do not matter, so that ids differ also where the number outgrows the width. -/
theorem nodeId_inj (n m : Nat) (same : nodeId n = nodeId m) : n = m := by
  have digits : Decimal.padZeros 7 (Decimal.hexDigits n) = Decimal.padZeros 7 (Decimal.hexDigits m) := by
    have chars := congrArg String.toList same
    simpa [nodeId] using chars
  rw [← Decimal.ofHex_hexDigits n,← Decimal.ofHex_padZeros 7,digits,Decimal.ofHex_padZeros,Decimal.ofHex_hexDigits]

/-- The ids of a tree, parents before children. -/
def Node.ids (node : Node) : List Value := node.walk.map Node.id

theorem walkAll_eq (nodes : List Node) : walkAll nodes = nodes.flatMap Node.walk := by
  induction nodes with
  | nil => rfl
  | cons node nodes ih => rw [walkAll,ih,List.flatMap_cons]

theorem ids_eq (node : Node) : node.ids = node.id :: node.elements.flatMap Node.ids := by
  obtain ⟨kind,settings,elements,widgetType,id⟩ := node
  unfold Node.ids
  rw [Node.walk,walkAll_eq,List.map_cons,List.map_flatMap]

theorem ids_settings (node : Node) (settings : Table Value) : ({ node with settings } : Node).ids = node.ids := by
  rw [ids_eq,ids_eq node]

theorem ids_add (parent child node : Node) (added : parent.add child = .ok node) :
    node.ids = parent.ids ++ child.ids := by
  obtain ⟨_,_,made⟩ := except_bind_success _ _ _ added
  cases made
  rw [ids_eq,ids_eq parent,List.flatMap_append,List.flatMap_singleton]
  rfl

/-- The ids that are drawn from one count to another. -/
def drawn (s s' : Nat) : List Value := (List.range' (s + 1) (s' - s)).map fun n => .str (nodeId n)

theorem drawn_append (s m s' : Nat) (first : s ≤ m) (second : m ≤ s') : drawn s m ++ drawn m s' = drawn s s' := by
  unfold drawn
  rw [← List.map_append]
  congr 1
  have := List.range'_append_1 (s := s + 1) (m := m - s) (n := s' - m)
  rw [← show s + 1 + (m - s) = m + 1 by omega,this]
  congr 1
  omega

theorem drawn_nodup (s s' : Nat) : (drawn s s').Nodup := by
  refine List.Nodup.map (fun n m same => nodeId_inj n m ?_) List.nodup_range'
  exact Value.str.inj same

variable {α β : Type}

/-- What work that goes through has drawn, beside what it gives. -/
def Draws (work : Build α) (holds : α → List Value → Prop) : Prop :=
  ∀ s a s', work.run.run s = (.ok a,s') → s ≤ s' ∧ holds a (drawn s s')

section Rules

variable {middle : α → List Value → Prop} {holds : β → List Value → Prop}

theorem draws_pure (b : β) (given : holds b []) : Draws (pure b) holds := by
  intro s b' s' ran
  cases ran
  refine ⟨Nat.le_refl s,?_⟩
  rw [drawn,Nat.sub_self]
  exact given

theorem draws_bind {work : Build α} {next : α → Build β} (first : Draws work middle)
    (rest : ∀ a ids, middle a ids → Draws (next a) fun b more => holds b (ids ++ more)) :
    Draws (work >>= next) holds := by
  intro s b s' ran
  obtain ⟨a,s₁,one,two⟩ := run_bind_success _ _ _ _ _ ran
  obtain ⟨before,given⟩ := first s a s₁ one
  obtain ⟨later,made⟩ := rest a _ given s₁ b s' two
  exact ⟨Nat.le_trans before later,drawn_append s s₁ s' before later ▸ made⟩

variable (middle) in
/-- Work that goes on in the same way after one of two beginnings. -/
theorem draws_either {choice : Bool} {work other : Build α} {next : α → Build β} (one : Draws work middle)
    (two : Draws other middle) (rest : ∀ a ids, middle a ids → Draws (next a) fun b more => holds b (ids ++ more)) :
    Draws (if choice then work >>= next else other >>= next) holds := by
  split
  · exact draws_bind one rest
  · exact draws_bind two rest

theorem draws_weaken {work : Build α} {holds : α → List Value → Prop} (drew : Draws work middle)
    (given : ∀ a ids, middle a ids → holds a ids) : Draws work holds := by
  intro s a s' ran
  obtain ⟨later,made⟩ := drew s a s' ran
  exact ⟨later,given a _ made⟩

theorem draws_lift (r : Except Fault α) : Draws (liftM r : Build α) fun a ids => ids = [] ∧ r = .ok a := by
  cases r with
  | error fault => exact fun _ _ _ ran => nomatch ran
  | ok a => exact draws_pure a ⟨rfl,rfl⟩

theorem draws_newId : Draws newId fun id ids => ids = [.str id] := by
  intro s id s' ran
  cases ran
  refine ⟨Nat.le_succ s,?_⟩
  rw [drawn,show s + 1 - s = 1 by omega]
  rfl

theorem draws_map {work : Build α} {f : α → β} (drew : Draws work middle)
    (given : ∀ a ids, middle a ids → holds (f a) ids) : Draws (f <$> work) holds := by
  rw [← bind_pure_comp]
  refine draws_bind drew fun a ids made => draws_pure _ ?_
  rw [List.append_nil]
  exact given a ids made

variable {ids : β → List Value}

theorem draws_mapM {f : α → Build β} {items : List α}
    (each : ∀ item ∈ items, Draws (f item) fun b drew => drew = ids b) :
    Draws (items.mapM f) fun made drew => drew = made.flatMap ids := by
  induction items with
  | nil => exact draws_pure [] rfl
  | cons item items ih =>
    rw [List.forall_mem_cons] at each
    rw [List.mapM_cons]
    refine draws_bind each.1 fun first _ one => ?_
    refine draws_bind (ih each.2) fun rest _ others => ?_
    refine draws_pure _ ?_
    rw [one,others,List.append_nil,List.flatMap_cons]

theorem draws_filterMapM {f : α → Build (Option β)} {items : List α}
    (each : ∀ item ∈ items, Draws (f item) fun made drew => drew = made.toList.flatMap ids) :
    Draws (items.filterMapM f) fun made drew => drew = made.flatMap ids := by
  induction items with
  | nil => exact draws_pure [] rfl
  | cons item items ih =>
    rw [List.forall_mem_cons] at each
    rw [List.filterMapM_cons]
    refine draws_bind each.1 fun made drew one => ?_
    cases made with
    | none =>
      rw [one]
      exact ih each.2
    | some first =>
      refine draws_bind (ih each.2) fun rest _ others => ?_
      refine draws_pure _ ?_
      rw [one,others,List.append_nil,List.flatMap_cons,Option.toList_some,List.flatMap_singleton]

end Rules

/-- Work that draws the ids of the tree that it makes, parents before children. -/
def Numbers (work : Build Node) : Prop := Draws work fun node ids => ids = node.ids

section Makers

variable (classes animation : Value) (settings : Table Value)

/-- A node without children takes the id that is drawn last, and nothing else is drawn for it. -/
theorem numbers_node (kind : Kind) (given : String → Table Value) (node : Table Value → Value → Node)
    (made : ∀ settings id, (node settings id).ids = [id]) :
    Numbers (do
      let css ← liftM (cssClasses kind classes animation)
      let settings ← liftM (applyAnimation (given css) animation)
      return node settings (.str (← newId))) := by
  refine draws_bind (draws_lift _) fun css _ ⟨quiet,_⟩ => ?_
  refine draws_bind (draws_lift _) fun settings _ ⟨still,_⟩ => ?_
  refine draws_bind draws_newId fun id _ one => draws_pure _ ?_
  rw [quiet,still,one,made]
  rfl

theorem numbers_section : Numbers (makeSection classes animation settings) :=
  numbers_node classes animation .sect _ (fun settings id => ⟨.sect,settings,[],.null,id⟩) fun _ _ => ids_eq _

theorem numbers_column (size : Value) : Numbers (makeColumn classes animation size settings) :=
  numbers_node classes animation .column _ (fun settings id => ⟨.column,settings,[],.null,id⟩) fun _ _ => ids_eq _

theorem numbers_widget (widgetType : Value) : Numbers (makeWidget widgetType classes animation settings) :=
  numbers_node classes animation .widget _
    (fun base id => ⟨.widget,Table.update base settings,[],widgetType,id⟩) fun _ _ => ids_eq _

/-- Adding draws nothing; the ids of what is added come after those that are there. -/
theorem draws_adding (parent : Node) (children : List Node) :
    Draws (children.foldlM (fun node child => liftM (node.add child)) parent)
      fun node ids => ids = [] ∧ node.ids = parent.ids ++ children.flatMap Node.ids := by
  induction children generalizing parent with
  | nil => exact draws_pure parent ⟨rfl,(List.append_nil _).symm⟩
  | cons child children ih =>
    rw [List.foldlM_cons]
    refine draws_bind (draws_lift _) fun node _ ⟨quiet,added⟩ => ?_
    refine draws_weaken (ih node) fun full _ ⟨still,same⟩ => ?_
    rw [quiet,still,same,ids_add parent child node added,List.flatMap_cons,List.append_assoc]
    exact ⟨rfl,rfl⟩

/-- A section whose only column is filled after all its parts have been made, in their order. -/
theorem numbers_single (sect column : Node) (widgets : List Node) : Draws (do
      let column ← widgets.foldlM (fun column widget => liftM (column.add widget)) column
      liftM (sect.add column))
    fun node ids => ids = [] ∧ node.ids = sect.ids ++ column.ids ++ widgets.flatMap Node.ids := by
  refine draws_bind (draws_adding column widgets) fun full _ ⟨quiet,same⟩ => ?_
  refine draws_weaken (draws_lift _) fun node _ ⟨still,added⟩ => ?_
  rw [quiet,still,ids_add sect full node added,same,List.append_assoc]
  exact ⟨rfl,rfl⟩

end Makers

end Pagewright.Document

namespace Pagewright.Page
open Document

theorem numbers_parseWidgets (markup : List Char) :
    Draws (parseWidgets markup) fun widgets ids => ids = widgets.flatMap Node.ids :=
  draws_mapM fun _ _ => numbers_widget _ _ _ _

theorem numbers_translateSection (classes inner : List Char) : Numbers (translateSection classes inner) := by
  refine draws_bind (numbers_section _ _ _) fun sect _ first => ?_
  refine draws_bind (numbers_column _ _ _ _) fun column _ second => ?_
  refine draws_bind (numbers_parseWidgets inner) fun widgets _ third => ?_
  refine draws_weaken (numbers_single sect column widgets) fun node _ ⟨quiet,same⟩ => ?_
  rw [first,second,third,quiet,same,List.append_nil,List.append_assoc]

theorem numbers_translate (content : List Char) :
    Draws (translate content) fun tree ids => ids = tree.flatMap Node.ids := by
  refine draws_bind (draws_mapM fun part _ => numbers_translateSection part.1 part.2) fun tree _ all => ?_
  refine draws_bind (draws_lift _) fun _ _ ⟨quiet,_⟩ => draws_pure _ ?_
  rw [quiet,all,List.append_nil,List.append_nil]

end Pagewright.Page

namespace Pagewright.Design
open Document

section Converters

variable (fields : Table Value)

theorem draws_itemsOf (key : String) : Draws (itemsOf fields key) fun _ ids => ids = [] :=
  draws_weaken (draws_lift _) fun _ _ lifted => lifted.1

theorem numbers_convertWidget : Numbers (convertWidget fields) := by
  refine draws_bind (draws_lift _) fun _ _ ⟨quiet,_⟩ => ?_
  rw [quiet]
  exact numbers_widget _ _ _ _

theorem draws_convertElement (element : Value) :
    Draws (convertElement? element) fun made ids => ids = made.toList.flatMap Node.ids := by
  have one (work : Build Node) (numbers : Numbers work) :
      Draws (some <$> work) fun made ids => ids = made.toList.flatMap Node.ids :=
    draws_map numbers fun node _ same => by rw [same,Option.toList_some,List.flatMap_singleton]
  unfold convertElement?
  split
  · exact one _ (numbers_widget _ _ _ _)
  · split
    · exact one _ (numbers_convertWidget _)
    · exact draws_pure none rfl
  · exact draws_pure none rfl

theorem numbers_convertProjectSection : Numbers (convertProjectSection fields) := by
  refine draws_bind (numbers_section _ _ _) fun sect _ first => ?_
  refine draws_bind (numbers_column _ _ _ _) fun column _ second => ?_
  refine draws_bind (numbers_widget _ _ _ _) fun heading _ third => ?_
  refine draws_either (fun texts ids => ids = texts.flatMap Node.ids)
    (draws_map (numbers_widget _ _ _ _) fun text _ same => ?_) (draws_pure [] rfl) fun texts _ fourth => ?_
  · rw [same]
    exact (List.append_nil _).symm
  refine draws_bind (draws_itemsOf _ _) fun _ _ quiet => ?_
  refine draws_bind (draws_filterMapM fun item _ => draws_convertElement item) fun elements _ fifth => ?_
  refine draws_bind (draws_itemsOf _ _) fun _ _ still => ?_
  refine draws_bind (draws_mapM fun card _ => numbers_widget _ _ _ _) fun cards _ sixth => ?_
  refine draws_bind (draws_itemsOf _ _) fun _ _ calm => ?_
  refine draws_bind (draws_mapM fun label _ => numbers_widget _ _ _ _) fun buttons _ seventh => ?_
  refine draws_weaken (numbers_single sect column _) fun node _ ⟨idle,same⟩ => ?_
  rw [same,first,second,third,fourth,quiet,fifth,still,sixth,calm,seventh,idle]
  simp only [List.flatMap_append,List.flatMap_singleton,List.append_assoc,List.nil_append,List.append_nil]

theorem draws_pageContent (page : Value) :
    Draws (do
      let sections ← pageSections page
      (sections.filterMap Value.fields?).mapM convertProjectSection) fun made ids => ids = made.flatMap Node.ids := by
  have read : Draws (pageSections page) fun _ ids => ids = [] := by
    refine draws_bind (draws_lift _) fun _ _ ⟨quiet,_⟩ => ?_
    rw [quiet]
    exact draws_itemsOf _ _
  refine draws_bind read fun sections _ quiet => ?_
  rw [quiet]
  exact draws_mapM fun part _ => numbers_convertProjectSection part

theorem draws_convertProject :
    Draws (convertProject fields) fun document ids => ids = document.content.flatMap Node.ids := by
  refine draws_bind (draws_lift _) fun plan _ ⟨quiet,_⟩ => ?_
  refine draws_bind (draws_itemsOf _ _) fun pages _ still => ?_
  refine draws_bind (draws_mapM fun page _ => draws_pageContent page) fun content _ all => draws_pure _ ?_
  rw [quiet,still,all,List.append_nil,List.flatten_eq_flatMap,List.flatMap_assoc]
  rfl

theorem numbers_convertColumn : Numbers (convertColumn fields) := by
  refine draws_bind (numbers_column _ _ _ _) fun column _ first => ?_
  refine draws_bind (draws_itemsOf _ _) fun _ _ quiet => ?_
  refine draws_bind (draws_mapM fun part _ => numbers_convertWidget part) fun widgets _ second => ?_
  refine draws_weaken (draws_adding _ widgets) fun full _ ⟨still,same⟩ => ?_
  rw [same,first,quiet,second,still,ids_settings]
  simp only [List.nil_append,List.append_nil]

theorem numbers_convertSection : Numbers (convertSection fields) := by
  refine draws_bind (numbers_section _ _ _) fun sect _ first => ?_
  refine draws_either (fun _ ids => ids = []) (draws_weaken (draws_lift _) fun _ _ lifted => lifted.1)
    (draws_pure [] rfl) fun changes _ quiet => ?_
  refine draws_bind (draws_itemsOf _ _) fun _ _ still => ?_
  refine draws_bind (draws_mapM fun part _ => numbers_convertColumn part) fun columns _ second => ?_
  refine draws_weaken (draws_adding _ columns) fun full _ ⟨calm,same⟩ => ?_
  rw [same,first,quiet,still,second,calm,ids_settings]
  simp only [List.nil_append,List.append_nil]

theorem draws_convertLayout :
    Draws (convertLayout fields) fun document ids => ids = document.content.flatMap Node.ids := by
  refine draws_bind (draws_itemsOf _ _) fun _ _ quiet => ?_
  refine draws_bind (draws_mapM fun part _ => numbers_convertSection part) fun content _ all => draws_pure _ ?_
  rw [quiet,all,List.append_nil]
  rfl

theorem draws_convert (design : Value) :
    Draws (convert design) fun document ids => ids = document.content.flatMap Node.ids := by
  have checked (work : Build DesignDocument)
      (drew : Draws work fun document ids => ids = document.content.flatMap Node.ids) :
      Draws (do
        let document ← work
        validate document.content
        return document) fun document ids => ids = document.content.flatMap Node.ids := by
    refine draws_bind drew fun document _ same => ?_
    refine draws_bind (draws_lift _) fun _ _ ⟨quiet,_⟩ => draws_pure _ ?_
    rw [same,quiet,List.append_nil,List.append_nil]
  refine draws_bind (draws_lift _) fun fields _ ⟨quiet,_⟩ => ?_
  rw [quiet]
  split
  · exact checked _ (draws_convertProject _)
  · exact checked _ (draws_convertLayout fields)

end Converters

end Pagewright.Design

namespace Pagewright.Document

/-- A call of one of the two translators. -/
inductive Request where
  | page (content : List Char)
  | design (decoded : Value)

/-- The trees that a translator makes. -/
def Request.translate : Request → Build (List Node)
  | .page content => Page.translate content
  | .design decoded => do return (← Design.convert decoded).content

theorem Request.draws (request : Request) :
    Draws request.translate fun trees ids => ids = trees.flatMap Node.ids := by
  cases request with
  | page content => exact Page.numbers_translate content
  | design decoded =>
    refine draws_bind (Design.draws_convert decoded) fun document _ same => draws_pure _ ?_
    rw [same,List.append_nil]

/-- Where all calls of a sequence go through, the nodes of all trees, walked one tree after the other, have the ids
with the next numbers in their order, as many as were drawn. So no id comes twice, however many nodes there are. -/
theorem nodes_numbered_in_order (requests : List Request) (s s' : Nat) (forests : List (List Node))
    (ran : (requests.mapM Request.translate).run.run s = (.ok forests,s')) :
    ∃ nodes : List Node, nodes = forests.flatten.flatMap Node.walk ∧ s' = s + nodes.length ∧
      nodes.map Node.id = (List.range' (s + 1) nodes.length).map (fun n => .str (nodeId n)) ∧
      (nodes.map Node.id).Nodup := by
  have drew : Draws (requests.mapM Request.translate) fun forests ids =>
      ids = forests.flatMap fun trees => trees.flatMap Node.ids :=
    draws_mapM fun request _ => request.draws
  obtain ⟨later,same⟩ := drew s forests s' ran
  have ids : (forests.flatten.flatMap Node.walk).map Node.id = drawn s s' := by
    rw [same,List.map_flatMap,List.flatten_eq_flatMap,List.flatMap_assoc]
    rfl
  have size : (forests.flatten.flatMap Node.walk).length = s' - s := by
    rw [← List.length_map (f := Node.id),ids,drawn,List.length_map,List.length_range']
  refine ⟨_,rfl,by omega,?_,ids ▸ drawn_nodup s s'⟩
  rw [ids,size,drawn]

/-- A page with a heading, then a layout with a text. -/
def pageAndLayout : List Request :=
  [.page "<section className='hero'><h1 className='big'>Pricing</h1></section>".toList,
    .design (.object [("sections",.list [.object [("columns",.list [.object [("widgets",
      .list [.object [("type",.str "text")]])]])]])])]

/-- The numbers outgrow the width of the ids within the page. -/
theorem pageAndLayout_numbered : ∃ forests,
    (pageAndLayout.mapM Request.translate).run.run 0xffffffd = (.ok forests,0x10000003) ∧
    (forests.flatten.flatMap Node.walk).map Node.id =
      ["000000ffffffe","000000fffffff","00000010000000","00000010000001","00000010000002","00000010000003"].map .str := by
  obtain ⟨forests,ran⟩ : ∃ forests,
    (pageAndLayout.mapM Request.translate).run.run 0xffffffd = (.ok forests,0x10000003) := ⟨_,rfl⟩
  obtain ⟨nodes,walked,count,ids,_⟩ := nodes_numbered_in_order pageAndLayout _ _ forests ran
  refine ⟨forests,ran,?_⟩
  rw [← walked,ids,show nodes.length = 6 by omega]
  have numbers : (List.range' (0xffffffd + 1) 6).map nodeId = ["000000ffffffe","000000fffffff",
    "00000010000000","00000010000001","00000010000002","00000010000003"] := by decide +kernel
  rw [← numbers,List.map_map]
  rfl

end Pagewright.Document
