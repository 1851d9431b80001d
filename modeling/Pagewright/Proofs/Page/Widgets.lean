import Pagewright.Proofs.Except
import Pagewright.Proofs.Page.Families
import Pagewright.Proofs.Text.Trimming

/-! The widgets of flat elements. Headings, paragraphs and buttons become widgets group by group, each from its own
element, exactly if no longer name that starts like one of theirs comes before it. -/
namespace Pagewright.Page
open Document (Build Node makeWidget nodeId)

section Stripping

theorem erase_tag (inner rest : List Char) (proper : inner ≠ []) (within : '>' ∉ inner) :
    Text.erase (span? '<' '>') ('<' :: (inner ++ '>' :: rest)) = Text.erase (span? '<' '>') rest := by
  refine Text.erase_found _ (span?_recognises _ _).shortens _ _ rest ?_
  exact ((span?_recognises _ _).found_iff _ _).mpr ⟨_,⟨inner,proper,within,rfl⟩,by simp⟩

theorem erase_text (text rest : List Char) (flat : '<' ∉ text) :
    Text.erase (span? '<' '>') (text ++ rest) = text ++ Text.erase (span? '<' '>') rest := by
  induction text with
  | nil => rfl
  | cons c text ih =>
    rw [List.mem_cons,not_or] at flat
    have passed : span? '<' '>' (c :: (text ++ rest)) = none := by simp [span?,Ne.symm flat.1]
    rw [List.cons_append,Text.erase_kept _ c _ passed,ih flat.2]
    rfl

theorem erase_closing (name rest : List Char) (named : IsName name) :
    Text.erase (span? '<' '>') ('<' :: (closing name ++ rest)) = Text.erase (span? '<' '>') rest := by
  have erased := erase_tag ('/' :: name) rest (List.cons_ne_nil _ _) (by simp [named.without '>' (by decide)])
  simpa [closing] using erased

theorem erase_opening (e : Element) (rest : List Char) :
    Text.erase (span? '<' '>') ('<' :: (e.opening ++ rest)) = e.text ++ Text.erase (span? '<' '>') rest := by
  have within : '>' ∉ e.tag ++ (" className=\"".toList ++ (e.classes ++ ['"'])) := by
    have outside : '>' ∉ e.classes := fun inside => (e.quotable '>' inside).2.2 rfl
    simp [e.named.without '>' (by decide),outside]
  have erased := erase_tag _ (e.text ++ rest) (by simp) within
  rw [erase_text e.text rest e.flat.1] at erased
  simpa [Element.opening] using erased

/-- Of elements only their texts are left without the tags. -/
theorem erase_elements (elements : List Element) (rest : List Char) :
    Text.erase (span? '<' '>') (markupOf elements ++ rest) =
      elements.flatMap Element.text ++ Text.erase (span? '<' '>') rest := by
  induction elements with
  | nil => rfl
  | cons e elements ih =>
    have one := erase_opening e ('<' :: (closing e.tag ++ (markupOf elements ++ rest)))
    rw [erase_closing e.tag _ e.named,ih] at one
    simpa [markupOf,Element.markup] using one

theorem stripTags_flat (text : List Char) (flat : '<' ∉ text) : stripTags text = Text.trim text := by
  have erased := erase_text text [] flat
  rw [List.append_nil,show Text.erase (span? '<' '>') [] = [] by rfl,List.append_nil] at erased
  rw [stripTags,erased]

theorem stripTags_swallowed (e last : Element) (between : List Element) :
    stripTags (Family.swallowed e between last) =
      Text.trim (e.text ++ (between.flatMap Element.text ++ last.text)) := by
  have ended := erase_opening last []
  rw [List.append_nil,show Text.erase (span? '<' '>') [] = [] by rfl,List.append_nil] at ended
  have tail := erase_elements between ('<' :: last.opening)
  have all := erase_text e.text ('<' :: (closing e.tag ++ (markupOf between ++ '<' :: last.opening))) e.flat.1
  rw [erase_closing e.tag _ e.named,tail,ended] at all
  rw [stripTags,Family.swallowed]
  simp only [List.append_assoc,List.cons_append] at all ⊢
  rw [all]

end Stripping

section Widgets

/-- The widgets that flat elements stand for. -/
def headingWidget (e : Element) : WidgetPlan :=
  ⟨"heading",String.ofList e.classes,
    [("title",.str (String.ofList (Text.trim e.text))),("header_size",.str (String.ofList e.tag))]⟩

def paragraphWidget (e : Element) : WidgetPlan :=
  ⟨"text-editor",String.ofList e.classes,[("editor",.str (String.ofList (Text.trim e.text)))]⟩

def buttonWidget (e : Element) : WidgetPlan :=
  ⟨"button","lovable-button",
    [("text",.str (String.ofList (Text.trim e.text))),("link",.object [("url",.str "#")])]⟩

/-- The widgets of the elements that are headings, of those that are paragraphs and of those that are buttons; one of
the markup if there are no such elements. -/
def widgetsOf (elements : List Element) : List WidgetPlan :=
  let widgets := (elements.filter fun e => e.tag ∈ headingNames).map headingWidget ++
    (elements.filter fun e => e.tag = ['p']).map paragraphWidget ++
    (elements.filter fun e => e.tag = buttonName).map buttonWidget
  if widgets.isEmpty then [markupPlan (markupOf elements)] else widgets

/-- The names of the elements that become widgets. -/
def widgetNames : List (List Char) := headingNames ++ [['p'],buttonName]

/-- No longer name comes before a name that it starts with. -/
def ReadApart (names tags : List (List Char)) : Prop :=
  tags.Pairwise fun earlier later => later ∈ names → later <+: earlier → earlier = later

theorem readApart_widgetNames (tags : List (List Char)) : ReadApart widgetNames tags ↔
    ReadApart headings.names tags ∧ ReadApart paragraphs.names tags ∧ ReadApart buttons.names tags := by
  unfold ReadApart
  rw [← List.pairwise_and_iff,← List.pairwise_and_iff]
  refine List.Pairwise.iff fun earlier later => ?_
  simp only [widgetNames,headings,paragraphs,buttons,List.mem_append,List.mem_cons,List.not_mem_nil,or_false]
  tauto

theorem headingPlan_level (name classes content : List Char) (known : name ∈ headingNames) :
    headingPlan (headings.find name classes content) = ⟨"heading",String.ofList classes,
      [("title",.str (String.ofList (stripTags content))),("header_size",.str (String.ofList name))]⟩ := by
  obtain ⟨level,_,rfl⟩ := List.mem_map.mp known
  rfl

theorem planWidgets_elements (elements : List Element) (apart : ReadApart widgetNames (elements.map Element.tag)) :
    planWidgets (markupOf elements) = widgetsOf elements := by
  obtain ⟨first,second,third⟩ := (readApart_widgetNames _).mp apart
  have first := headings.finds_elements elements first
  have second := paragraphs.finds_elements elements second
  have third := buttons.finds_elements elements third
  have one : (Text.finds heading? (markupOf elements)).map headingPlan =
      (elements.filter fun e => e.tag ∈ headingNames).map headingWidget := by
    rw [show heading? = headings.recognise by rfl,first,List.map_map]
    refine List.map_congr_left fun e among => ?_
    have known : e.tag ∈ headings.names := by simpa using (List.mem_filter.mp among).2
    rw [Function.comp_apply,headingPlan_level _ _ _ known,stripTags_flat e.text e.flat.1]
    rfl
  have two : (Text.finds paragraph? (markupOf elements)).map paragraphPlan =
      (elements.filter fun e => e.tag = ['p']).map paragraphWidget := by
    rw [show paragraph? = paragraphs.recognise by rfl,second,List.map_map]
    simp only [paragraphs,List.mem_singleton]
    rfl
  have three : (Text.finds button? (markupOf elements)).map buttonPlan =
      (elements.filter fun e => e.tag = buttonName).map buttonWidget := by
    rw [show button? = buttons.recognise by rfl,third,List.map_map]
    simp only [buttons,List.mem_singleton]
    refine List.map_congr_left fun e _ => ?_
    simp only [Function.comp_apply,buttonPlan,stripTags_flat e.text e.flat.1]
    rfl
  unfold planWidgets widgetsOf
  rw [one,two,three]

/-- The text that a widget shows. -/
def WidgetPlan.shown (plan : WidgetPlan) : Option Value := plan.settings.head?.map Prod.snd

theorem widgetsOf_shown (elements : List Element) (text : List Char) (all : ∀ e ∈ elements, e.text = text)
    (known : ∃ e ∈ elements, e.tag ∈ widgetNames) :
    ∀ plan ∈ widgetsOf elements, plan.shown = some (.str (String.ofList (Text.trim text))) := by
  have filled : ∃ plan, plan ∈ (elements.filter fun e => e.tag ∈ headingNames).map headingWidget ++
      (elements.filter fun e => e.tag = ['p']).map paragraphWidget ++
      (elements.filter fun e => e.tag = buttonName).map buttonWidget := by
    obtain ⟨e,among,known⟩ := known
    obtain heading | known := List.mem_append.mp known
    · have here : e ∈ elements.filter fun e => e.tag ∈ headingNames :=
        List.mem_filter.mpr ⟨among,by simpa using heading⟩
      exact ⟨_,List.mem_append_left _ (List.mem_append_left _ (List.mem_map_of_mem here))⟩
    obtain paragraph | button := List.mem_cons.mp known
    · have here : e ∈ elements.filter fun e => e.tag = ['p'] :=
        List.mem_filter.mpr ⟨among,by simpa using paragraph⟩
      exact ⟨_,List.mem_append_left _ (List.mem_append_right _ (List.mem_map_of_mem here))⟩
    · have here : e ∈ elements.filter fun e => e.tag = buttonName :=
        List.mem_filter.mpr ⟨among,by simpa using List.mem_singleton.mp button⟩
      exact ⟨_,List.mem_append_right _ (List.mem_map_of_mem here)⟩
  obtain ⟨some,inside⟩ := filled
  intro plan among
  unfold widgetsOf at among
  rw [if_neg fun empty => List.ne_nil_of_mem inside (List.isEmpty_iff.mp empty)] at among
  simp only [List.mem_append,List.mem_map,List.mem_filter] at among
  obtain (⟨e,⟨there,_⟩,rfl⟩ | ⟨e,⟨there,_⟩,rfl⟩) | ⟨e,⟨there,_⟩,rfl⟩ := among <;>
    simp [WidgetPlan.shown,headingWidget,paragraphWidget,buttonWidget,all e there]

end Widgets

section Nodes

/-- The class list of a widget: the class of its kind and the words of its own classes. -/
def classList (classes : String) : String :=
  match Text.words classes.toList with
  | [] => "lovable-widget"
  | words => "lovable-widget " ++ String.ofList (Text.join [' '] words)

/-- The node of a widget. -/
def WidgetPlan.node (plan : WidgetPlan) (id : String) : Node :=
  ⟨.widget,("_css_classes",.str (classList plan.classes)) :: plan.settings,[],.str plan.widgetType,.str id⟩

/-- The nodes of widgets with the ids that come next. -/
def numbered : Nat → List WidgetPlan → List Node
  | _, [] => []
  | drawn, plan :: plans => plan.node (nodeId (drawn + 1)) :: numbered (drawn + 1) plans

theorem numbered_settings (drawn : Nat) (plans : List WidgetPlan) :
    (numbered drawn plans).map (fun node => node.settings.tail) = plans.map WidgetPlan.settings := by
  induction plans generalizing drawn with
  | nil => rfl
  | cons plan plans ih => rw [numbered,List.map_cons,ih,List.map_cons]; rfl

theorem words_proper (s : List Char) : ∀ word ∈ Text.words s, word ≠ [] := by
  intro word among
  simpa using (List.mem_filter.mp among).2

theorem cssClasses_widget (classes : String) :
    Document.cssClasses .widget (.str classes) .null = .ok (classList classes) := by
  have given : Document.userClasses (.str classes) =
      .ok (String.ofList (Text.join [' '] (Text.words classes.toList))) := by
    have same : (Value.str classes).orElse (.str "") = .str classes := by
      unfold Value.orElse
      split
      · rfl
      · rename_i falsy
        have empty : classes = "" := by simpa [Value.isTruthy] using falsy
        rw [empty]
    unfold Document.userClasses
    rw [same]
  have proper := words_proper classes.toList
  have plain : Document.animationAttributes .null = .ok [] := rfl
  unfold Document.cssClasses classList
  rw [given,plain]
  cases words : Text.words classes.toList with
  | nil => rfl
  | cons word rest =>
    rw [words] at proper
    have filled : (String.ofList (Text.join [' '] (word :: rest))).isEmpty = false := by
      have first := proper word List.mem_cons_self
      cases rest <;> simp [Text.join,first]
    simp only [bind,Except.bind,pure,Except.pure,filled]
    rfl

theorem makeWidget_run (widgetType classes : String) (settings : Table Value) (drawn : Nat) :
    (makeWidget (.str widgetType) (.str classes) .null settings).run.run drawn =
      (.ok ⟨.widget,Table.update [("_css_classes",.str (classList classes))] settings,[],.str widgetType,
        .str (nodeId (drawn + 1))⟩,drawn + 1) := by
  unfold makeWidget
  rw [cssClasses_widget]
  rfl

/-- The settings of a widget do not touch its classes. -/
theorem planWidgets_settings (markup : List Char) (base : Value) :
    ∀ plan ∈ planWidgets markup, Table.update [("_css_classes",base)] plan.settings =
      ("_css_classes",base) :: plan.settings := by
  intro plan among
  unfold planWidgets at among
  dsimp only at among
  split at among
  · obtain rfl := List.mem_singleton.mp among
    rfl
  · simp only [List.mem_append,List.mem_map] at among
    obtain (⟨found,_,rfl⟩ | ⟨found,_,rfl⟩) | ⟨found,_,rfl⟩ := among <;> rfl

theorem numbered_run (plans : List WidgetPlan) (drawn : Nat)
    (settled : ∀ base, ∀ plan ∈ plans, Table.update [("_css_classes",base)] plan.settings =
      ("_css_classes",base) :: plan.settings) :
    (plans.mapM fun plan => makeWidget (.str plan.widgetType) (.str plan.classes) .null plan.settings).run.run drawn =
      (.ok (numbered drawn plans),drawn + plans.length) := by
  induction plans generalizing drawn with
  | nil => rfl
  | cons plan plans ih =>
    have settled := fun base => List.forall_mem_cons.mp (settled base)
    rw [List.mapM_cons,run_bind,makeWidget_run,(settled _).1]
    dsimp only
    rw [run_bind,ih (drawn + 1) fun base => (settled base).2,List.length_cons,Nat.add_comm plans.length 1,
      ← Nat.add_assoc]
    rfl

/-- The widgets of markup are made in their order, with the ids that come next. -/
theorem parseWidgets_run (markup : List Char) (drawn : Nat) :
    (parseWidgets markup).run.run drawn =
      (.ok (numbered drawn (planWidgets markup)),drawn + (planWidgets markup).length) :=
  numbered_run _ drawn fun base => planWidgets_settings markup base

end Nodes

section Reading

/-- The markup of flat elements is read element by element. -/
def ParsesExactly (elements : List Element) : Prop :=
  ∀ drawn, (parseWidgets (markupOf elements)).run.run drawn =
    (.ok (numbered drawn (widgetsOf elements)),drawn + (widgetsOf elements).length)

/-- An element that shows a single letter. -/
def letterElement (tag : List Char) (named : IsName tag) : Element :=
  ⟨tag,[],['x'],named,fun _ inside => absurd inside List.not_mem_nil,List.not_mem_nil,by decide,by decide⟩

def letterElements (tags : List (List Char)) (named : ∀ tag ∈ tags, IsName tag) : List Element :=
  tags.attach.map fun tag => letterElement tag.1 (named tag.1 tag.2)

theorem letterElements_tag (tags : List (List Char)) (named : ∀ tag ∈ tags, IsName tag) :
    (letterElements tags named).map Element.tag = tags := by
  simp [letterElements,letterElement,Function.comp_def]

theorem letterElements_text (tags : List (List Char)) (named : ∀ tag ∈ tags, IsName tag) :
    ∀ e ∈ letterElements tags named, e.text = ['x'] := by
  intro e among
  obtain ⟨tag,_,rfl⟩ := List.mem_map.mp among
  rfl

theorem trim_letters (middle : List Char) : Text.trim ('x' :: (middle ++ ['x'])) = 'x' :: (middle ++ ['x']) := by
  have blank : Text.isBlank 'x' = false := by decide
  unfold Text.trim Text.trimBy
  simp [blank]

theorem mem_planWidgets (markup : List Char) (plan : WidgetPlan)
    (among : plan ∈ (Text.finds heading? markup).map headingPlan ++ (Text.finds paragraph? markup).map paragraphPlan ++
      (Text.finds button? markup).map buttonPlan) : plan ∈ planWidgets markup := by
  unfold planWidgets
  rw [if_neg fun empty => List.ne_nil_of_mem among (List.isEmpty_iff.mp empty)]
  exact among

section Letters

variable (elements : List Element) (letters : ∀ e ∈ elements, e.text = ['x'])
include letters

/-- Elements that show one letter each are not read exactly if a widget shows more. -/
theorem not_parsesExactly (plan : WidgetPlan) (among : plan ∈ planWidgets (markupOf elements)) (middle : List Char)
    (shown : plan.shown = some (.str (String.ofList ('x' :: (middle ++ ['x'])))))
    (known : ∃ e ∈ elements, e.tag ∈ widgetNames) : ¬ ParsesExactly elements := by
  intro exactly
  have same : numbered 0 (planWidgets (markupOf elements)) = numbered 0 (widgetsOf elements) := by
    have ran := (parseWidgets_run (markupOf elements) 0).symm.trans (exactly 0)
    exact Except.ok.inj (congrArg Prod.fst ran)
  have settings := congrArg (List.map fun node => node.settings.tail) same
  rw [numbered_settings,numbered_settings] at settings
  have there : plan.settings ∈ (widgetsOf elements).map WidgetPlan.settings := settings ▸ List.mem_map_of_mem among
  obtain ⟨other,inside,equal⟩ := List.mem_map.mp there
  have single := widgetsOf_shown elements ['x'] letters known other inside
  rw [WidgetPlan.shown,equal,← WidgetPlan.shown,shown,show Text.trim ['x'] = ['x'] by decide] at single
  have size := congrArg List.length (String.ofList_injective (Value.str.inj (Option.some.inj single)))
  simp at size

theorem swallowed_letters (e last : Element) (between : List Element) (first : e ∈ elements) (ended : last ∈ elements) :
    (∃ middle, Text.trim (Family.swallowed e between last) = 'x' :: (middle ++ ['x'])) ∧
      ∃ middle, stripTags (Family.swallowed e between last) = 'x' :: (middle ++ ['x']) := by
  rw [stripTags_swallowed,Family.swallowed,Element.opening,letters e first,letters last ended]
  constructor
  · refine ⟨'<' :: closing e.tag ++ (markupOf between ++ '<' :: (last.tag ++ (" className=\"".toList ++
      (last.classes ++ ['"','>'])))),?_⟩
    rw [← trim_letters]
    simp
  · exact ⟨between.flatMap Element.text,by rw [← trim_letters]; rfl⟩

theorem not_parsesExactly_of_mixed (mixed : ¬ ReadApart widgetNames (elements.map Element.tag)) :
    ¬ ParsesExactly elements := by
  rw [readApart_widgetNames,not_and_or,not_and_or] at mixed
  obtain mixed | mixed | mixed := mixed
  · obtain ⟨name,classes,e,first,between,last,ended,known,found⟩ := headings.swallowed_found elements mixed
    obtain ⟨middle,shown⟩ := (swallowed_letters elements letters e last between first ended).2
    refine not_parsesExactly elements letters _ (mem_planWidgets _ _ (List.mem_append_left _ (List.mem_append_left _
      (List.mem_map_of_mem found)))) middle ?_ ⟨last,ended,List.mem_append_left _ known⟩
    rw [← shown]
    rfl
  · obtain ⟨name,classes,e,first,between,last,ended,known,found⟩ := paragraphs.swallowed_found elements mixed
    obtain ⟨middle,shown⟩ := (swallowed_letters elements letters e last between first ended).1
    refine not_parsesExactly elements letters _ (mem_planWidgets _ _ (List.mem_append_left _ (List.mem_append_right _
      (List.mem_map_of_mem found)))) middle ?_ ⟨last,ended,List.mem_append_right _ (List.mem_cons.mpr (.inl ?_))⟩
    · rw [← shown]
      rfl
    · exact List.mem_singleton.mp known
  · obtain ⟨name,classes,e,first,between,last,ended,known,found⟩ := buttons.swallowed_found elements mixed
    obtain ⟨middle,shown⟩ := (swallowed_letters elements letters e last between first ended).2
    refine not_parsesExactly elements letters _ (mem_planWidgets _ _ (List.mem_append_right _
      (List.mem_map_of_mem found))) middle ?_ ⟨last,ended,List.mem_append_right _ (List.mem_cons_of_mem _ known)⟩
    rw [← shown]
    rfl

end Letters

/-- Flat elements with given names are read exactly, whatever their classes and texts, if and only if no longer name
comes before the name of a widget that it starts with. -/
theorem parsesExactly_iff (tags : List (List Char)) (named : ∀ tag ∈ tags, IsName tag) :
    (∀ elements : List Element, elements.map Element.tag = tags → ParsesExactly elements) ↔
      ReadApart widgetNames tags := by
  constructor
  · intro exactly
    by_contra mixed
    have same := letterElements_tag tags named
    refine not_parsesExactly_of_mixed _ (letterElements_text tags named) ?_ (exactly _ same)
    rw [same]
    exact mixed
  · rintro apart elements rfl drawn
    rw [parseWidgets_run,planWidgets_elements elements apart]

/-- A code block before a paragraph. -/
def codeElement : Element where
  tag := "pre".toList
  classes := "code".toList
  text := "x = 1".toList
  named := by decide
  quotable := (quotable_iff _).mpr (by decide)
  unopened := by decide
  flat := by decide

def leadElement : Element where
  tag := "p".toList
  classes := "lead".toList
  text := "Go".toList
  named := by decide
  quotable := (quotable_iff _).mpr (by decide)
  unopened := by decide
  flat := by decide

/-- The paragraph gets the classes of the code block and its markup. -/
theorem paragraph_behind_code : planWidgets (markupOf [codeElement,leadElement]) =
      [⟨"text-editor","code",[("editor",.str "x = 1</pre><p className=\"lead\">Go")]⟩] ∧
    widgetsOf [codeElement,leadElement] = [⟨"text-editor","lead",[("editor",.str "Go")]⟩] ∧
    ¬ ParsesExactly [codeElement,leadElement] := by
  have headings : Text.finds heading? (markupOf [codeElement,leadElement]) = [] := by decide +kernel
  have paragraphs : Text.finds paragraph? (markupOf [codeElement,leadElement]) =
      [("code".toList,"x = 1</pre><p className=\"lead\">Go".toList)] := by decide +kernel
  have buttons : Text.finds button? (markupOf [codeElement,leadElement]) = [] := by decide +kernel
  have read : planWidgets (markupOf [codeElement,leadElement]) =
      [⟨"text-editor","code",[("editor",.str "x = 1</pre><p className=\"lead\">Go")]⟩] := by
    unfold planWidgets
    rw [headings,paragraphs,buttons]
    rfl
  have meant : widgetsOf [codeElement,leadElement] = [⟨"text-editor","lead",[("editor",.str "Go")]⟩] := rfl
  refine ⟨read,meant,fun exactly => ?_⟩
  have ran := (parseWidgets_run _ 0).symm.trans (exactly 0)
  rw [read,meant] at ran
  have same := congrArg (List.map fun node => node.settings.tail) (Except.ok.inj (congrArg Prod.fst ran))
  simp [numbered_settings] at same

/-- Longer names may come after the names that they start with. -/
theorem parsesExactly_sample :
    (∀ tag ∈ ["h2".toList,"p".toList,"pre".toList,"Button".toList,"h2x".toList], IsName tag) ∧
    ∀ elements : List Element, elements.map Element.tag =
      ["h2".toList,"p".toList,"pre".toList,"Button".toList,"h2x".toList] → ParsesExactly elements := by
  have named : ∀ tag ∈ ["h2".toList,"p".toList,"pre".toList,"Button".toList,"h2x".toList], IsName tag := by
    decide
  exact ⟨named,(parsesExactly_iff _ named).mpr (by unfold ReadApart; decide)⟩

end Reading

end Pagewright.Page
