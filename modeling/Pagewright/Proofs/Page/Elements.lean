import Pagewright.Page.Translate
import Pagewright.Proofs.Page.Sections
import Pagewright.Proofs.Page.Spans

/-! Flat elements in a row. An element is recognised by the start of its opening tag, so a longer name that starts like
a recognised one opens an element too, and that one ends at the next closing tag of the recognised name. Elements are
read one by one exactly if no such longer name comes before the name that it starts with. -/
namespace Pagewright.Page
open Text (after? cut? Recogniser)

/-- Letters, digits and low lines. -/
def IsName (name : List Char) : Prop := ∀ c ∈ name, Text.isWord c = true

instance (name : List Char) : Decidable (IsName name) := List.decidableBAll (fun c => Text.isWord c = true) name

theorem IsName.without {name : List Char} (named : IsName name) (c : Char) (sign : Text.isWord c = false) :
    c ∉ name := by
  intro inside
  rw [named c inside] at sign
  cases sign

/-- An element with classes and a text in it. -/
structure Element where
  tag : List Char
  classes : List Char
  text : List Char
  named : IsName tag
  quotable : Quotable classes
  unopened : '<' ∉ classes
  flat : '<' ∉ text ∧ '>' ∉ text

/-- A closing tag behind its first character. -/
def closing (tag : List Char) : List Char := '/' :: (tag ++ ['>'])

namespace Element

/-- What stands between the angle bracket that opens an element and the one that closes it. -/
def opening (e : Element) : List Char :=
  e.tag ++ (" className=\"".toList ++ (e.classes ++ '"' :: '>' :: e.text))

def markup (e : Element) : List Char := '<' :: (e.opening ++ '<' :: closing e.tag)

theorem opening_plain (e : Element) : '<' ∉ e.opening := by
  simp [opening,e.named.without '<' (by decide),e.unopened,e.flat.1]

/-- The slash of a closing tag is no part of a name. -/
theorem opening_not_closing (e : Element) (name rest : List Char) : ¬ closing name <+: e.opening ++ rest := by
  have slash : '/' ∉ e.tag := e.named.without '/' (by decide)
  intro starts
  rw [opening,closing] at starts
  cases tagged : e.tag with
  | nil =>
    rw [tagged] at starts
    exact absurd (List.cons_prefix_cons.mp starts).1 (by decide)
  | cons d tag =>
    rw [tagged] at starts slash
    exact slash (List.mem_cons.mpr (.inl (List.cons_prefix_cons.mp starts).1))

end Element

theorem closing_plain (name : List Char) (named : IsName name) : '<' ∉ closing name := by
  simp [closing,named.without '<' (by decide)]

/-- An element holds no angle bracket but the first one and that of its closing tag. -/
theorem Element.mark_inside (e : Element) (s : List Char) (part : '<' :: s <:+ e.markup) :
    '<' :: s = e.markup ∨ s = closing e.tag := by
  obtain all | last | head := Text.suffix_between_marks '<' _ _ _ e.opening_plain (closing_plain _ e.named) part
  · exact .inl all
  · exact .inr (List.cons.inj last).2
  · exact absurd rfl head

/-- Elements in a row. -/
def markupOf (elements : List Element) : List Char := elements.flatMap Element.markup

section Cutting

variable (name : List Char) (named : IsName name)
include named

theorem closing_starts (tag rest : List Char) (tagged : IsName tag) (starts : closing name <+: closing tag ++ rest) :
    tag = name := by
  obtain ⟨more,split⟩ := starts
  rw [closing,closing,List.cons_append,List.cons_append,List.append_assoc,List.append_assoc] at split
  have split := (List.cons.inj split).2
  -- Both names end at the first angle bracket.
  obtain ⟨extra,rfl,cut⟩ | ⟨extra,rfl,cut⟩ := List.append_eq_append_iff.mp split
  · cases extra with
    | nil => exact List.append_nil name
    | cons c extra =>
      obtain ⟨rfl,_⟩ := List.cons.inj cut
      exact absurd (List.mem_append_right _ List.mem_cons_self) (tagged.without '>' (by decide))
  · cases extra with
    | nil => exact (List.append_nil tag).symm
    | cons c extra =>
      obtain ⟨rfl,_⟩ := List.cons.inj cut
      exact absurd (List.mem_append_right _ List.mem_cons_self) (named.without '>' (by decide))

/-- The end of an element of another name ends nothing. -/
theorem cut?_past (e : Element) (rest : List Char) (other : e.tag ≠ name) :
    cut? ('<' :: closing name) (e.text ++ '<' :: (closing e.tag ++ rest)) =
      (cut? ('<' :: closing name) rest).map fun parts => (e.text ++ '<' :: closing e.tag ++ parts.1,parts.2) := by
  have skipped := Text.cut?_skip ('<' :: closing name) (e.text ++ '<' :: closing e.tag) rest
    fun s proper part starts => ?_
  · simpa using skipped
  have behind : e.text ++ '<' :: closing e.tag <:+ e.markup :=
    ⟨'<' :: (e.tag ++ (" className=\"".toList ++ (e.classes ++ ['"','>']))),by simp [Element.markup,Element.opening]⟩
  cases s with
  | nil => exact proper rfl
  | cons c s =>
    obtain ⟨rfl,follows⟩ := List.cons_prefix_cons.mp starts
    obtain all | rfl := e.mark_inside s (part.trans behind)
    · have shorter := part.length_le
      rw [all] at shorter
      simp [Element.markup,Element.opening] at shorter
      omega
    · exact other (closing_starts name named _ _ e.named follows)

/-- Elements of other names are passed over in search of a closing tag. -/
theorem cut?_elements (elements : List Element) (rest : List Char) (others : ∀ e ∈ elements, e.tag ≠ name) :
    cut? ('<' :: closing name) (markupOf elements ++ rest) =
      (cut? ('<' :: closing name) rest).map fun parts => (markupOf elements ++ parts.1,parts.2) := by
  induction elements with
  | nil => simp [markupOf]
  | cons e elements ih =>
    have others := List.forall_mem_cons.mp others
    have skipped := Text.cut?_skip ('<' :: closing name) e.markup (markupOf elements ++ rest)
      fun s proper part starts => ?_
    · rw [ih others.2,Option.map_map] at skipped
      simpa [markupOf,Function.comp_def] using skipped
    cases s with
    | nil => exact proper rfl
    | cons c s =>
      obtain ⟨rfl,follows⟩ := List.cons_prefix_cons.mp starts
      obtain all | rfl := e.mark_inside s part
      · obtain rfl := (List.cons.inj all).2
        rw [List.append_eq,List.append_assoc] at follows
        exact e.opening_not_closing name _ follows
      · exact others.1 (closing_starts name named _ _ e.named follows)

theorem cut?_closing (s rest : List Char) (plain : '<' ∉ s) :
    cut? ('<' :: closing name) (s ++ '<' :: (closing name ++ rest)) = some (s,rest) := by
  have found := Text.cut?_mark '<' (closing name) (closing_plain name named) s rest
    fun inside => plain (inside.subset List.mem_cons_self)
  simpa using found

theorem cut?_element (e : Element) (rest : List Char) (same : e.tag = name) :
    cut? ('<' :: closing name) (e.markup ++ rest) = some ('<' :: e.opening,rest) := by
  have opens : after? ('<' :: closing name) (e.markup ++ rest) = none := by
    rw [Text.after?_eq_none_iff,Element.markup,List.cons_append,List.append_assoc,List.cons_prefix_cons]
    exact fun starts => e.opening_not_closing name _ starts.2
  have found := cut?_closing name named e.opening rest e.opening_plain
  rw [Element.markup,same,List.cons_append,List.append_assoc] at opens ⊢
  rw [cut?,opens]
  dsimp only
  rw [List.cons_append,found]
  rfl

end Cutting

/-- A kind of elements that are recognised by their names. What is found of an element is told by the name that it was
recognised by, by its classes and by the text up to the next closing tag of that name. -/
structure Family (α : Type) where
  recognise : Recogniser α
  names : List (List Char)
  find : List Char → List Char → List Char → α
  proper : [] ∉ names
  named : ∀ name ∈ names, IsName name
  apart : ∀ name ∈ names, ∀ other ∈ names, name <+: other → name = other
  shortens : Text.Shortens fun s => (recognise s).map Prod.snd
  opens : ∀ name ∈ names, ∀ more classes body, IsName more → Quotable classes →
    recognise ('<' :: (name ++ (more ++ (" className=\"".toList ++ (classes ++ '"' :: '>' :: body))))) =
      (cut? ('<' :: closing name) body).map fun parts => (find name classes parts.1,parts.2)
  silent : ∀ s, (∀ name ∈ names, ¬ '<' :: name <+: s) → recognise s = none

namespace Family

variable {α : Type} (family : Family α)

theorem recognise_opened (e : Element) (rest name : List Char) (known : name ∈ family.names) (starts : name <+: e.tag) :
    family.recognise (e.markup ++ rest) =
      (cut? ('<' :: closing name) (e.text ++ '<' :: (closing e.tag ++ rest))).map fun parts =>
        (family.find name e.classes parts.1,parts.2) := by
  obtain ⟨more,split⟩ := starts
  have within : IsName more := fun c inside => e.named c (split ▸ List.mem_append_right name inside)
  have opened := family.opens name known more e.classes (e.text ++ '<' :: (closing e.tag ++ rest)) within e.quotable
  rw [← opened]
  simp [Element.markup,Element.opening,← split]

theorem recognise_unopened (e : Element) (rest : List Char) (other : ∀ name ∈ family.names, ¬ name <+: e.tag) :
    family.recognise (e.markup ++ rest) = none := by
  refine family.silent _ fun name known starts => other name known ?_
  obtain ⟨after,spelled⟩ : ∃ after, e.markup ++ rest = '<' :: (e.tag ++ ' ' :: after) :=
    ⟨"className=\"".toList ++ (e.classes ++ '"' :: '>' :: e.text ++ '<' :: closing e.tag) ++ rest,
      by simp [Element.markup,Element.opening]⟩
  rw [spelled] at starts
  obtain ⟨more,split⟩ := (List.cons_prefix_cons.mp starts).2
  obtain ⟨extra,inside,_⟩ | ⟨extra,rfl,follows⟩ := List.append_eq_append_iff.mp split
  · exact ⟨extra,inside.symm⟩
  · -- A blank follows the tag, and there is none in a name.
    cases extra with
    | nil => exact ⟨[],by simp⟩
    | cons c extra =>
      obtain rfl : ' ' = c := (List.cons.inj follows).1
      exact absurd (List.mem_append_right _ List.mem_cons_self) ((family.named _ known).without ' ' (by decide))

/-- Nothing is found in an element behind the start of its opening tag. -/
theorem silent_inside (e : Element) (rest s : List Char) (proper : s ≠ []) (part : s <:+ e.markup)
    (inside : s ≠ e.markup) : family.recognise (s ++ rest) = none := by
  refine family.silent _ fun name known starts => ?_
  cases s with
  | nil => exact proper rfl
  | cons c s =>
    obtain ⟨rfl,follows⟩ := List.cons_prefix_cons.mp starts
    obtain all | rfl := e.mark_inside s part
    · exact inside all
    · cases name with
      | nil => exact family.proper known
      | cons d name =>
        obtain rfl : d = '/' := (List.cons_prefix_cons.mp follows).1
        exact (family.named _ known).without '/' (by decide) List.mem_cons_self

theorem finds_past (e : Element) (rest : List Char) (passed : family.recognise (e.markup ++ rest) = none) :
    Text.finds family.recognise (e.markup ++ rest) = Text.finds family.recognise rest := by
  refine Text.finds_skip _ _ _ fun s proper part => ?_
  by_cases whole : s = e.markup
  · rw [whole]
    exact passed
  · exact family.silent_inside e rest s proper part whole

/-- No name comes later that an element of a longer name could be ended by. -/
def Clear (e : Element) (later : List Element) : Prop :=
  ∀ other ∈ later, other.tag ∈ family.names → other.tag <+: e.tag → e.tag = other.tag

/-- An element that no later name ends is read for itself. -/
theorem finds_clear (e : Element) (later : List Element) (clear : family.Clear e later) :
    Text.finds family.recognise (markupOf (e :: later)) =
      (if e.tag ∈ family.names then [family.find e.tag e.classes e.text] else []) ++
        Text.finds family.recognise (markupOf later) := by
  rw [markupOf,List.flatMap_cons,← markupOf]
  split
  · rename_i known
    have found := family.recognise_opened e (markupOf later) e.tag known (List.prefix_refl _)
    rw [cut?_closing e.tag e.named e.text _ e.flat.1] at found
    exact Text.finds_found _ family.shortens _ _ (markupOf later) _ found
  · rename_i unknown
    refine family.finds_past e _ ?_
    by_cases opened : ∃ name ∈ family.names, name <+: e.tag
    · obtain ⟨name,known,starts⟩ := opened
      have other : e.tag ≠ name := fun same => unknown (same ▸ known)
      have others : ∀ o ∈ later, o.tag ≠ name := fun o among same =>
        other ((clear o among (same ▸ known) (same ▸ starts)).trans same)
      have unended := cut?_elements name (family.named _ known) later [] others
      rw [List.append_nil] at unended
      rw [family.recognise_opened e _ name known starts,cut?_past name (family.named _ known) e _ other,unended]
      rfl
    · exact family.recognise_unopened e _ fun name known starts => opened ⟨name,known,starts⟩

/-- The text from an element of a longer name up to the closing tag that it is ended by. -/
def swallowed (e : Element) (between : List Element) (last : Element) : List Char :=
  e.text ++ '<' :: closing e.tag ++ (markupOf between ++ '<' :: last.opening)

/-- An element of a longer name takes all elements up to the first one of the recognised name. -/
theorem finds_swallowed (e last : Element) (between rest : List Element) (known : last.tag ∈ family.names)
    (starts : last.tag <+: e.tag) (other : e.tag ≠ last.tag) (others : ∀ o ∈ between, o.tag ≠ last.tag) :
    Text.finds family.recognise (markupOf (e :: (between ++ last :: rest))) =
      family.find last.tag e.classes (swallowed e between last) :: Text.finds family.recognise (markupOf rest) := by
  have found := family.recognise_opened e (markupOf between ++ (last.markup ++ markupOf rest)) last.tag known starts
  rw [cut?_past last.tag last.named e _ other,cut?_elements last.tag last.named between _ others,
    cut?_element last.tag last.named last _ rfl] at found
  have split : markupOf (e :: (between ++ last :: rest)) =
      e.markup ++ (markupOf between ++ (last.markup ++ markupOf rest)) := by
    simp [markupOf]
  rw [split]
  exact Text.finds_found _ family.shortens _ _ (markupOf rest) _ found

/-- Elements are read one by one if each of them is. -/
theorem finds_elements (elements : List Element)
    (apart : (elements.map Element.tag).Pairwise fun e other => other ∈ family.names → other <+: e → e = other) :
    Text.finds family.recognise (markupOf elements) = (elements.filter fun e => e.tag ∈ family.names).map fun e =>
      family.find e.tag e.classes e.text := by
  induction elements with
  | nil => rfl
  | cons e later ih =>
    rw [List.map_cons,List.pairwise_cons] at apart
    have clear : family.Clear e later := fun other among => apart.1 other.tag (List.mem_map_of_mem among)
    rw [family.finds_clear e later clear,ih apart.2]
    by_cases known : e.tag ∈ family.names <;> simp [known]

/-- Else one of them takes others with it. -/
theorem swallowed_found (elements : List Element)
    (mixed : ¬ (elements.map Element.tag).Pairwise fun e other => other ∈ family.names → other <+: e → e = other) :
    ∃ name classes, ∃ e ∈ elements, ∃ between, ∃ last ∈ elements, last.tag ∈ family.names ∧
      family.find name classes (swallowed e between last) ∈ Text.finds family.recognise (markupOf elements) := by
  induction elements with
  | nil => exact absurd List.Pairwise.nil mixed
  | cons e later ih =>
    by_cases clear : family.Clear e later
    · have rest : ¬ (later.map Element.tag).Pairwise fun e other => other ∈ family.names → other <+: e → e = other := by
        intro apart
        refine mixed (List.pairwise_cons.mpr ⟨fun tag among => ?_,apart⟩)
        obtain ⟨other,inside,rfl⟩ := List.mem_map.mp among
        exact clear other inside
      obtain ⟨name,classes,first,among,between,last,ended,known,found⟩ := ih rest
      refine ⟨name,classes,first,List.mem_cons_of_mem e among,between,last,List.mem_cons_of_mem e ended,known,?_⟩
      rw [family.finds_clear e later clear]
      exact List.mem_append_right _ found
    · unfold Clear at clear
      push Not at clear
      obtain ⟨other,among,known,starts,longer⟩ := clear
      -- The first element of that name is the one that ends it.
      have present : (later.find? fun o => o.tag = other.tag).isSome := by
        rw [List.find?_isSome]
        exact ⟨other,among,by simp⟩
      obtain ⟨last,first⟩ := Option.isSome_iff_exists.mp present
      obtain ⟨same,between,rest,split,others⟩ := List.find?_eq_some_iff_append.mp first
      have same : last.tag = other.tag := by simpa using same
      refine ⟨last.tag,e.classes,e,List.mem_cons_self,between,last,?_,same ▸ known,?_⟩
      · simp [split]
      · rw [split,family.finds_swallowed e last between rest (same ▸ known) (same ▸ starts) (same ▸ longer)
          fun o inside => by simpa [same] using others o inside]
        exact List.mem_cons_self

end Family

end Pagewright.Page
