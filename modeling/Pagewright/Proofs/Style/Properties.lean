import Pagewright.Proofs.Style.Patterns
import Pagewright.Proofs.Table
import Pagewright.Style.Extract

/-! Custom properties where they stand in a stylesheet, and the colors that are read off them. -/
namespace Pagewright.Style
open Text (after? finds firstMatch? span_eq_iff trim)

/-- What a custom property declares: a name, and a value without white space at its ends. -/
structure Declared (property : List Char × List Char) : Prop where
  named : property.1 ≠ []
  name : ∀ c ∈ property.1, isNameChar c = true
  trimmed : trim property.2 = property.2
  within : ';' ∉ property.2

/-- A custom property with its name and the text up to its semicolon. -/
def IsProperty (name body found : List Char) : Prop :=
  name ≠ [] ∧ (∀ c ∈ name, isNameChar c = true) ∧ body ≠ [] ∧ ';' ∉ body ∧
    found = "--".toList ++ name ++ ':' :: (body ++ [';'])

theorem customProperty?_eq_some_iff (s name value rest : List Char) :
    customProperty? s = some ((name,value),rest) ↔
      ∃ body found, IsProperty name body found ∧ value = trim body ∧ s = found ++ rest := by
  constructor
  · intro read
    obtain ⟨after,opened,read⟩ := Option.bind_eq_some_iff.mp read
    cases spanned : after.span isNameChar with
    | mk front last =>
      rw [spanned] at read
      dsimp only at read
      split at read
      · next more =>
        obtain ⟨passed,_,split⟩ := (span_eq_iff _ _ _ _ _).mp spanned
        split at read
        · cases read
        · next named =>
          obtain ⟨⟨body,left⟩,ended,read⟩ := Option.bind_eq_some_iff.mp read
          obtain ⟨filled,within,again⟩ := (untilSemicolon?_eq_some_iff _ _ _).mp ended
          cases read
          refine ⟨body,_,⟨by simpa using named,passed,filled,within,rfl⟩,rfl,?_⟩
          rw [Text.after?_eq_some_iff.mp opened,split,again]
          simp
      · cases read
  · rintro ⟨body,_,⟨named,passed,filled,within,rfl⟩,rfl,rfl⟩
    have opened : after? "--".toList ("--".toList ++ name ++ ':' :: (body ++ [';']) ++ rest) =
        some (name ++ ':' :: (body ++ ';' :: rest)) := Text.after?_eq_some_iff.mpr (by simp)
    have spanned := (span_eq_iff isNameChar _ name (body ++ ';' :: rest) ':').mpr ⟨passed,by decide,rfl⟩
    have ended := (untilSemicolon?_eq_some_iff (body ++ ';' :: rest) body rest).mpr ⟨filled,within,rfl⟩
    unfold customProperty?
    rw [opened]
    simp only [Option.bind_eq_bind,Option.bind_some,spanned]
    rw [if_neg (by simpa using named),ended]
    rfl

theorem customProperty?_shortens : Text.Shortens fun s => (customProperty? s).map Prod.snd := by
  intro c s rest found
  obtain ⟨⟨⟨name,value⟩,_⟩,read,rfl⟩ := Option.map_eq_some_iff.mp found
  obtain ⟨body,_,⟨_,_,_,_,rfl⟩,_,split⟩ := (customProperty?_eq_some_iff _ _ _ _).mp read
  have size := congrArg List.length split
  simp at size ⊢
  omega

theorem customProperty?_declared (s rest : List Char) (property : List Char × List Char)
    (read : customProperty? s = some (property,rest)) : Declared property := by
  obtain ⟨name,value⟩ := property
  obtain ⟨body,_,⟨named,passed,_,within,_⟩,rfl,_⟩ := (customProperty?_eq_some_iff _ _ _ _).mp read
  refine ⟨named,passed,Text.trim_of_inked _ (Text.trim_inked body),fun inside => within ?_⟩
  exact (Text.trim_within body).subset inside

theorem customProperty?_rest (s rest : List Char) (property : List Char × List Char)
    (read : customProperty? s = some (property,rest)) : rest <:+ s := by
  obtain ⟨body,found,_,_,rfl⟩ := (customProperty?_eq_some_iff _ _ _ _).mp read
  exact List.suffix_append found rest

section Finding

variable {α : Type} (recognise : Text.Recogniser α)

theorem mem_finds (within : ∀ s found rest, recognise s = some (found,rest) → rest <:+ s) (s : List Char) (found : α)
    (member : found ∈ finds recognise s) : ∃ t rest, t <:+ s ∧ recognise t = some (found,rest) := by
  unfold finds at member
  generalize s.length = fuel at member
  induction fuel generalizing s with
  | zero => cases member
  | succ fuel ih =>
    cases s with
    | nil => cases member
    | cons c s =>
      rw [Text.findsWithin] at member
      split at member
      next first rest here =>
        obtain rfl | member := List.mem_cons.mp member
        · exact ⟨c :: s,rest,List.suffix_refl _,here⟩
        · obtain ⟨t,more,part,there⟩ := ih rest member
          exact ⟨t,more,part.trans (within _ _ _ here),there⟩
      next =>
        obtain ⟨t,more,part,there⟩ := ih s member
        exact ⟨t,more,part.trans (List.suffix_cons c s),there⟩

theorem firstMatch?_success (s : List Char) (found : α) (first : firstMatch? recognise s = some found) :
    ∃ t rest, t <:+ s ∧ recognise t = some (found,rest) := by
  induction s with
  | nil => cases first
  | cons c s ih =>
    rw [firstMatch?] at first
    split at first
    next there rest here =>
      cases first
      exact ⟨c :: s,rest,List.suffix_refl _,here⟩
    next =>
      obtain ⟨t,rest,part,there⟩ := ih first
      exact ⟨t,rest,part.trans (List.suffix_cons c s),there⟩

theorem firstMatch?_found (s rest : List Char) (found : α) (proper : s ≠ []) (here : recognise s = some (found,rest)) :
    firstMatch? recognise s = some found := by
  cases s with
  | nil => exact absurd rfl proper
  | cons c s => rw [firstMatch?,here]

end Finding

theorem mem_finds_property (s : List Char) (property : List Char × List Char) (member : property ∈ finds customProperty? s) :
    ∃ body found, IsProperty property.1 body found ∧ property.2 = trim body ∧ found <:+: s := by
  obtain ⟨t,rest,within,read⟩ := mem_finds _ (fun s found rest => customProperty?_rest s rest found) s property member
  obtain ⟨body,found,is,value,rfl⟩ := (customProperty?_eq_some_iff _ _ _ _).mp read
  exact ⟨body,found,is,value,(List.prefix_append found rest).isInfix.trans within.isInfix⟩

/-- The properties of a stylesheet that are taken for colors: those with a telling name anywhere, and all of the first
root block. -/
def colorProperties (css : List Char) : List (List Char × List Char) :=
  (finds customProperty? css).filter (fun property => isColorName property.1) ++
    ((firstMatch? rootBlock? css).map (finds customProperty?)).getD []

theorem extractColors_properties (css : List Char) : extractColors css = declare [] (colorProperties css) := by
  rw [colorProperties,declare,List.foldl_append]
  rfl

theorem colorProperties_declared (css : List Char) (property : List Char × List Char)
    (member : property ∈ colorProperties css) : Declared property := by
  have each (s : List Char) (inside : property ∈ finds customProperty? s) : Declared property := by
    obtain ⟨t,rest,_,read⟩ := mem_finds _ (fun s found rest => customProperty?_rest s rest found) s property inside
    exact customProperty?_declared t rest property read
  obtain telling | root := List.mem_append.mp member
  · exact each css (List.mem_filter.mp telling).1
  · cases first : firstMatch? rootBlock? css with
    | none => rw [first] at root; cases root
    | some body => rw [first] at root; exact each body root

/-- An entry of a table of colors, as it is declared. -/
def asProperty (entry : String × String) : List Char × List Char := (entry.1.toList,entry.2.toList)

theorem mem_declare (colors : Table String) (properties : List (List Char × List Char)) (entry : String × String)
    (member : entry ∈ declare colors properties) : entry ∈ colors ∨ asProperty entry ∈ properties := by
  induction properties generalizing colors with
  | nil => exact .inl member
  | cons property properties ih =>
    obtain put | later := ih _ member
    · obtain rfl | old := Table.mem_put _ _ _ _ put
      · exact .inr (by simp [asProperty])
      · exact .inl old
    · exact .inr (List.mem_cons_of_mem property later)

theorem declare_nodup (colors : Table String) (properties : List (List Char × List Char)) (apart : colors.keys.Nodup) :
    (declare colors properties).keys.Nodup := by
  induction properties generalizing colors with
  | nil => exact apart
  | cons property properties ih => exact ih _ (Table.nodup_put colors _ _ apart)

/-- No name is read as that of two colors. -/
theorem extractColors_nodup (css : List Char) : (extractColors css).keys.Nodup :=
  declare_nodup _ _ (declare_nodup [] _ List.nodup_nil)

theorem extractColors_declared (css : List Char) (entry : String × String) (member : entry ∈ extractColors css) :
    asProperty entry ∈ colorProperties css := by
  rw [extractColors_properties] at member
  obtain none | inside := mem_declare _ _ _ member
  · cases none
  · exact inside

end Pagewright.Style
