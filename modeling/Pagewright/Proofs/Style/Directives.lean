import Pagewright.Proofs.Style.Patterns

/-! Directives that stand at the start of a statement. A pass over them takes whole statements away, so it puts no word
together that was not there before, and no directive is left behind or made by a later pass. -/
namespace Pagewright.Style
open Text (isBlank Silent Recognises erase)

def directiveWords : List (List Char) := ["@tailwind".toList,"@apply".toList,"@layer".toList]

/-- A stylesheet without the directives of the build tool. -/
def withoutDirectives (css : List Char) : List Char :=
  erase layerStart? (erase (directive? "@apply".toList) (erase (directive? "@tailwind".toList) css))

theorem clean_eq (css : List Char) : clean css = Text.trim (erase emptyRule? (withoutDirectives css)) := rfl

/-- No directive is found at any place of a text. -/
structure DirectiveFree (s : List Char) : Prop where
  tailwind : Silent (directive? "@tailwind".toList) s
  apply : Silent (directive? "@apply".toList) s
  layer : Silent layerStart? s

theorem DirectiveFree.part (s part : List Char) (free : DirectiveFree s) (within : part <:+: s) :
    DirectiveFree part where
  tailwind := (directive?_recognises _ (by decide)).silent_part s part free.tailwind within
  apply := (directive?_recognises _ (by decide)).silent_part s part free.apply within
  layer := layerStart?_recognises.silent_part s part free.layer within

/-- A character behind which a new statement starts. -/
def isBoundary (c : Char) : Bool := c == ';' || isBrace c

/-- A text without boundaries. -/
def Unbroken (s : List Char) : Prop := ∀ c ∈ s, isBoundary c = false

instance (s : List Char) : Decidable (Unbroken s) := List.decidableBAll (fun c => isBoundary c = false) s

theorem unbroken_cons (c : Char) (s : List Char) : Unbroken (c :: s) ↔ isBoundary c = false ∧ Unbroken s :=
  List.forall_mem_cons

theorem unbroken_append (s t : List Char) : Unbroken (s ++ t) ↔ Unbroken s ∧ Unbroken t :=
  List.forall_mem_append

/-- Whether the words of directives come at the start of statements only, if the text starts there or not. -/
def apartFrom : Bool → List Char → Bool
  | _,[] => true
  | start,c :: s => (start || directiveWords.all fun word => !Text.startsWith word (c :: s)) &&
      apartFrom (isBoundary c || (start && isBlank c)) s

/-- Directives come at the start of statements only. -/
def DirectivesApart (css : List Char) : Prop := apartFrom true css = true

instance (css : List Char) : Decidable (DirectivesApart css) := inferInstanceAs (Decidable (_ = _))

theorem directiveWords_marked : ∀ word ∈ directiveWords,
    word = '@' :: word.tail ∧ Unbroken word.tail := by
  decide

theorem apartFrom_word (s word : List Char) (known : word ∈ directiveWords) (here : word <+: s) :
    apartFrom false s = false := by
  cases s with
  | nil =>
    have marked := (directiveWords_marked word known).1
    rw [List.prefix_nil.mp here] at marked
    cases marked
  | cons c s =>
    rw [apartFrom,Bool.false_or,Bool.and_eq_false_iff]
    left
    rw [List.all_eq_false]
    exact ⟨word,known,by simpa [Text.startsWith_iff] using here⟩

theorem apartFrom_behind (start : Bool) (before s : List Char) (c : Char) (boundary : isBoundary c = true)
    (apart : apartFrom start (before ++ c :: s) = true) : apartFrom true s = true := by
  induction before generalizing start with
  | nil =>
    rw [List.nil_append,apartFrom,Bool.and_eq_true,boundary,Bool.true_or] at apart
    exact apart.2
  | cons d before ih =>
    rw [List.cons_append,apartFrom,Bool.and_eq_true] at apart
    exact ih _ apart.2

/-- Texts at which nothing is found before the next boundary. -/
structure Quiet (pattern : List Char → Option (List Char)) (quiet : List Char → Prop) : Prop where
  silent : ∀ s, quiet s → pattern s = none
  step : ∀ c s, isBoundary c = false → quiet (c :: s) → quiet s

namespace Quiet

variable {pattern : List Char → Option (List Char)} {quiet : List Char → Prop} (calm : Quiet pattern quiet)
include calm

/-- Up to the next boundary a quiet text is left as it is. -/
theorem erase_split (s first rest : List Char) (here : quiet s) (plain : Unbroken first)
    (split : erase pattern s = first ++ rest) :
    ∃ after, s = first ++ after ∧ erase pattern after = rest ∧ quiet after := by
  induction first generalizing s with
  | nil => exact ⟨s,rfl,split,here⟩
  | cons d first ih =>
    rw [unbroken_cons] at plain
    cases s with
    | nil => cases split
    | cons c s =>
      rw [Text.erase_kept _ c s (calm.silent _ here)] at split
      obtain ⟨rfl,tail⟩ := List.cons.inj split
      obtain ⟨after,rfl,left,still⟩ := ih s (calm.step c s plain.1 here) plain.2 tail
      exact ⟨after,rfl,left,still⟩

theorem erase_head (s : List Char) (here : quiet s) : (erase pattern s).head? = s.head? := by
  cases s with
  | nil => rfl
  | cons c s => rw [Text.erase_kept _ c s (calm.silent _ here)]; rfl

end Quiet

/-- A pattern whose finds start with a mark, and for which only the text up to the next boundary matters, the boundary
itself and that a semicolon comes after it. -/
def Local (pattern : List Char → Option (List Char)) : Prop :=
  ∀ s, pattern s ≠ none → ∃ first rest, s = '@' :: (first ++ rest) ∧ Unbroken first ∧
    ∀ other, other.head? = rest.head? → (';' ∈ rest → ';' ∈ other) → pattern ('@' :: (first ++ other)) ≠ none

theorem blank_plain (c : Char) (blank : isBlank c = true) : isBoundary c = false := by
  by_contra boundary
  simp only [isBoundary,isBrace,Bool.not_eq_false,Bool.or_eq_true,beq_iff_eq] at boundary
  rcases boundary with rfl | rfl | rfl <;> cases blank

theorem layerChar_plain (c : Char) (layer : isLayerChar c = true) : isBoundary c = false := by
  by_contra boundary
  simp only [isBoundary,isBrace,Bool.not_eq_false,Bool.or_eq_true,beq_iff_eq] at boundary
  rcases boundary with rfl | rfl | rfl <;> exact absurd layer (by decide)

theorem directive?_local (word : List Char) (plain : Unbroken word) :
    Local (directive? ('@' :: word)) := by
  have recognises := directive?_recognises ('@' :: word) (List.cons_ne_nil _ _)
  intro s found
  obtain ⟨rest,found⟩ := Option.ne_none_iff_exists'.mp found
  obtain ⟨_,⟨blank,body,white,filled,within,rfl⟩,rfl⟩ := (recognises.found_iff _ _).mp found
  refine ⟨word ++ [blank],body ++ ';' :: rest,by simp,?_,fun other same ended => ?_⟩
  · rw [unbroken_append]
    exact ⟨plain,List.forall_mem_singleton.mpr (blank_plain blank white)⟩
  obtain ⟨more,left,rfl,unended⟩ := List.eq_append_cons_of_mem (ended (by simp))
  have proper : more ≠ [] := by
    rintro rfl
    cases body with
    | nil => exact filled rfl
    | cons c body => exact within (List.mem_cons.mpr (.inl (Option.some.inj same)))
  have again := (recognises.found_iff ('@' :: (word ++ [blank] ++ (more ++ ';' :: left))) left).mpr
    ⟨_,⟨blank,more,white,proper,unended,rfl⟩,by simp⟩
  exact Option.ne_none_iff_exists'.mpr ⟨left,again⟩

theorem layerStart?_local : Local layerStart? := by
  intro s found
  obtain ⟨rest,found⟩ := Option.ne_none_iff_exists'.mp found
  obtain ⟨_,⟨blank,names,white,filled,layers,rfl⟩,rfl⟩ := (layerStart?_recognises.found_iff _ _).mp found
  refine ⟨"layer".toList ++ blank :: names,'\x7b' :: rest,by simp,?_,fun other same _ => ?_⟩
  · rw [unbroken_append,unbroken_cons]
    exact ⟨by decide,blank_plain blank white,fun c inside => layerChar_plain c (layers c inside)⟩
  cases other with
  | nil => cases same
  | cons c other =>
    obtain rfl := Option.some.inj same
    have again := (layerStart?_recognises.found_iff
      ('@' :: ("layer".toList ++ blank :: names ++ '\x7b' :: other)) other).mpr
      ⟨_,⟨blank,names,white,filled,layers,rfl⟩,by simp⟩
    exact Option.ne_none_iff_exists'.mpr ⟨other,again⟩

/-- What a pass keeps while it goes through a text, so that a mark that it passes over is followed by a quiet text. -/
structure Careful (pattern : List Char → Option (List Char)) (inv quiet : List Char → Prop) : Prop
    extends Quiet pattern quiet where
  found : ∀ s rest, inv s → pattern s = some rest → inv rest
  kept : ∀ c s, inv (c :: s) → pattern (c :: s) = none → inv s
  marked : ∀ s, inv ('@' :: s) → pattern ('@' :: s) = none → quiet s

/-- A careful pass makes no find of a local pattern, and leaves none behind that it finds itself. -/
theorem Careful.silent_erase {pattern other : List Char → Option (List Char)} {piece inv quiet : List Char → Prop}
    (recognises : Recognises pattern piece) (careful : Careful pattern inv quiet) (near : Local other) (s : List Char)
    (start : inv s) (known : ∀ t, t <:+ s → other t ≠ none → pattern t ≠ none) : Silent other (erase pattern s) := by
  induction s using Text.erase_induct pattern recognises.shortens with
  | nil =>
    intro t suffix
    by_contra found
    exact known t suffix found (by rw [List.suffix_nil.mp suffix,recognises.at_nil])
  | found c s rest found ih =>
    obtain ⟨first,_,split⟩ := (recognises.found_iff _ _).mp found
    rw [Text.erase_found pattern recognises.shortens c s rest found]
    exact ih (careful.found _ _ start found) fun t suffix => known t (suffix.trans ⟨first,split.symm⟩)
  | kept c s passed ih =>
    rw [Text.erase_kept pattern c s passed]
    intro t suffix
    obtain rfl | within := List.suffix_cons_iff.mp suffix
    · by_contra found
      obtain ⟨first,rest,split,plain,enough⟩ := near _ found
      obtain ⟨rfl,tail⟩ := List.cons.inj split
      obtain ⟨after,rfl,left,still⟩ :=
        careful.erase_split s first rest (careful.marked s start passed) plain tail
      -- The text before the pass has the same find.
      refine known _ (List.suffix_refl _) (enough after ?_ fun ended => ?_) passed
      · rw [← left,careful.erase_head after still]
      · exact (recognises.erase_sublist after).subset (left ▸ ended)
    · exact ih (careful.kept c s start passed) (fun t suffix => known t (suffix.trans (List.suffix_cons c s))) t within

/-- A pass over pieces that start with the word of a directive and end with a semicolon or an opening brace. -/
structure DirectivePass (pattern : List Char → Option (List Char)) (piece : List Char → Prop) : Prop
    extends Recognises pattern piece where
  opens : ∀ found, piece found → ∃ word ∈ directiveWords, word <+: found
  closes : ∀ found, piece found → ∃ body c, found = body ++ [c] ∧ isBoundary c = true ∧ c ≠ '\x7d'

theorem directive?_pass (word : List Char) (known : word ∈ directiveWords) :
    DirectivePass (directive? word) (IsDirective word) where
  toRecognises := directive?_recognises word fun none => by
    have marked := (directiveWords_marked word known).1
    rw [none] at marked
    cases marked
  opens := by
    rintro _ ⟨blank,body,_,_,_,rfl⟩
    exact ⟨word,known,List.prefix_append _ _⟩
  closes := by
    rintro _ ⟨blank,body,_,_,_,rfl⟩
    exact ⟨word ++ blank :: body,';',by simp,by decide,by decide⟩

theorem layerStart?_pass : DirectivePass layerStart? IsLayerStart where
  toRecognises := layerStart?_recognises
  opens := by
    rintro _ ⟨blank,names,_,_,_,rfl⟩
    exact ⟨"@layer".toList,by decide,List.prefix_append _ _⟩
  closes := by
    rintro _ ⟨blank,names,_,_,_,rfl⟩
    exact ⟨"@layer".toList ++ blank :: names,'\x7b',by simp,by decide,by decide⟩

namespace DirectivePass

variable {pattern : List Char → Option (List Char)} {piece : List Char → Prop} (pass : DirectivePass pattern piece)
include pass

theorem quiet : Quiet pattern fun s => apartFrom false s = true where
  silent := by
    intro s apart
    cases here : pattern s with
    | none => rfl
    | some rest =>
      obtain ⟨found,is,rfl⟩ := (pass.found_iff _ _).mp here
      obtain ⟨word,known,opens⟩ := pass.opens found is
      rw [apartFrom_word _ word known (opens.trans (List.prefix_append found rest))] at apart
      cases apart
  step := by
    intro c s plain apart
    rw [apartFrom,Bool.and_eq_true,plain,Bool.false_and,Bool.or_false] at apart
    exact apart.2

/-- Behind a find the text goes on at the start of a statement. -/
theorem apart_behind (start : Bool) (s rest : List Char) (apart : apartFrom start s = true)
    (found : pattern s = some rest) : start = true ∧ apartFrom true rest = true := by
  obtain ⟨first,is,rfl⟩ := (pass.found_iff _ _).mp found
  constructor
  · cases start with
    | true => rfl
    | false => rw [pass.quiet.silent _ apart] at found; cases found
  · obtain ⟨body,c,rfl,boundary,_⟩ := pass.closes first is
    rw [List.append_assoc] at apart
    exact apartFrom_behind start body rest c boundary apart

theorem careful : Careful pattern (fun s => ∃ start, apartFrom start s = true) fun s => apartFrom false s = true where
  toQuiet := pass.quiet
  found := fun s rest ⟨start,apart⟩ found => ⟨true,(pass.apart_behind start s rest apart found).2⟩
  kept := by
    rintro c s ⟨start,apart⟩ _
    rw [apartFrom,Bool.and_eq_true] at apart
    exact ⟨_,apart.2⟩
  marked := by
    rintro s ⟨start,apart⟩ _
    have plain : isBoundary '@' = false ∧ isBlank '@' = false := by decide
    rw [apartFrom,Bool.and_eq_true,plain.1,plain.2,Bool.and_false,Bool.or_false] at apart
    exact apart.2

theorem apart_erase (start : Bool) (s : List Char) (apart : apartFrom start s = true) :
    apartFrom start (erase pattern s) = true := by
  induction s using Text.erase_induct pattern pass.shortens generalizing start with
  | nil => rfl
  | found c s rest found ih =>
    obtain ⟨rfl,behind⟩ := pass.apart_behind start _ rest apart found
    rw [Text.erase_found pattern pass.shortens c s rest found]
    exact ih true behind
  | kept c s passed ih =>
    rw [Text.erase_kept pattern c s passed]
    rw [apartFrom,Bool.and_eq_true] at apart ⊢
    refine ⟨?_,ih _ apart.2⟩
    cases start with
    | true => rfl
    | false =>
      rw [Bool.false_or,List.all_eq_true] at apart ⊢
      intro word known
      rw [Bool.not_eq_true',Bool.eq_false_iff,Ne,Text.startsWith_iff]
      rintro ⟨rest,split⟩
      -- A word that the pass had put together would have been there before it.
      obtain ⟨marked,plain⟩ := directiveWords_marked word known
      rw [marked] at split
      obtain ⟨rfl,tail⟩ := List.cons.inj split
      have here := pass.careful.marked s ⟨false,by
        rw [apartFrom,Bool.and_eq_true,Bool.false_or,List.all_eq_true]
        exact apart⟩ passed
      obtain ⟨after,rfl,_,_⟩ := pass.quiet.erase_split s word.tail rest here plain tail.symm
      have absent := apart.1 word known
      rw [Bool.not_eq_true',Bool.eq_false_iff,Ne,Text.startsWith_iff] at absent
      exact absent ⟨after,by rw [marked]; rfl⟩

end DirectivePass

/-- An empty rule takes all of its selector. -/
theorem emptyRule?_wider (c : Char) (s rest : List Char) (plain : isBrace c = false)
    (found : emptyRule? s = some rest) : emptyRule? (c :: s) = some rest := by
  obtain ⟨_,⟨selector,inside,_,unbraced,white,rfl⟩,rfl⟩ := (emptyRule?_recognises.found_iff _ _).mp found
  exact (emptyRule?_recognises.found_iff _ _).mpr
    ⟨_,⟨c :: selector,inside,List.cons_ne_nil _ _,List.forall_mem_cons.mpr ⟨plain,unbraced⟩,white,rfl⟩,rfl⟩

theorem emptyRule?_none_of_wider (c : Char) (s : List Char) (plain : isBrace c = false)
    (passed : emptyRule? (c :: s) = none) : emptyRule? s = none := by
  cases here : emptyRule? s with
  | none => rfl
  | some rest => rw [emptyRule?_wider c s rest plain here] at passed; cases passed

theorem emptyRule?_careful :
    Careful emptyRule? (fun _ => True) fun s => ∃ c, isBrace c = false ∧ emptyRule? (c :: s) = none where
  silent := fun s ⟨c,plain,passed⟩ => emptyRule?_none_of_wider c s plain passed
  step := by
    rintro d s boundary ⟨c,plain,passed⟩
    exact ⟨d,(Bool.or_eq_false_iff.mp boundary).2,emptyRule?_none_of_wider c _ plain passed⟩
  found := fun _ _ _ _ => trivial
  kept := fun _ _ _ _ => trivial
  marked := fun s _ passed => ⟨'@',by decide,passed⟩

/-- Directives at the start of statements go without a trace. -/
theorem withoutDirectives_free (css : List Char) (apart : DirectivesApart css) :
    DirectiveFree (withoutDirectives css) := by
  have tailwind := directive?_pass "@tailwind".toList (by decide)
  have apply := directive?_pass "@apply".toList (by decide)
  have layer := layerStart?_pass
  have near (word : List Char) (known : word ∈ directiveWords) : Local (directive? word) := by
    obtain ⟨marked,plain⟩ := directiveWords_marked word known
    rw [marked]
    exact directive?_local word.tail plain
  have first := tailwind.apart_erase true css apart
  have second := apply.apart_erase true _ first
  have tailwindFree := tailwind.careful.silent_erase tailwind.toRecognises (near _ (by decide)) css ⟨true,apart⟩
    fun _ _ found => found
  have tailwindStill := apply.careful.silent_erase apply.toRecognises (near _ (by decide)) _ ⟨true,first⟩
    fun t suffix found => absurd (tailwindFree t suffix) found
  have applyFree := apply.careful.silent_erase apply.toRecognises (near _ (by decide)) _ ⟨true,first⟩
    fun _ _ found => found
  exact {
    tailwind := layer.careful.silent_erase layer.toRecognises (near _ (by decide)) _ ⟨true,second⟩
      fun t suffix found => absurd (tailwindStill t suffix) found
    apply := layer.careful.silent_erase layer.toRecognises (near _ (by decide)) _ ⟨true,second⟩
      fun t suffix found => absurd (applyFree t suffix) found
    layer := layer.careful.silent_erase layer.toRecognises layerStart?_local _ ⟨true,second⟩ fun _ _ found => found }

/-- No directive comes back when empty rules are taken away. -/
theorem DirectiveFree.erase_emptyRule (s : List Char) (free : DirectiveFree s) :
    DirectiveFree (erase emptyRule? s) where
  tailwind := emptyRule?_careful.silent_erase emptyRule?_recognises (directive?_local "tailwind".toList (by decide)) s
    trivial fun t suffix found => absurd (free.tailwind t suffix) found
  apply := emptyRule?_careful.silent_erase emptyRule?_recognises (directive?_local "apply".toList (by decide)) s
    trivial fun t suffix found => absurd (free.apply t suffix) found
  layer := emptyRule?_careful.silent_erase emptyRule?_recognises layerStart?_local s
    trivial fun t suffix found => absurd (free.layer t suffix) found

end Pagewright.Style
