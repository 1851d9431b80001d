import Pagewright.Proofs.Style.Directives

/-! Statements of a stylesheet and what the passes over directives make of them. A pass goes through the statements one
by one where no directive is left open at the end of one, and a rule stays a rule or loses its start. -/
namespace Pagewright.Style
open Text (isBlank Silent AllBlank erase)

/-- None of the words of directives in a text. -/
def WordFree (s : List Char) : Prop := ∀ word ∈ directiveWords, ¬ word <:+: s

instance (s : List Char) : Decidable (WordFree s) := List.decidableBAll (fun word => ¬ word <:+: s) directiveWords

def importWord : List Char := "@import".toList

/-- An import: anything without braces and directives up to a semicolon. -/
structure Import where
  body : List Char
  braceless : Braceless body
  wordFree : WordFree (importWord ++ body ++ [';'])

def Import.text (i : Import) : List Char := importWord ++ i.body ++ [';']

theorem Import.text_wordFree (i : Import) : WordFree i.text := i.wordFree

/-- A rule: a selector and declarations with a semicolon between two of them. Declarations can be blank, as the last one
is behind a last semicolon. -/
structure Rule where
  selector : List Char
  declarations : List (List Char)
  inked : ∃ c rest, selector = c :: rest ∧ isBlank c = false
  selected : Unbroken selector
  declared : ∀ declaration ∈ declarations, Unbroken declaration

def Rule.body (r : Rule) : List Char := Text.join [';'] r.declarations

def Rule.text (r : Rule) : List Char := r.selector ++ '\x7b' :: (r.body ++ ['\x7d'])

inductive Statement
  | imported (i : Import)
  | rule (r : Rule)

def Statement.text : Statement → List Char
  | .imported i => i.text
  | .rule r => r.text

/-- A text made of pieces with white space around them. -/
inductive Spells : List (List Char) → List Char → Prop
  | nil (blank : List Char) : AllBlank blank → Spells [] blank
  | cons (blank piece : List Char) (pieces : List (List Char)) (css : List Char) : AllBlank blank → Spells pieces css →
      Spells (piece :: pieces) (blank ++ (piece ++ css))

/-- Behind a directive's word and white space comes a semicolon. -/
def Ended (word s : List Char) : Prop :=
  ∀ before blank after, s = before ++ (word ++ blank :: after) → isBlank blank = true → ';' ∈ after

theorem ended_iff (word s : List Char) : (∀ t ∈ s.tails, ∀ rest ∈ Text.after? word t,
    rest.head?.any isBlank = true → ';' ∈ rest.tail) ↔ Ended word s := by
  constructor
  · intro closed before blank after split white
    refine closed (word ++ blank :: after) ?_ (blank :: after) (Text.after?_eq_some_iff.mpr rfl) white
    exact (List.mem_tails _ _).mpr ⟨before,split.symm⟩
  · intro ended t suffix rest here white
    obtain ⟨before,rfl⟩ := (List.mem_tails _ _).mp suffix
    cases rest with
    | nil => cases white
    | cons c rest => exact ended before c rest (by rw [Text.after?_eq_some_iff.mp here]) white

instance (word s : List Char) : Decidable (Ended word s) := decidable_of_iff _ (ended_iff word s)

/-- No directive is left open at the end of a text. -/
structure Terminated (s : List Char) : Prop where
  tailwind : Ended "@tailwind".toList s
  apply : Ended "@apply".toList (erase (directive? "@tailwind".toList) s)

instance (s : List Char) : Decidable (Terminated s) :=
  decidable_of_iff (Ended _ s ∧ Ended _ _) ⟨fun both => ⟨both.1,both.2⟩,fun all => ⟨all.tailwind,all.apply⟩⟩

/-- No find that starts in a piece reaches out of it. -/
def Seals (pattern : List Char → Option (List Char)) (piece tail : List Char) : Prop :=
  ∀ t, t <:+ piece → t ≠ [] → pattern (t ++ tail) ≠ none → pattern t ≠ none

def Closes (c : Char) : Prop := c = ';' ∨ c = '\x7d'

theorem Closes.plain {c : Char} (closes : Closes c) : ¬ isBoundary c = false := by
  rcases closes with rfl | rfl <;> decide

/-- A text that ends like a statement. -/
def Closed (s : List Char) : Prop := ∃ front c, s = front ++ [c] ∧ Closes c

theorem Closed.mem {s : List Char} (closed : Closed s) : ∃ c ∈ s, Closes c := by
  obtain ⟨front,c,rfl,closes⟩ := closed
  exact ⟨c,by simp,closes⟩

/-- A find that reaches out of a text has the rest of the text in front of its last character. -/
theorem Seals.of_parts {pattern : List Char → Option (List Char)} {piece : List Char → Prop}
    (recognises : Text.Recognises pattern piece) (s tail : List Char)
    (apart : ∀ t m, t <:+ s → t ≠ [] → m ≠ [] → m <+: tail → ¬ piece (t ++ m)) : Seals pattern s tail := by
  intro t suffix proper found passed
  obtain ⟨rest,found⟩ := Option.ne_none_iff_exists'.mp found
  obtain ⟨first,is,split⟩ := (recognises.found_iff _ _).mp found
  obtain ⟨more,rfl,behind⟩ | ⟨more,rfl,_⟩ := List.append_eq_append_iff.mp split
  · cases more with
    | nil =>
      rw [List.append_nil] at is
      rw [(recognises.found_iff t []).mpr ⟨t,is,(List.append_nil t).symm⟩] at passed
      cases passed
    | cons c more => exact apart t (c :: more) suffix proper (List.cons_ne_nil c more) ⟨rest,behind.symm⟩ is
  · rw [(recognises.found_iff _ more).mpr ⟨first,is,rfl⟩] at passed
    cases passed

theorem Closed.suffix (s t : List Char) (closed : Closed s) (suffix : t <:+ s) (proper : t ≠ []) : Closed t := by
  obtain ⟨front,c,rfl,closes⟩ := closed
  obtain rfl | ⟨more,d,rfl⟩ := List.eq_nil_or_concat' t
  · exact absurd rfl proper
  obtain ⟨before,split⟩ := suffix
  rw [← List.append_assoc] at split
  obtain ⟨_,same⟩ := List.append_inj' split rfl
  exact ⟨more,d,rfl,by rw [(List.cons.inj same).1]; exact closes⟩

theorem directiveWords_plain : ∀ word ∈ directiveWords, Unbroken word := by
  decide

theorem layerStart?_seals (s tail : List Char) (closed : Closed s) : Seals layerStart? s tail := by
  refine Seals.of_parts layerStart?_recognises s tail fun t m suffix proper _ _ => ?_
  rintro ⟨blank,names,white,_,layers,split⟩
  obtain ⟨c,among,closes⟩ := (closed.suffix s t suffix proper).mem
  have within : c ∈ "@layer".toList ++ blank :: (names ++ ['\x7b']) := split ▸ List.mem_append_left m among
  rw [List.mem_append,List.mem_cons,List.mem_append,List.mem_singleton] at within
  rcases within with opens | rfl | inside | rfl
  · exact closes.plain (directiveWords_plain "@layer".toList (by decide) c opens)
  · exact closes.plain (blank_plain c white)
  · exact closes.plain (layerChar_plain c (layers c inside))
  · rcases closes with closes | closes <;> cases closes

theorem directive?_seals (word s tail : List Char) (known : word ∈ directiveWords) (closed : Closed s)
    (ended : Ended word s) : Seals (directive? word) s tail := by
  refine Seals.of_parts (directive?_pass word known).toRecognises s tail fun t m suffix proper more _ => ?_
  rintro ⟨blank,body,white,_,within,split⟩
  obtain ⟨c,among,closes⟩ := (closed.suffix s t suffix proper).mem
  obtain ⟨rest,opens,_⟩ | ⟨rest,rfl,behind⟩ := List.append_eq_append_iff.mp split
  · exact closes.plain (directiveWords_plain word known c (opens ▸ List.mem_append_left rest among))
  cases rest with
  | nil =>
    rw [List.append_nil] at among
    exact closes.plain (directiveWords_plain word known c among)
  | cons d after =>
    obtain ⟨rfl,left⟩ := List.cons.inj behind
    obtain ⟨before,cut⟩ := suffix
    have inside := ended before blank after cut.symm white
    -- The directive would go on behind the semicolon that ends it.
    obtain rfl | ⟨m,e,rfl⟩ := List.eq_nil_or_concat' m
    · exact more rfl
    change body ++ [';'] = after ++ (m ++ [e]) at left
    rw [← List.append_assoc] at left
    obtain ⟨rfl,_⟩ := List.append_inj' left rfl
    exact within (List.mem_append_left m inside)

namespace DirectivePass

variable {pattern : List Char → Option (List Char)} {piece : List Char → Prop} (pass : DirectivePass pattern piece)
include pass

theorem found_marked (found : List Char) (is : piece found) : ∃ rest, found = '@' :: rest := by
  obtain ⟨word,known,rest,rfl⟩ := pass.opens found is
  exact ⟨word.tail ++ rest,by rw [(directiveWords_marked word known).1]; rfl⟩

theorem none_of_unmarked (c : Char) (s : List Char) (other : c ≠ '@') : pattern (c :: s) = none := by
  cases here : pattern (c :: s) with
  | none => rfl
  | some rest =>
    obtain ⟨found,is,split⟩ := (pass.found_iff _ _).mp here
    obtain ⟨more,rfl⟩ := pass.found_marked found is
    exact absurd (List.cons.inj split).1 other

theorem erase_wordFree (s : List Char) (free : WordFree s) : erase pattern s = s := by
  rw [pass.erase_eq_self_iff,pass.silent_iff]
  intro found is within
  obtain ⟨word,known,opens⟩ := pass.opens found is
  exact free word known (opens.isInfix.trans within)

theorem erase_blank (blank s : List Char) (white : AllBlank blank) :
    erase pattern (blank ++ s) = blank ++ erase pattern s := by
  induction blank with
  | nil => rfl
  | cons c blank ih =>
    have other : c ≠ '@' := by
      rintro rfl
      exact absurd (white '@' List.mem_cons_self) (by decide)
    rw [List.cons_append,Text.erase_kept _ c _ (pass.none_of_unmarked c _ other),
      ih (List.forall_mem_cons.mp white).2]
    rfl

/-- A find that reaches into a text ends in it, with a semicolon or an opening brace. -/
theorem end_in_tail (t m tail : List Char) (proper : m ≠ []) (start : m <+: tail) (is : piece (t ++ m)) :
    ∃ c ∈ tail, isBoundary c = true ∧ c ≠ '\x7d' := by
  obtain ⟨body,c,split,boundary,other⟩ := pass.closes _ is
  obtain rfl | ⟨more,d,rfl⟩ := List.eq_nil_or_concat' m
  · exact absurd rfl proper
  rw [← List.append_assoc] at split
  obtain ⟨_,same⟩ := List.append_inj' split rfl
  obtain rfl := (List.cons.inj same).1
  exact ⟨d,start.subset (by simp),boundary,other⟩

theorem seals_blank (s tail : List Char) (white : AllBlank tail) : Seals pattern s tail := by
  refine Seals.of_parts pass.toRecognises s tail fun t m _ _ proper start is => ?_
  obtain ⟨c,among,boundary,_⟩ := pass.end_in_tail t m tail proper start is
  rw [blank_plain c (white c among)] at boundary
  cases boundary

/-- A pass goes through pieces one by one if no find reaches out of one into the next. -/
theorem spells {α : Type} (text : α → List Char) (items : List α) (css : List Char)
    (spelled : Spells (items.map text) css) (sealed : ∀ item ∈ items.dropLast, ∀ tail, Seals pattern (text item) tail) :
    Spells (items.map fun item => erase pattern (text item)) (erase pattern css) := by
  induction items generalizing css with
  | nil =>
    cases spelled with
    | nil _ white =>
      have same := pass.erase_blank css [] white
      rw [List.append_nil] at same
      rw [same]
      exact .nil _ (by simpa [erase,Text.substitute,Text.substituteWithin] using white)
  | cons item items ih =>
    cases spelled with
    | cons blank _ _ css white spelled =>
      have here : Seals pattern (text item) css := by
        cases items with
        | nil =>
          cases spelled with
          | nil _ ends => exact pass.seals_blank _ css ends
        | cons next items => exact sealed item (by simp) css
      rw [pass.erase_blank blank _ white,pass.erase_append _ css here]
      refine .cons blank _ _ _ white (ih css spelled fun other among => sealed other ?_)
      cases items with
      | nil => cases among
      | cons next items => exact List.mem_cons_of_mem item among

theorem erase_closed (s : List Char) : erase pattern (s ++ ['\x7d']) = erase pattern s ++ ['\x7d'] := by
  have alone : erase pattern ['\x7d'] = ['\x7d'] :=
    Text.erase_kept _ '\x7d' [] (pass.none_of_unmarked '\x7d' [] (by decide))
  have here : Seals pattern s ['\x7d'] := by
    refine Seals.of_parts pass.toRecognises s _ fun t m _ _ proper start is => ?_
    obtain ⟨c,among,_,other⟩ := pass.end_in_tail t m _ proper start is
    exact other (List.mem_singleton.mp among)
  rw [pass.erase_append s _ here,alone]

/-- The selector of a rule is left as it is, or goes with the opening brace. -/
theorem erase_selector (selector body : List Char) (plain : Unbroken selector)
    (braceless : Braceless body) :
    erase pattern (selector ++ '\x7b' :: body) = selector ++ '\x7b' :: erase pattern body ∨
      Braceless (erase pattern (selector ++ '\x7b' :: body)) := by
  induction selector with
  | nil => exact .inl (Text.erase_kept _ '\x7b' body (pass.none_of_unmarked '\x7b' body (by decide)))
  | cons c selector ih =>
    rw [List.cons_append]
    cases here : pattern (c :: (selector ++ '\x7b' :: body)) with
    | none =>
      rw [Text.erase_kept _ c _ here]
      obtain kept | gone := ih (List.forall_mem_cons.mp plain).2
      · exact .inl (by rw [kept]; rfl)
      · exact .inr (List.forall_mem_cons.mpr ⟨(Bool.or_eq_false_iff.mp (plain c List.mem_cons_self)).2,gone⟩)
    | some rest =>
      right
      rw [Text.erase_found _ pass.shortens c _ rest here]
      obtain ⟨found,is,split⟩ := (pass.found_iff _ _).mp here
      obtain ⟨front,d,rfl,boundary,_⟩ := pass.closes found is
      have outside : d ∉ c :: selector := fun inside => by rw [plain d inside] at boundary; cases boundary
      have left : rest <:+ body := by
        obtain ⟨more,whole,behind⟩ | ⟨more,whole,_⟩ := List.append_eq_append_iff.mp
          (show c :: selector ++ '\x7b' :: body = front ++ [d] ++ rest from split)
        · cases more with
          | nil => exact absurd (by rw [← (whole.trans (List.append_nil _))]; simp) outside
          | cons e more => exact ⟨more,(List.cons.inj behind).2.symm⟩
        · exact absurd (by rw [whole]; simp) outside
      exact fun e inside => braceless e (left.subset ((pass.erase_sublist rest).subset inside))

end DirectivePass

/-- A rule, or what is left of a rule whose start was taken away. -/
inductive RuleShape : List Char → Prop
  | rule (selector body : List Char) : selector ≠ [] → Unbroken selector → Braceless body →
      RuleShape (selector ++ '\x7b' :: (body ++ ['\x7d']))
  | rest (body : List Char) : Braceless body → RuleShape (body ++ ['\x7d'])

theorem RuleShape.closed (s : List Char) (shape : RuleShape s) : Closed s := by
  cases shape with
  | rule selector body => exact ⟨selector ++ '\x7b' :: body,'\x7d',by simp,.inr rfl⟩
  | rest body => exact ⟨body,'\x7d',rfl,.inr rfl⟩

theorem RuleShape.pass (pattern : List Char → Option (List Char)) (piece : List Char → Prop)
    (pass : DirectivePass pattern piece) (s : List Char) (shape : RuleShape s) : RuleShape (erase pattern s) := by
  cases shape with
  | rule selector body proper plain braceless =>
    rw [← List.cons_append,← List.append_assoc,pass.erase_closed]
    obtain kept | gone := pass.erase_selector selector body plain braceless
    · rw [kept,List.append_assoc]
      exact .rule selector _ proper plain fun c inside => braceless c ((pass.erase_sublist body).subset inside)
    · exact .rest _ gone
  | rest body braceless =>
    rw [pass.erase_closed]
    exact .rest _ fun c inside => braceless c ((pass.erase_sublist body).subset inside)

theorem mem_join (separator c : Char) (pieces : List (List Char)) (inside : c ∈ Text.join [separator] pieces) :
    c = separator ∨ ∃ piece ∈ pieces, c ∈ piece := by
  induction pieces with
  | nil => cases inside
  | cons piece pieces ih =>
    cases pieces with
    | nil => exact .inr ⟨piece,List.mem_cons_self,inside⟩
    | cons next pieces =>
      rw [Text.join,List.mem_append,List.mem_append,List.mem_singleton] at inside
      · obtain (inside | same) | later := inside
        · exact .inr ⟨piece,List.mem_cons_self,inside⟩
        · exact .inl same
        · obtain same | ⟨other,among,inside⟩ := ih later
          · exact .inl same
          · exact .inr ⟨other,List.mem_cons_of_mem piece among,inside⟩
      · simp

theorem Rule.body_braceless (r : Rule) : Braceless r.body := by
  intro c inside
  obtain rfl | ⟨declaration,among,inside⟩ := mem_join ';' c r.declarations inside
  · rfl
  · exact (Bool.or_eq_false_iff.mp (r.declared declaration among c inside)).2

theorem Rule.shape (r : Rule) : RuleShape r.text := by
  obtain ⟨c,rest,split,_⟩ := r.inked
  exact .rule r.selector r.body (by simp [split]) r.selected r.body_braceless

end Pagewright.Style
