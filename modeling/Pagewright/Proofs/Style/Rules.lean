import Mathlib.Data.List.Chain
import Pagewright.Proofs.Style.Statements

/-! The statements that cleaning keeps. A plain statement is kept among others unless a directive that is left open runs
on into it, or it is an import and the rule behind it is empty once its directives are gone: the selector of an empty
rule reaches back to the brace before it, and an import has none. -/
namespace Pagewright.Style
open Text (isBlank Silent AllBlank Inked erase)

def Statement.IsImport : Statement → Prop
  | .imported _ => True
  | .rule _ => False

/-- Imports, and rules with at least one declaration and no directive. -/
def Statement.Plain : Statement → Prop
  | .imported _ => True
  | .rule r => (∃ declaration ∈ r.declarations, ¬ AllBlank declaration) ∧ WordFree r.text

instance (r : Rule) : Decidable (Statement.rule r).Plain :=
  inferInstanceAs (Decidable ((∃ declaration ∈ r.declarations, ¬ AllBlank declaration) ∧ WordFree r.text))

/-- A rule that is empty when its directives are gone. -/
def LeftEmpty (s : List Char) : Prop := IsEmptyRule (withoutDirectives s)

instance (s : List Char) : Decidable (LeftEmpty s) :=
  decidable_of_iff (emptyRule? (withoutDirectives s) = some []) (by simp [LeftEmpty,emptyRule?_recognises.found_iff])

/-- Statements that do not reach into one another: only the last one may leave a directive open, and no rule that is
left empty follows an import. -/
structure Orderly (statements : List Statement) : Prop where
  terminated : ∀ st ∈ statements.dropLast, Terminated st.text
  filled : statements.IsChain fun st next => st.IsImport → ¬ LeftEmpty next.text

/-- Every plain statement is kept, whatever rules of a sort are among the others. -/
def KeepsPlain (neighbour : Rule → Prop) : Prop :=
  ∀ (statements : List Statement) (css : List Char), Spells (statements.map Statement.text) css →
    (∀ r, .rule r ∈ statements → (Statement.rule r).Plain ∨ neighbour r) →
    ∀ st ∈ statements, st.Plain → st.text <:+: clean css

section Directives

theorem withoutDirectives_wordFree (s : List Char) (free : WordFree s) : withoutDirectives s = s := by
  rw [withoutDirectives,(directive?_pass "@tailwind".toList (by decide)).erase_wordFree s free,
    (directive?_pass "@apply".toList (by decide)).erase_wordFree s free,layerStart?_pass.erase_wordFree s free]

theorem ended_wordFree (word s : List Char) (known : word ∈ directiveWords) (free : WordFree s) : Ended word s := by
  intro before blank after split _
  exact absurd ⟨before,blank :: after,by rw [split,List.append_assoc]⟩ (free word known)

theorem terminated_wordFree (s : List Char) (free : WordFree s) : Terminated s where
  tailwind := ended_wordFree _ s (by decide) free
  apply := by
    rw [(directive?_pass "@tailwind".toList (by decide)).erase_wordFree s free]
    exact ended_wordFree _ s (by decide) free

/-- What a statement is between two passes. -/
inductive Stage : List Char → Prop
  | imported (i : Import) : Stage i.text
  | rule (s : List Char) : RuleShape s → Stage s

theorem Stage.closed (s : List Char) (stage : Stage s) : Closed s := by
  cases stage with
  | imported i => exact ⟨_,';',rfl,.inl rfl⟩
  | rule s shape => exact shape.closed

theorem Stage.pass (pattern : List Char → Option (List Char)) (piece : List Char → Prop)
    (pass : DirectivePass pattern piece) (s : List Char) (stage : Stage s) : Stage (erase pattern s) := by
  cases stage with
  | imported i => rw [pass.erase_wordFree _ i.text_wordFree]; exact .imported i
  | rule s shape => exact .rule _ (shape.pass _ _ pass)

theorem Statement.stage (st : Statement) : Stage st.text := by
  cases st with
  | imported i => exact .imported i
  | rule r => exact .rule _ r.shape

theorem spells_withoutDirectives (statements : List Statement) (css : List Char)
    (spelled : Spells (statements.map Statement.text) css)
    (terminated : ∀ st ∈ statements.dropLast, Terminated st.text) :
    Spells (statements.map fun st => withoutDirectives st.text) (withoutDirectives css) := by
  have tailwind := directive?_pass "@tailwind".toList (by decide)
  have apply := directive?_pass "@apply".toList (by decide)
  have first := tailwind.spells _ statements css spelled fun st among tail =>
    directive?_seals _ _ tail (by decide) st.stage.closed (terminated st among).tailwind
  have second := apply.spells _ statements _ first fun st among tail =>
    directive?_seals _ _ tail (by decide) (st.stage.pass _ _ tailwind).closed (terminated st among).apply
  exact layerStart?_pass.spells _ statements _ second fun st _ tail =>
    layerStart?_seals _ tail ((st.stage.pass _ _ tailwind).pass _ _ apply).closed

theorem Rule.shape_withoutDirectives (r : Rule) : RuleShape (withoutDirectives r.text) :=
  ((r.shape.pass _ _ (directive?_pass "@tailwind".toList (by decide))).pass _ _
    (directive?_pass "@apply".toList (by decide))).pass _ _ layerStart?_pass

end Directives

section EmptyRules

theorem silent_filled (before body : List Char) (plain : Braceless before) (braceless : Braceless body)
    (filled : ¬ AllBlank body) : Silent emptyRule? (before ++ '\x7b' :: (body ++ ['\x7d'])) := by
  rw [emptyRule?_recognises.silent_iff]
  rintro _ ⟨selector,inside,_,_,white,rfl⟩ ⟨first,last,split⟩
  have opening : before ++ '\x7b' :: (body ++ ['\x7d']) =
      first ++ selector ++ '\x7b' :: (inside ++ '\x7d' :: last) := by
    rw [← split]
    simp
  obtain ⟨_,closing⟩ := cut_at_opening before body (first ++ selector) _ plain braceless opening
  obtain ⟨rfl,_⟩ := (List.append_cons_inj_of_notMem braceless.unclosed List.not_mem_nil).mp closing
  exact filled white

/-- An empty rule does not go on behind a closing brace. -/
theorem emptyRule?_seals (s tail : List Char) : Seals emptyRule? (s ++ ['\x7d']) tail := by
  refine Seals.of_parts emptyRule?_recognises _ tail fun t m suffix proper more _ => ?_
  rintro ⟨selector,inside,_,plain,white,split⟩
  obtain rfl | ⟨front,c,rfl⟩ := List.eq_nil_or_concat' t
  · exact proper rfl
  obtain ⟨before,cut⟩ := suffix
  rw [← List.append_assoc] at cut
  obtain ⟨_,same⟩ := List.append_inj' cut rfl
  obtain rfl := (List.cons.inj same).1
  have unclosed : '\x7d' ∉ selector ++ '\x7b' :: inside := by
    rw [List.mem_append,List.mem_cons,not_or,not_or]
    exact ⟨Braceless.unclosed selector plain,by decide,(Braceless.blank inside white).unclosed⟩
  have closing : selector ++ '\x7b' :: inside ++ '\x7d' :: [] = front ++ '\x7d' :: m := by
    rw [List.append_assoc,List.cons_append,← split]
    simp
  exact more ((List.append_cons_inj_of_notMem unclosed List.not_mem_nil).mp closing).2.2.symm

/-- Nothing is taken from a rule that is not left empty, nor from what stands between it and the brace before it. -/
theorem RuleShape.erase_emptyRule (before s : List Char) (shape : RuleShape s) (plain : Braceless before)
    (filled : ¬ IsEmptyRule s) : erase emptyRule? (before ++ s) = before ++ s := by
  rw [emptyRule?_recognises.erase_eq_self_iff]
  cases shape with
  | rule selector body proper selected braceless =>
    have unbraced : Braceless selector := fun c inside => (Bool.or_eq_false_iff.mp (selected c inside)).2
    rw [← List.append_assoc]
    exact silent_filled (before ++ selector) body (plain.append _ _ unbraced) braceless
      fun white => filled ⟨selector,body,proper,unbraced,white,rfl⟩
  | rest body braceless =>
    refine silent_unopened _ ?_
    rw [List.mem_append,List.mem_append,not_or,not_or]
    exact ⟨plain.unopened,braceless.unopened,by decide⟩

theorem RuleShape.ends (s : List Char) (shape : RuleShape s) : ∃ front, s = front ++ ['\x7d'] := by
  cases shape with
  | rule selector body => exact ⟨selector ++ '\x7b' :: body,by simp⟩
  | rest body => exact ⟨body,rfl⟩

/-- Behind a rule the pass starts anew. -/
theorem RuleShape.erase_append (before s after : List Char) (shape : RuleShape s) :
    erase emptyRule? (before ++ (s ++ after)) = erase emptyRule? (before ++ s) ++ erase emptyRule? after := by
  obtain ⟨front,rfl⟩ := shape.ends
  rw [← List.append_assoc before,emptyRule?_recognises.erase_append _ after]
  rw [← List.append_assoc]
  exact emptyRule?_seals _ after

end EmptyRules

section Keeping

theorem mem_join_of_mem (separator c : Char) (pieces : List (List Char)) (piece : List Char) (among : piece ∈ pieces)
    (inside : c ∈ piece) : c ∈ Text.join [separator] pieces := by
  induction pieces with
  | nil => cases among
  | cons first pieces ih =>
    cases pieces with
    | nil => rwa [List.mem_singleton.mp among] at inside
    | cons next pieces =>
      rw [Text.join,List.mem_append]
      · obtain rfl | later := List.mem_cons.mp among
        · exact .inl (List.mem_append_left _ inside)
        · exact .inr (ih later)
      · simp

theorem Rule.plain_filled (r : Rule) (plain : (Statement.rule r).Plain) : ¬ LeftEmpty r.text := by
  obtain ⟨⟨declaration,among,filled⟩,free⟩ := plain
  intro empty
  rw [LeftEmpty,withoutDirectives_wordFree _ free] at empty
  obtain ⟨selector,inside,_,unbraced,white,split⟩ := empty
  obtain ⟨_,same⟩ := cut_at_opening selector inside _ _ unbraced (Braceless.blank inside white) split.symm
  obtain ⟨rfl,_⟩ := List.append_inj' same rfl
  exact filled fun c inside => white c (mem_join_of_mem ';' c r.declarations declaration among inside)

theorem Import.braceless_text (i : Import) : Braceless i.text :=
  Braceless.append _ _ (Braceless.append _ _ (by decide) i.braceless) (by decide)

theorem Import.filled (i : Import) : ¬ LeftEmpty i.text := by
  rw [LeftEmpty,withoutDirectives_wordFree _ i.text_wordFree]
  rintro ⟨selector,inside,_,_,_,split⟩
  have inside : '\x7b' ∈ i.text := split ▸ by simp
  exact i.braceless_text.unopened _ inside

/-- Behind text without braces that is to be kept, the statements are gone through by themselves. -/
theorem kept_behind (statements : List Statement) (css : List Char)
    (spelled : Spells (statements.map fun st => withoutDirectives st.text) css)
    (filled : statements.IsChain fun st next => st.IsImport → ¬ LeftEmpty next.text) (run : List Char)
    (braceless : Braceless run) (next : run ≠ [] → ∀ st ∈ statements.head?, ¬ LeftEmpty st.text) (piece : List Char)
    (among : piece <:+: run ∨ ∃ st ∈ statements, st.Plain ∧ piece = st.text) :
    piece <:+: erase emptyRule? (run ++ css) := by
  induction statements generalizing css run with
  | nil =>
    obtain ⟨_,white⟩ := spelled
    rw [(emptyRule?_recognises.erase_eq_self_iff _).mpr
      (silent_unopened _ (braceless.append _ _ (Braceless.blank css white)).unopened)]
    obtain inside | ⟨_,none,_⟩ := among
    · exact inside.trans (List.infix_append' [] run css)
    · cases none
  | cons st statements ih =>
    obtain _ | ⟨blank,_,_,css,white,spelled⟩ := spelled
    have behind := List.isChain_cons.mp filled
    have longer := braceless.append _ _ (Braceless.blank blank white)
    dsimp only
    rw [← List.append_assoc]
    cases st with
    | imported i =>
      have same : withoutDirectives (Statement.imported i).text = i.text :=
        withoutDirectives_wordFree _ i.text_wordFree
      rw [same,← List.append_assoc]
      refine ih css spelled behind.2 _ (longer.append _ _ i.braceless_text)
        (fun _ st first => behind.1 st first trivial) ?_
      obtain inside | ⟨st,member,plain,rfl⟩ := among
      · exact .inl (inside.trans ((List.prefix_append run blank).trans (List.prefix_append _ i.text)).isInfix)
      · obtain rfl | later := List.mem_cons.mp member
        · exact .inl (List.suffix_append _ i.text).isInfix
        · exact .inr ⟨st,later,plain,rfl⟩
    | rule r =>
      have shape : RuleShape (withoutDirectives (Statement.rule r).text) := r.shape_withoutDirectives
      rw [shape.erase_append]
      -- What is kept is in the run or in the rule, and then the rule is not left empty, or comes later.
      have here (filled : ¬ LeftEmpty r.text) (inside : piece <:+: run ++ blank ++ withoutDirectives r.text) :
          piece <:+: erase emptyRule? (run ++ blank ++ withoutDirectives (Statement.rule r).text) := by
        rw [shape.erase_emptyRule _ _ longer filled]
        exact inside
      obtain inside | ⟨st,member,plain,rfl⟩ := among
      · by_cases proper : run = []
        · rw [proper,List.infix_nil] at inside
          rw [inside]
          exact List.nil_infix
        · refine (here (next proper _ rfl) (inside.trans ?_)).trans (List.prefix_append _ _).isInfix
          exact ((List.prefix_append run blank).trans (List.prefix_append _ _)).isInfix
      · obtain rfl | later := List.mem_cons.mp member
        · refine (here (r.plain_filled plain) ?_).trans (List.prefix_append _ _).isInfix
          rw [withoutDirectives_wordFree _ plain.2]
          exact (List.suffix_append _ _).isInfix
        · have kept := ih css spelled behind.2 [] (fun _ none => absurd none List.not_mem_nil)
            (fun proper => absurd rfl proper) (.inr ⟨st,later,plain,rfl⟩)
          exact kept.trans (List.suffix_append _ _).isInfix

theorem Statement.inked (st : Statement) : Inked st.text := by
  obtain ⟨front,c,ends,closes⟩ := st.stage.closed
  constructor
  · intro d first
    cases st with
    | imported i =>
      obtain rfl := Option.some.inj first
      rfl
    | rule r =>
      obtain ⟨e,rest,split,ink⟩ := r.inked
      rw [Statement.text,Rule.text,split] at first
      obtain rfl := Option.some.inj first
      exact ink
  · rw [ends,List.getLast?_concat]
    rintro _ ⟨⟩
    rcases closes with rfl | rfl <;> rfl

theorem orderly_kept (statements : List Statement) (css : List Char)
    (spelled : Spells (statements.map Statement.text) css) (orderly : Orderly statements) (st : Statement)
    (among : st ∈ statements) (plain : st.Plain) : st.text <:+: clean css := by
  have kept := kept_behind statements _ (spells_withoutDirectives statements css spelled orderly.terminated)
    orderly.filled [] (fun _ none => absurd none List.not_mem_nil) (fun proper => absurd rfl proper) st.text
    (.inr ⟨st,among,plain,rfl⟩)
  obtain ⟨lead,trail,leading,trailing,cut⟩ := Text.trim_split (erase emptyRule? (withoutDirectives css))
  rw [List.nil_append,cut,Text.infix_between_blanks _ _ lead trail leading trailing st.inked] at kept
  exact kept

end Keeping

section Losing

/-- A directive's word and white space, and no semicolon from there on. -/
theorem not_ended_iff (word s : List Char) : ¬ Ended word s ↔
    ∃ before blank after, s = before ++ (word ++ blank :: after) ∧ isBlank blank = true ∧ ';' ∉ after := by
  simp [Ended]

/-- A directive that reaches into another one ends where that one ends, at the first semicolon. -/
theorem directive_reach (word before s left rest : List Char) (known : word ∈ directiveWords)
    (passed : directive? word before = none) (here : directive? word (before ++ s) = some left)
    (found : directive? word s = some rest) : left = rest := by
  have recognises := (directive?_pass word known).toRecognises
  have plain : ';' ∉ word := fun inside => absurd (directiveWords_plain word known ';' inside) (by decide)
  obtain ⟨whole,is,split⟩ := (recognises.found_iff _ _).mp here
  obtain ⟨whole',is',split'⟩ := (recognises.found_iff _ _).mp found
  obtain ⟨front,within,rfl⟩ := is.ends word whole plain
  obtain ⟨front',within',rfl⟩ := is'.ends word whole' plain
  obtain ⟨more,reach,behind⟩ | ⟨more,reach,_⟩ := List.append_eq_append_iff.mp split
  · obtain rfl | ⟨more,d,rfl⟩ := List.eq_nil_or_concat' more
    · rw [List.append_nil] at reach
      rw [(recognises.found_iff _ []).mpr ⟨_,is,by rw [reach,List.append_nil]⟩] at passed
      cases passed
    · rw [← List.append_assoc] at reach
      obtain ⟨rfl,last⟩ := List.append_inj' reach rfl
      obtain rfl := (List.cons.inj last).1
      rw [List.mem_append,not_or] at within
      exact first_semicolon s more front' left rest within.2 within' (by rw [behind]; simp) (by rw [split']; simp)
  · rw [(recognises.found_iff _ more).mpr ⟨_,is,reach⟩] at passed
    cases passed

/-- Whatever is found on the way to a directive, the pass goes on where that directive ends. -/
theorem erase_directive (word before s rest : List Char) (known : word ∈ directiveWords)
    (found : directive? word s = some rest) : ∃ kept, kept.length ≤ before.length ∧
      erase (directive? word) (before ++ s) = kept ++ erase (directive? word) rest := by
  have recognises := (directive?_pass word known).toRecognises
  induction before using Text.erase_induct (directive? word) recognises.shortens with
  | nil =>
    cases s with
    | nil => rw [recognises.at_nil] at found; cases found
    | cons c s => exact ⟨[],Nat.le_refl _,Text.erase_found _ recognises.shortens c s rest found⟩
  | found c before left here ih =>
    obtain ⟨kept,size,same⟩ := ih
    have shorter := recognises.shortens c before left here
    refine ⟨kept,by rw [List.length_cons]; omega,?_⟩
    rw [← same]
    exact Text.erase_found _ recognises.shortens c _ _ (recognises.more _ _ s here)
  | kept c before passed ih =>
    cases here : directive? word (c :: before ++ s) with
    | none =>
      obtain ⟨kept,size,same⟩ := ih
      refine ⟨c :: kept,Nat.succ_le_succ size,?_⟩
      rw [List.cons_append] at here ⊢
      rw [Text.erase_kept _ c _ here,same]
      rfl
    | some left =>
      obtain rfl := directive_reach word (c :: before) s left rest known passed here found
      exact ⟨[],Nat.zero_le _,Text.erase_found _ recognises.shortens c _ left here⟩

/-- A directive that is left open takes the import behind it away. -/
theorem erase_unended (word s : List Char) (i : Import) (known : word ∈ directiveWords) (whole : ';' ∉ i.body)
    (unended : ¬ Ended word s) : (erase (directive? word) (s ++ i.text)).length ≤ s.length := by
  obtain ⟨before,blank,after,rfl,white,within⟩ := (not_ended_iff word s).mp unended
  have filled : after ++ (importWord ++ i.body) ≠ [] := by
    rw [Ne,List.append_eq_nil_iff,List.append_eq_nil_iff]
    exact fun none => absurd none.2.1 (by decide)
  have found : directive? word (word ++ blank :: after ++ i.text) = some [] := by
    refine ((directive?_pass word known).found_iff _ _).mpr
      ⟨_,⟨blank,after ++ (importWord ++ i.body),white,filled,?_,rfl⟩,by simp [Import.text]⟩
    rw [List.mem_append,List.mem_append,not_or,not_or]
    exact ⟨within,by decide,whole⟩
  obtain ⟨kept,size,same⟩ := erase_directive word before _ [] known found
  rw [List.append_assoc before,same,List.length_append,List.length_append]
  simp only [erase,Text.substitute,Text.substituteWithin,List.length_nil]
  omega

/-- An import of any length, with one semicolon. -/
def longImport (n : Nat) : Import where
  body := ' ' :: List.replicate n 'x'
  braceless := by
    refine List.forall_mem_cons.mpr ⟨by decide,fun c inside => ?_⟩
    rw [List.eq_of_mem_replicate inside]
    rfl
  wordFree := by
    intro word known within
    have marked := (directiveWords_marked word known).1
    have start : importWord = '@' :: 'i' :: "mport".toList := by decide
    rw [start,List.append_assoc,List.cons_append,List.infix_cons_iff] at within
    obtain here | later := within
    · have other : ∀ word ∈ directiveWords, ∃ proper : word.tail ≠ [], word.tail.head proper ≠ 'i' := by decide
      obtain ⟨proper,second⟩ := other word known
      rw [marked,List.cons_prefix_cons] at here
      exact second (here.2.head proper)
    · -- There is no other mark in the import.
      have mark : '@' ∈ word := by rw [marked]; exact List.mem_cons_self
      simpa using later.subset mark

theorem longImport_length (n : Nat) : (longImport n).text.length = n + 9 := by
  have word : importWord.length = 7 := by decide
  rw [Import.text,List.length_append,List.length_append,word,longImport]
  simp only [List.length_cons,List.length_replicate,List.length_nil]
  omega

theorem longImport_whole (n : Nat) : ';' ∉ (longImport n).body := by
  simp [longImport]

theorem clean_length_le (css : List Char) :
    (clean css).length ≤ (erase (directive? "@apply".toList) (erase (directive? "@tailwind".toList) css)).length :=
  calc (clean css).length
      ≤ (erase emptyRule? (withoutDirectives css)).length := (Text.trim_within _).length_le
    _ ≤ (withoutDirectives css).length := (emptyRule?_recognises.erase_sublist _).length_le
    _ ≤ _ := (layerStart?_recognises.erase_sublist _).length_le

theorem spells_flatMap (statements : List Statement) :
    Spells (statements.map Statement.text) (statements.flatMap Statement.text) := by
  have none : AllBlank [] := fun _ inside => absurd inside List.not_mem_nil
  induction statements with
  | nil => exact .nil [] none
  | cons st statements ih => exact .cons [] st.text _ _ none ih

theorem spells_pair (st next : Statement) : Spells ([st,next].map Statement.text) (st.text ++ next.text) := by
  simpa using spells_flatMap [st,next]

variable (neighbour : Rule → Prop) (kept : KeepsPlain neighbour) (r : Rule) (among : neighbour r)
include kept among

theorem terminated_of_kept : Terminated r.text := by
  have tailwind := directive?_pass "@tailwind".toList (by decide)
  have apply := directive?_pass "@apply".toList (by decide)
  let i := longImport r.text.length
  -- A rule and an import that is longer than it.
  have whole : i.text <:+: clean (r.text ++ i.text) :=
    kept [.rule r,.imported i] _ (spells_pair (.rule r) (.imported i))
      (fun other member => .inr (by simp at member; exact member ▸ among)) (.imported i) (by simp) trivial
  have longer := whole.length_le
  rw [longImport_length] at longer
  have shorter := clean_length_le (r.text ++ i.text)
  have first : Ended "@tailwind".toList r.text := by
    by_contra unended
    have less := erase_unended _ r.text i (by decide) (longImport_whole _) unended
    have again := (apply.erase_sublist (erase (directive? "@tailwind".toList) (r.text ++ i.text))).length_le
    omega
  refine ⟨first,?_⟩
  by_contra unended
  have parts := tailwind.erase_append r.text i.text (directive?_seals _ _ _ (by decide) r.shape.closed first)
  rw [tailwind.erase_wordFree i.text i.text_wordFree] at parts
  rw [parts] at shorter
  have less := erase_unended _ _ i (by decide) (longImport_whole _) unended
  have again := (tailwind.erase_sublist r.text).length_le
  omega

theorem filled_of_kept : ¬ LeftEmpty r.text := by
  let i := longImport 0
  have whole : i.text <:+: clean (i.text ++ r.text) :=
    kept [.imported i,.rule r] _ (spells_pair (.imported i) (.rule r))
      (fun other member => .inr (by simp at member; exact member ▸ among)) (.imported i) (by simp) trivial
  rintro ⟨selector,inside,proper,plain,white,split⟩
  have spelled : Spells [withoutDirectives i.text,withoutDirectives r.text] (withoutDirectives (i.text ++ r.text)) :=
    spells_withoutDirectives [.imported i,.rule r] _ (spells_pair (.imported i) (.rule r)) fun st first =>
      terminated_wordFree _ (by rw [List.mem_singleton.mp first]; exact i.text_wordFree)
  rw [withoutDirectives_wordFree _ i.text_wordFree,split] at spelled
  rw [clean_eq] at whole
  generalize withoutDirectives (i.text ++ r.text) = css at spelled whole
  obtain _ | ⟨blank,_,_,_,leading,spelled⟩ := spelled
  obtain _ | ⟨gap,_,_,tail,between,spelled⟩ := spelled
  obtain ⟨_,trailing⟩ := spelled
  -- The import belongs to the selector of the empty rule.
  have empty : IsEmptyRule (blank ++ i.text ++ gap ++ selector ++ '\x7b' :: (inside ++ ['\x7d'])) :=
    ⟨_,inside,by simp [proper],(((Braceless.blank blank leading).append _ _ i.braceless_text).append _ _
      (Braceless.blank gap between)).append _ _ plain,white,rfl⟩
  have gone := erase_rule _ tail empty
  have unopened := (Braceless.blank tail trailing).unopened
  rw [(emptyRule?_recognises.erase_eq_self_iff tail).mpr (silent_unopened tail unopened)] at gone
  have left : i.text <:+: tail := by
    rw [← gone]
    refine whole.trans ((Text.trim_within _).trans ?_)
    rw [show blank ++ (i.text ++ (gap ++ (selector ++ '\x7b' :: (inside ++ ['\x7d']) ++ tail))) =
      blank ++ i.text ++ gap ++ selector ++ '\x7b' :: (inside ++ ['\x7d']) ++ tail by simp]
  have mark := trailing '@' (left.subset (by decide))
  cases mark

end Losing

/-- Every plain statement of orderly statements is kept, and rules of a sort may stand among plain statements exactly if
none of them leaves a directive open or is left empty. -/
theorem keepsPlain_iff (neighbour : Rule → Prop) :
    (∀ (statements : List Statement) (css : List Char), Spells (statements.map Statement.text) css →
      Orderly statements → ∀ st ∈ statements, st.Plain → st.text <:+: clean css) ∧
      (KeepsPlain neighbour ↔ ∀ r, neighbour r → Terminated r.text ∧ ¬ LeftEmpty r.text) := by
  refine ⟨orderly_kept,fun kept r among =>
    ⟨terminated_of_kept neighbour kept r among,filled_of_kept neighbour kept r among⟩,?_⟩
  intro harmless statements css spelled known st among plain
  have settled (other : Statement) (member : other ∈ statements) : Terminated other.text ∧ ¬ LeftEmpty other.text := by
    cases other with
    | imported i => exact ⟨terminated_wordFree _ i.text_wordFree,i.filled⟩
    | rule r =>
      obtain plain | allowed := known r member
      · exact ⟨terminated_wordFree _ plain.2,r.plain_filled plain⟩
      · exact harmless r allowed
  refine orderly_kept statements css spelled
    ⟨fun other member => (settled other (List.mem_of_mem_dropLast member)).1,?_⟩ st among plain
  rw [List.isChain_iff_forall_rel_of_append_cons_cons]
  intro first next before after split _
  exact (settled next (by rw [split]; simp)).2

/-- An import of a family of fonts. -/
def fontImport : Import where
  body := " url('fonts.css');".toList.dropLast
  braceless := by decide
  wordFree := by decide +kernel

def buttonRule : Rule where
  selector := ".btn ".toList
  declarations := [" @apply px-4".toList," color: red ".toList]
  inked := ⟨'.',"btn ".toList,by decide,by decide⟩
  selected := by decide
  declared := by decide

def cardRule : Rule where
  selector := ".card ".toList
  declarations := [" color: blue".toList," ".toList]
  inked := ⟨'.',"card ".toList,by decide,by decide⟩
  selected := by decide
  declared := by decide

def fontSheet : List Statement := [.imported fontImport,.rule buttonRule,.rule cardRule]

theorem buttonRule_harmless : KeepsPlain (· = buttonRule) ∧
    fontImport.text <:+: clean (fontSheet.flatMap Statement.text) ∧
    cardRule.text <:+: clean (fontSheet.flatMap Statement.text) := by
  have harmless : Terminated buttonRule.text ∧ ¬ LeftEmpty buttonRule.text := by decide +kernel
  have plain : (Statement.rule cardRule).Plain := by decide +kernel
  have orderly : Orderly fontSheet := by
    refine ⟨fun st among => ?_,?_⟩
    · obtain rfl | later := List.mem_cons.mp among
      · exact terminated_wordFree _ fontImport.text_wordFree
      · rw [List.mem_singleton.mp later]
        exact harmless.1
    · exact .cons_cons (fun _ => harmless.2) (.cons_cons (fun none => absurd none id) (.singleton _))
  have kept := (keepsPlain_iff (· = buttonRule)).1 fontSheet _ (spells_flatMap fontSheet) orderly
  exact ⟨(keepsPlain_iff (· = buttonRule)).2.mpr fun r same => same ▸ harmless,
    kept (.imported fontImport) List.mem_cons_self trivial,
    kept (.rule cardRule) (List.mem_cons_of_mem _ (List.mem_cons_of_mem _ List.mem_cons_self)) plain⟩

/-- A directive without a semicolon takes the next rule away, and an empty rule takes the import before it. -/
theorem neighbours_lost :
    clean ".btn \x7b @apply px-4 py-2 \x7d\n.card \x7b color: blue; \x7d\n.box \x7b margin: 0; \x7d".toList =
        ".box \x7b margin: 0; \x7d".toList ∧
      clean "@import url('a.css');\n.empty \x7b \x7d\nbody \x7b margin: 0; \x7d".toList =
        "body \x7b margin: 0; \x7d".toList := by
  decide +kernel

end Pagewright.Style
