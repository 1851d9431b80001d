import Pagewright.Proofs.Style.Directives

/-! What cleaning leaves behind. A cleaned stylesheet is cleaned again to itself exactly if nothing is found in it that
cleaning takes away, and the empty rules in it are those whose braces held nothing but other empty rules. -/
namespace Pagewright.Style
open Text (isBlank Silent AllBlank Inked erase trim)

/-- A text that has none of the pieces that cleaning takes away. -/
structure ResidueFree (s : List Char) : Prop extends DirectiveFree s where
  rule : Silent emptyRule? s

/-- A text is cleaned to itself exactly if it has nothing to take away and no white space at its ends. -/
theorem clean_eq_self_iff (s : List Char) : clean s = s ↔ ResidueFree s ∧ Inked s := by
  have tailwind := directive?_recognises "@tailwind".toList (by decide)
  have apply := directive?_recognises "@apply".toList (by decide)
  have layer := layerStart?_recognises
  have rule := emptyRule?_recognises
  constructor
  · intro same
    -- Every pass gives a part of the text that it starts from, so each of them has to give the whole.
    have fourth : s.Sublist (erase emptyRule? (withoutDirectives s)) := by
      have trimmed := (Text.trim_within (erase emptyRule? (withoutDirectives s))).sublist
      rwa [← clean_eq,same] at trimmed
    have third := fourth.trans (rule.erase_sublist _)
    have second := third.trans (layer.erase_sublist _)
    have one := (tailwind.erase_sublist s).antisymm (second.trans (apply.erase_sublist _))
    rw [one] at second
    have two := (apply.erase_sublist s).antisymm second
    rw [withoutDirectives,one,two] at third fourth
    have three := (layer.erase_sublist s).antisymm third
    rw [three] at fourth
    have four := (rule.erase_sublist s).antisymm fourth
    refine ⟨⟨⟨(tailwind.erase_eq_self_iff s).mp one,(apply.erase_eq_self_iff s).mp two,
      (layer.erase_eq_self_iff s).mp three⟩,(rule.erase_eq_self_iff s).mp four⟩,?_⟩
    rw [← same]
    exact Text.trim_inked _
  · rintro ⟨free,inked⟩
    rw [clean_eq,withoutDirectives,(tailwind.erase_eq_self_iff s).mpr free.tailwind,
      (apply.erase_eq_self_iff s).mpr free.apply,(layer.erase_eq_self_iff s).mpr free.layer,
      (rule.erase_eq_self_iff s).mpr free.rule,Text.trim_of_inked s inked]

section Hollow

/-- Empty rules one after another, and white space. -/
inductive Hollow : List Char → Prop
  | blank (s : List Char) : AllBlank s → Hollow s
  | rule (rule rest : List Char) : IsEmptyRule rule → Hollow rest → Hollow (rule ++ rest)

/-- Somewhere in a text, and not at its start, a rule has nothing but empty rules between its braces. -/
def HollowRule (css : List Char) : Prop :=
  ∃ before c inner after, css = before ++ c :: '\x7b' :: (inner ++ '\x7d' :: after) ∧ isBrace c = false ∧
    ¬ Hollow (before ++ [c]) ∧ Hollow inner ∧ ¬ AllBlank inner

theorem emptyRule?_brace (c : Char) (s : List Char) (brace : isBrace c = true) : emptyRule? (c :: s) = none := by
  cases here : emptyRule? (c :: s) with
  | none => rfl
  | some rest =>
    obtain ⟨_,⟨selector,inside,proper,plain,_,rfl⟩,split⟩ := (emptyRule?_recognises.found_iff _ _).mp here
    cases selector with
    | nil => exact absurd rfl proper
    | cons d selector =>
      obtain ⟨rfl,_⟩ := List.cons.inj split
      rw [plain c List.mem_cons_self] at brace
      cases brace

/-- What empties a hollow text goes on behind it. -/
theorem erase_hollow (inner after : List Char) (hollow : Hollow inner) :
    erase emptyRule? (inner ++ '\x7d' :: after) = erase emptyRule? inner ++ '\x7d' :: erase emptyRule? after := by
  induction hollow with
  | blank s blank =>
    refine (emptyRule?_recognises.erase_append s _ fun t suffix _ found => absurd ?_ found).trans ?_
    · exact emptyRule?_closing t after fun c inside => Braceless.blank s blank c (suffix.subset inside)
    · rw [Text.erase_kept _ '\x7d' after (emptyRule?_brace '\x7d' after rfl)]
  | rule rule rest empty hollow ih => rw [List.append_assoc,erase_rule rule _ empty,ih,erase_rule rule rest empty]

theorem hollow_iff (s : List Char) : Hollow s ↔ AllBlank (erase emptyRule? s) := by
  constructor
  · intro hollow
    induction hollow with
    | blank s blank =>
      rw [(emptyRule?_recognises.erase_eq_self_iff s).mpr (silent_unopened s (Braceless.blank s blank).unopened)]
      exact blank
    | rule rule rest empty hollow ih => rwa [erase_rule rule rest empty]
  · induction s using Text.erase_induct _ emptyRule?_recognises.shortens with
    | nil => exact fun blank => .blank [] blank
    | found c s rest found ih =>
      intro blank
      obtain ⟨rule,empty,split⟩ := (emptyRule?_recognises.found_iff _ _).mp found
      rw [split] at blank ⊢
      exact .rule rule rest empty (ih (by rwa [erase_rule rule rest empty] at blank))
    | kept c s passed ih =>
      intro blank
      rw [Text.erase_kept _ c s passed] at blank
      have first := blank c List.mem_cons_self
      cases ih (List.forall_mem_cons.mp blank).2 with
      | blank _ rest => exact .blank _ (List.forall_mem_cons.mpr ⟨first,rest⟩)
      | rule rule rest empty _ =>
        -- White space before an empty rule belongs to its selector.
        have found := (emptyRule?_recognises.found_iff (rule ++ rest) rest).mpr ⟨rule,empty,rfl⟩
        rw [emptyRule?_wider c _ rest (blank_unbraced c first) found] at passed
        cases passed

/-- A hollow text that is more than white space starts with the selector of a rule. -/
theorem Hollow.opens (inner after blank rest : List Char) (hollow : Hollow inner) (filled : ¬ AllBlank inner)
    (white : AllBlank blank) : inner ++ '\x7d' :: after ≠ blank ++ '\x7d' :: rest := by
  intro same
  cases hollow with
  | blank _ empty => exact filled empty
  | rule rule more empty _ =>
    obtain ⟨selector,inside,_,plain,_,rfl⟩ := empty
    have opening := plain.span selector (inside ++ '\x7d' :: (more ++ '\x7d' :: after)) '\x7b' rfl
    have closing := (Braceless.blank blank white).span blank rest '\x7d' rfl
    rw [← same] at closing
    simp only [List.append_assoc,List.cons_append,List.nil_append] at closing
    rw [opening] at closing
    cases closing

/-- A character that is no brace is not the end of an empty rule. -/
theorem emptyRule?_concat (s : List Char) (c : Char) (plain : isBrace c = false) (passed : emptyRule? s = none) :
    emptyRule? (s ++ [c]) = none := by
  cases here : emptyRule? (s ++ [c]) with
  | none => rfl
  | some rest =>
    obtain ⟨_,⟨selector,inside,proper,unbraced,white,rfl⟩,split⟩ := (emptyRule?_recognises.found_iff _ _).mp here
    obtain rfl | ⟨more,d,rfl⟩ := List.eq_nil_or_concat' rest
    · rw [List.append_nil,← List.cons_append,← List.append_assoc] at split
      obtain ⟨_,same⟩ := List.append_inj' split rfl
      rw [(List.cons.inj same).1] at plain
      cases plain
    · rw [← List.append_assoc] at split
      rw [(emptyRule?_recognises.found_iff s more).mpr
        ⟨_,⟨selector,inside,proper,unbraced,white,rfl⟩,(List.append_inj_left' split rfl)⟩] at passed
      cases passed

theorem erase_concat (s : List Char) (c : Char) (plain : isBrace c = false) :
    erase emptyRule? (s ++ [c]) = erase emptyRule? s ++ [c] := by
  have alone : erase emptyRule? [c] = [c] :=
    Text.erase_kept _ c [] (emptyRule?_concat [] c plain emptyRule?_recognises.at_nil)
  rw [emptyRule?_recognises.erase_append s [c],alone]
  exact fun t _ _ found passed => found (emptyRule?_concat t c plain passed)

/-- No empty rule goes over the start of a rule that is not closed at once. -/
theorem erase_opening (s z : List Char) (filled : ∀ blank rest, AllBlank blank → z ≠ blank ++ '\x7d' :: rest) :
    erase emptyRule? (s ++ '\x7b' :: z) = erase emptyRule? s ++ '\x7b' :: erase emptyRule? z := by
  rw [emptyRule?_recognises.erase_append s,Text.erase_kept _ '\x7b' z (emptyRule?_brace '\x7b' z rfl)]
  intro t _ _ found passed
  obtain ⟨rest,found⟩ := Option.ne_none_iff_exists'.mp found
  obtain ⟨_,⟨selector,inside,proper,plain,white,rfl⟩,split⟩ := (emptyRule?_recognises.found_iff _ _).mp found
  obtain ⟨more,whole,behind⟩ | ⟨more,part,behind⟩ := List.append_eq_append_iff.mp split
  · cases more with
    | nil =>
      rw [List.append_nil] at whole
      rw [(emptyRule?_recognises.found_iff t []).mpr
        ⟨_,⟨selector,inside,proper,plain,white,rfl⟩,by simp [whole]⟩] at passed
      cases passed
    | cons c more =>
      -- The find would close the rule at once.
      obtain ⟨rfl,tail⟩ := List.cons.inj behind
      obtain ⟨rfl,rfl⟩ := cut_at_opening selector inside t more plain (Braceless.blank inside white) whole
      exact filled inside rest white (tail.trans (by simp))
  · rw [(emptyRule?_recognises.found_iff t more).mpr ⟨_,⟨selector,inside,proper,plain,white,rfl⟩,part⟩] at passed
    cases passed

/-- An empty rule that trimming leaves has more than white space in front of its opening brace. -/
theorem silent_trim_iff (s : List Char) : Silent emptyRule? (trim s) ↔
    ¬ ∃ before c inside after, s = before ++ c :: '\x7b' :: (inside ++ '\x7d' :: after) ∧ isBrace c = false ∧
      AllBlank inside ∧ ¬ AllBlank (before ++ [c]) := by
  obtain ⟨lead,trail,leading,trailing,cut⟩ := Text.trim_split s
  constructor
  · rintro silent ⟨before,c,inside,after,split,plain,white,filled⟩
    -- From the last character before the brace that is no white space on, the text is not touched by trimming.
    obtain ⟨first,d,blank,same,ink,_⟩ := Text.last_ink (before ++ [c]) filled
    have inked : Inked (d :: blank ++ '\x7b' :: (inside ++ ['\x7d'])) := by
      refine ⟨?_,?_⟩
      · rintro _ ⟨⟩
        exact ink
      · rw [← List.cons_append,← List.append_assoc,List.getLast?_concat]
        rintro _ ⟨⟩
        rfl
    have within : d :: blank ++ '\x7b' :: (inside ++ ['\x7d']) <:+: trim s := by
      rw [← Text.infix_between_blanks _ _ lead trail leading trailing inked,← cut,split]
      refine ⟨first,after,?_⟩
      rw [← List.append_assoc first,← same]
      simp
    have kept := (emptyRule?_recognises.silent_iff _).mp (emptyRule?_recognises.silent_part _ _ silent within)
    refine kept (c :: '\x7b' :: (inside ++ ['\x7d']))
      ⟨[c],inside,List.cons_ne_nil _ _,List.forall_mem_singleton.mpr plain,white,rfl⟩ ?_
    obtain ⟨more,e,last⟩ := (List.eq_nil_or_concat' (d :: blank)).resolve_left (List.cons_ne_nil _ _)
    rw [last,← List.append_assoc] at same
    obtain ⟨_,end'⟩ := List.append_inj' same rfl
    rw [last,← end']
    exact ⟨more,[],by simp⟩
  · intro absent
    rw [emptyRule?_recognises.silent_iff]
    rintro _ ⟨selector,inside,proper,plain,white,rfl⟩ ⟨before,after,split⟩
    obtain rfl | ⟨more,c,rfl⟩ := List.eq_nil_or_concat' selector
    · exact proper rfl
    refine absent ⟨lead ++ before ++ more,c,inside,after ++ trail,?_,plain c (by simp),white,fun blank => ?_⟩
    · rw [cut,← split]
      simp
    · refine Text.trim_start s (before ++ (more ++ [c])) ('\x7b' :: (inside ++ ['\x7d']) ++ after) ?_ (by simp) ?_
      · rw [← split]
        simp
      · intro d among
        exact blank d (by rw [List.append_assoc,List.append_assoc]; exact List.mem_append_right lead among)

theorem silent_rules_iff (s : List Char) : Silent emptyRule? (trim (erase emptyRule? s)) ↔ ¬ HollowRule s := by
  rw [silent_trim_iff,not_iff_not]
  constructor
  · rintro ⟨before,c,inside,after,split,plain,white,filled⟩
    obtain ⟨first,rest,rfl,same,passed,left⟩ := emptyRule?_recognises.erase_split s before _ c split
    have next := emptyRule?_none_of_wider c rest plain passed
    cases rest with
    | nil => cases left
    | cons d rest =>
      rw [Text.erase_kept _ d rest next] at left
      obtain ⟨rfl,tail⟩ := List.cons.inj left
      obtain ⟨inner,more,rfl,emptied,_,_⟩ := emptyRule?_recognises.erase_split rest inside after _ tail
      refine ⟨first,c,inner,more,rfl,plain,?_,(hollow_iff inner).mpr (emptied ▸ white),fun blank => ?_⟩
      · rw [hollow_iff,erase_concat first c plain,same]
        exact filled
      · have found := (emptyRule?_recognises.found_iff (c :: '\x7b' :: (inner ++ '\x7d' :: more)) more).mpr
          ⟨_,⟨[c],inner,List.cons_ne_nil _ _,List.forall_mem_singleton.mpr plain,blank,rfl⟩,by simp⟩
        rw [passed] at found
        cases found
  · rintro ⟨before,c,inner,after,rfl,plain,filled,hollow,proper⟩
    have opened := erase_opening (before ++ [c]) (inner ++ '\x7d' :: after)
      fun blank rest white => hollow.opens inner after blank rest proper white
    rw [erase_concat before c plain,erase_hollow inner after hollow,List.append_assoc,List.append_assoc] at opened
    refine ⟨_,c,erase emptyRule? inner,_,opened,plain,(hollow_iff inner).mp hollow,?_⟩
    rwa [hollow_iff,erase_concat before c plain] at filled

end Hollow

/-- A cleaned stylesheet is left as it is by a second cleaning exactly if nothing is found in it. The rules that are
found are those that held empty rules only, and directives are found only if not all of them start a statement. -/
theorem clean_residueFree_iff (css : List Char) :
    (ResidueFree (clean css) ↔ clean (clean css) = clean css) ∧
      (ResidueFree (clean css) ↔ DirectiveFree (clean css) ∧ ¬ HollowRule (withoutDirectives css)) ∧
      (DirectivesApart css → DirectiveFree (clean css)) := by
  refine ⟨?_,?_,fun apart => ?_⟩
  · rw [clean_eq_self_iff (clean css)]
    exact (and_iff_left (Text.trim_inked _)).symm
  · rw [← silent_rules_iff,← clean_eq]
    exact ⟨fun free => ⟨free.toDirectiveFree,free.rule⟩,fun free => ⟨free.1,free.2⟩⟩
  · exact (withoutDirectives_free css apart).erase_emptyRule.part _ _ (Text.trim_within _)

/-- A stylesheet with directives at the start of its rules and of their declarations. -/
def layeredSheet : List Char :=
  "@tailwind base;\n@layer base \x7b\n.btn \x7b @apply px-4; color: red; \x7d\n.card \x7b \x7d\n\x7d".toList

theorem layeredSheet_directiveFree : DirectivesApart layeredSheet ∧ DirectiveFree (clean layeredSheet) := by
  have apart : DirectivesApart layeredSheet := by decide +kernel
  exact ⟨apart,(clean_residueFree_iff layeredSheet).2.2 apart⟩

/-- The rule around an empty rule is left behind and goes in a second cleaning only, and so does a directive that is put
together when one between its letters is taken away. -/
theorem residue_left_behind :
    clean "@media print \x7b .a \x7b \x7d \x7d".toList = "@media print \x7b \x7d".toList ∧
      clean (clean "@media print \x7b .a \x7b \x7d \x7d".toList) = [] ∧
      clean "@tail@apply x;wind base;".toList = "@tailwind base;".toList ∧
      clean (clean "@tail@apply x;wind base;".toList) = [] := by
  decide +kernel

end Pagewright.Style
