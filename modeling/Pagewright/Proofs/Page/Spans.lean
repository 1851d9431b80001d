import Pagewright.Page.Markup
import Pagewright.Proofs.Text.Replacing

/-! Spans of markup. A span ends at the next closing character, whatever is opened in it, and there is one only where
something stands between the two. So interpolations are dropped whole exactly if none of them is empty or holds another
one; what stands outside of all braces is kept in any case. -/
namespace Pagewright.Page

/-- Something between an opening character and the next closing one. -/
def IsSpan (opening closing : Char) (found : List Char) : Prop :=
  ∃ inner, inner ≠ [] ∧ closing ∉ inner ∧ found = opening :: (inner ++ [closing])

theorem span?_recognises (opening closing : Char) :
    Text.Recognises (span? opening closing) (IsSpan opening closing) where
  proper := by
    rintro ⟨inner,_,_,none⟩
    cases none
  found_iff s rest := by
    constructor
    · intro found
      cases s with
      | nil => cases found
      | cons c s =>
        have cut := List.takeWhile_append_dropWhile (p := (· != closing)) (l := s)
        have stops := List.head?_dropWhile_not (· != closing) s
        rw [span?] at found
        split at found
        · rename_i opens
          obtain rfl := beq_iff_eq.mp opens
          cases dropped : s.dropWhile (· != closing) with
          | nil => simp [dropped] at found
          | cons d after =>
            rw [dropped] at stops cut
            obtain rfl : d = closing := by simpa using stops
            simp only [dropped] at found
            split at found
            · cases found
            · rename_i filled
              obtain rfl := Option.some.inj found
              refine ⟨c :: (s.takeWhile (· != d) ++ [d]),⟨s.takeWhile (· != d),?_,?_,rfl⟩,?_⟩
              · intro empty
                rw [empty] at cut
                exact filled (by rw [← cut]; simp)
              · exact fun inside => by simpa using List.mem_takeWhile_imp inside
              · rw [List.cons_append,List.append_assoc,List.singleton_append,cut]
        · cases found
    · rintro ⟨_,⟨inner,proper,unclosed,rfl⟩,rfl⟩
      have passed : ∀ c ∈ inner, (c != closing) = true := fun c inside =>
        bne_iff_ne.mpr fun same => unclosed (same ▸ inside)
      have first : inner.head? ≠ some closing := fun same => unclosed (List.mem_of_mem_head? same)
      rw [List.cons_append,List.append_assoc,span?,if_pos (beq_self_eq_true opening),
        List.dropWhile_append_of_pos passed]
      simp [List.head?_append_of_ne_nil _ proper,first]

/-- Markup without the spans that are found in it. -/
def withoutSpans (markup : List Char) : List Char := Text.erase (span? '\x7b' '\x7d') markup

/-- Attributes and empty elements spelled the plain way. -/
def spelledPlainly (markup : List Char) : List Char :=
  Text.replace "/>".toList ">".toList (Text.replace "className=".toList "class=".toList markup)

section Braces

/-- The number of braces that are open after a text; none if one is closed that is not open. -/
def depthAfter : Nat → List Char → Option Nat
  | depth, [] => some depth
  | depth, c :: s =>
    if c = '\x7b' then depthAfter (depth + 1) s
    else if c = '\x7d' then if depth = 0 then none else depthAfter (depth - 1) s
    else depthAfter depth s

/-- Every brace has its partner. -/
def Balanced (markup : List Char) : Prop := depthAfter 0 markup = some 0

instance (markup : List Char) : Decidable (Balanced markup) := inferInstanceAs (Decidable (_ = _))

/-- The characters at depth zero, if the text starts at some depth. -/
def outsideFrom : Nat → List Char → List Char
  | _, [] => []
  | depth, c :: s =>
    if c = '\x7b' then outsideFrom (depth + 1) s
    else if c = '\x7d' then outsideFrom (depth - 1) s
    else if depth = 0 then c :: outsideFrom depth s
    else outsideFrom depth s

/-- The characters of a text that stand outside of all brace pairs. -/
def outside (markup : List Char) : List Char := outsideFrom 0 markup

/-- Texts in which no brace pair is empty or holds another one. -/
inductive FlatSpans : List Char → Prop
  | nil : FlatSpans []
  | char (c : Char) (s : List Char) : c ≠ '\x7b' → c ≠ '\x7d' → FlatSpans s → FlatSpans (c :: s)
  | span (inner s : List Char) : inner ≠ [] → '\x7b' ∉ inner → '\x7d' ∉ inner → FlatSpans s →
      FlatSpans ('\x7b' :: (inner ++ '\x7d' :: s))

theorem depthAfter_unclosed (depth : Nat) (inner s : List Char) (unclosed : '\x7d' ∉ inner) :
    depthAfter depth (inner ++ s) = depthAfter (depth + inner.count '\x7b') s := by
  induction inner generalizing depth with
  | nil => rfl
  | cons c inner ih =>
    rw [List.mem_cons,not_or] at unclosed
    rw [List.cons_append,depthAfter]
    by_cases opens : c = '\x7b'
    · rw [if_pos opens,ih _ unclosed.2,opens,List.count_cons_self]
      congr 1
      omega
    · rw [if_neg opens,if_neg (Ne.symm unclosed.1),ih _ unclosed.2,List.count_cons_of_ne opens]

theorem outsideFrom_unclosed (depth : Nat) (inner s : List Char) (unclosed : '\x7d' ∉ inner) (deep : depth ≠ 0) :
    outsideFrom depth (inner ++ s) = outsideFrom (depth + inner.count '\x7b') s := by
  induction inner generalizing depth with
  | nil => rfl
  | cons c inner ih =>
    rw [List.mem_cons,not_or] at unclosed
    rw [List.cons_append,outsideFrom]
    by_cases opens : c = '\x7b'
    · rw [if_pos opens,ih _ unclosed.2 (Nat.succ_ne_zero depth),opens,List.count_cons_self]
      congr 1
      omega
    · rw [if_neg opens,if_neg (Ne.symm unclosed.1),if_neg deep,ih _ unclosed.2 deep,List.count_cons_of_ne opens]

/-- Behind a span as many braces are open as before it, and those that were opened in it. -/
theorem depthAfter_span (depth : Nat) (inner s : List Char) (unclosed : '\x7d' ∉ inner) :
    depthAfter depth ('\x7b' :: (inner ++ '\x7d' :: s)) = depthAfter (depth + inner.count '\x7b') s := by
  rw [depthAfter,if_pos rfl,depthAfter_unclosed _ inner _ unclosed,
    show depth + 1 + inner.count '\x7b' = depth + inner.count '\x7b' + 1 by omega]
  rfl

theorem outsideFrom_span (depth : Nat) (inner s : List Char) (unclosed : '\x7d' ∉ inner) :
    outsideFrom depth ('\x7b' :: (inner ++ '\x7d' :: s)) = outsideFrom (depth + inner.count '\x7b') s := by
  rw [outsideFrom,if_pos rfl,outsideFrom_unclosed _ inner _ unclosed (Nat.succ_ne_zero depth),
    show depth + 1 + inner.count '\x7b' = depth + inner.count '\x7b' + 1 by omega]
  rfl

theorem span_found (c : Char) (s rest : List Char) (found : span? '\x7b' '\x7d' (c :: s) = some rest) :
    ∃ inner, inner ≠ [] ∧ '\x7d' ∉ inner ∧ c :: s = '\x7b' :: (inner ++ '\x7d' :: rest) := by
  obtain ⟨_,⟨inner,proper,unclosed,rfl⟩,split⟩ := ((span?_recognises _ _).found_iff _ _).mp found
  exact ⟨inner,proper,unclosed,by simpa using split⟩

/-- No span reaches over the end of a brace pair that it does not start in. -/
theorem outsideFrom_sublist (depth : Nat) (markup : List Char) (balanced : depthAfter depth markup = some 0) :
    (outsideFrom depth markup).Sublist (withoutSpans markup) := by
  unfold withoutSpans
  induction markup using Text.erase_induct _ (span?_recognises '\x7b' '\x7d').shortens generalizing depth with
  | nil => exact List.Sublist.refl _
  | found c s rest found ih =>
    obtain ⟨inner,_,unclosed,split⟩ := span_found c s rest found
    rw [Text.erase_found _ (span?_recognises _ _).shortens c s rest found]
    rw [split,depthAfter_span depth inner rest unclosed] at balanced
    rw [split,outsideFrom_span depth inner rest unclosed]
    exact ih _ balanced
  | kept c s passed ih =>
    rw [Text.erase_kept _ c s passed]
    rw [depthAfter] at balanced
    rw [outsideFrom]
    by_cases opens : c = '\x7b'
    · rw [if_pos opens] at balanced ⊢
      exact (ih _ balanced).cons c
    rw [if_neg opens] at balanced ⊢
    by_cases closes : c = '\x7d'
    · rw [if_pos closes] at balanced ⊢
      split at balanced
      · cases balanced
      · exact (ih _ balanced).cons c
    · rw [if_neg closes] at balanced ⊢
      split
      · exact (ih _ balanced).cons_cons c
      · exact (ih _ balanced).cons c

theorem outsideFrom_braceless (depth : Nat) (markup : List Char) :
    '\x7b' ∉ outsideFrom depth markup ∧ '\x7d' ∉ outsideFrom depth markup := by
  induction markup generalizing depth with
  | nil => exact ⟨List.not_mem_nil,List.not_mem_nil⟩
  | cons c s ih =>
    rw [outsideFrom]
    split
    · exact ih _
    · split
      · exact ih _
      · split
        · rename_i opens closes _
          simp [Ne.symm opens,Ne.symm closes,ih]
        · exact ih _

theorem withoutSpans_flat (markup : List Char) (flat : FlatSpans markup) : withoutSpans markup = outside markup := by
  unfold withoutSpans outside
  induction flat with
  | nil => rfl
  | char c s opens closes flat ih =>
    have passed : span? '\x7b' '\x7d' (c :: s) = none := by simp [span?,opens]
    rw [Text.erase_kept _ c s passed,ih,outsideFrom,if_neg opens,if_neg closes,if_pos rfl]
  | span inner s proper unopened unclosed flat ih =>
    have found : span? '\x7b' '\x7d' ('\x7b' :: (inner ++ '\x7d' :: s)) = some s :=
      ((span?_recognises _ _).found_iff _ _).mpr ⟨_,⟨inner,proper,unclosed,rfl⟩,by simp⟩
    rw [Text.erase_found _ (span?_recognises _ _).shortens _ _ s found,ih,outsideFrom_span 0 inner s unclosed,
      List.count_eq_zero.mpr unopened]

/-- Every closing brace has to go with an opening one of its own, so that no span may hold two of them. -/
theorem flat_of_braceless (depth : Nat) (markup : List Char) (balanced : depthAfter depth markup = some 0)
    (unopened : '\x7b' ∉ withoutSpans markup) (unclosed : '\x7d' ∉ withoutSpans markup) :
    depth = 0 ∧ FlatSpans markup := by
  unfold withoutSpans at unopened unclosed
  induction markup using Text.erase_induct _ (span?_recognises '\x7b' '\x7d').shortens generalizing depth with
  | nil => exact ⟨Option.some.inj balanced,.nil⟩
  | found c s rest found ih =>
    obtain ⟨inner,proper,within,split⟩ := span_found c s rest found
    rw [Text.erase_found _ (span?_recognises _ _).shortens c s rest found] at unopened unclosed
    rw [split,depthAfter_span depth inner rest within] at balanced
    obtain ⟨even,flat⟩ := ih _ balanced unopened unclosed
    have single : '\x7b' ∉ inner := List.count_eq_zero.mp (by omega)
    rw [split]
    exact ⟨by omega,.span inner rest proper single within flat⟩
  | kept c s passed ih =>
    rw [Text.erase_kept _ c s passed,List.mem_cons,not_or] at unopened unclosed
    have opens := Ne.symm unopened.1
    have closes := Ne.symm unclosed.1
    rw [depthAfter,if_neg opens,if_neg closes] at balanced
    obtain ⟨even,flat⟩ := ih _ balanced unopened.2 unclosed.2
    exact ⟨even,.char c s opens closes flat⟩

theorem braceless_iff (markup : List Char) (balanced : Balanced markup) :
    '\x7b' ∉ withoutSpans markup ∧ '\x7d' ∉ withoutSpans markup ↔ FlatSpans markup := by
  refine ⟨fun braceless => (flat_of_braceless 0 markup balanced braceless.1 braceless.2).2,fun flat => ?_⟩
  rw [withoutSpans_flat markup flat]
  exact outsideFrom_braceless 0 markup

theorem mem_spelledPlainly (c : Char) (markup : List Char) (other : c ∉ "className=/>".toList) :
    c ∈ spelledPlainly markup ↔ c ∈ markup := by
  have apart : ∀ word ∈ ["className=","class=","/>",">"], c ∉ word.toList := by
    intro word known inside
    have part : ∀ word ∈ ["className=","class=","/>",">"],
        word.toList.all ("className=/>".toList.contains ·) = true := by
      decide
    exact other (List.contains_iff_mem.mp (List.all_eq_true.mp (part word known) c inside))
  unfold spelledPlainly
  rw [Text.mem_replace _ _ _ (by decide) c (apart _ (by decide)) (apart _ (by decide)),
    Text.mem_replace _ _ _ (by decide) c (apart _ (by decide)) (apart _ (by decide))]

end Braces

/-- Of balanced markup everything outside of the braces is kept, and the braces are gone exactly if no pair of them is
empty or holds another one; then nothing but what stands outside is kept. -/
theorem cleanMarkup_balanced (markup : List Char) (balanced : Balanced markup) :
    (∃ kept, cleanMarkup markup = spelledPlainly kept ∧ (outside markup).Sublist kept) ∧
      ('\x7b' ∉ cleanMarkup markup ∧ '\x7d' ∉ cleanMarkup markup ↔ FlatSpans markup) ∧
      (FlatSpans markup → cleanMarkup markup = spelledPlainly (outside markup)) := by
  have cleaned : cleanMarkup markup = spelledPlainly (withoutSpans markup) := rfl
  refine ⟨⟨withoutSpans markup,cleaned,outsideFrom_sublist 0 markup balanced⟩,?_,fun flat => ?_⟩
  · rw [cleaned,mem_spelledPlainly '\x7b' _ (by decide),mem_spelledPlainly '\x7d' _ (by decide)]
    exact braceless_iff markup balanced
  · rw [cleaned,withoutSpans_flat markup flat]

/-- An image whose source is one interpolation. -/
def logoMarkup : List Char := "<img className=\"logo\" src=\x7blogo\x7d />".toList

theorem logoMarkup_cleaned : Balanced logoMarkup ∧ FlatSpans logoMarkup ∧
    cleanMarkup logoMarkup = spelledPlainly (outside logoMarkup) := by
  have balanced : Balanced logoMarkup := by decide
  have cleaned := cleanMarkup_balanced logoMarkup balanced
  have flat : FlatSpans logoMarkup := cleaned.2.1.mp (by decide +kernel)
  exact ⟨balanced,flat,cleaned.2.2 flat⟩

/-- The closing brace of a style object is left behind, and so is an empty pair of braces. -/
theorem braces_left_behind :
    Balanced "<div style=\x7b\x7bcolor: red\x7d\x7d>x</div>".toList ∧
      cleanMarkup "<div style=\x7b\x7bcolor: red\x7d\x7d>x</div>".toList = "<div style=\x7d>x</div>".toList ∧
      Balanced "a\x7b\x7db".toList ∧ cleanMarkup "a\x7b\x7db".toList = "a\x7b\x7db".toList := by
  decide +kernel

end Pagewright.Page
