import Pagewright.Page.Translate
import Pagewright.Proofs.Text.Marks

/-! Sections that are written in markup are found again, with their classes and their content, whatever stands in
them and between them as long as the marks of a section are kept apart. -/
namespace Pagewright.Page
open Text (after? cut?)

/-- An attribute cannot start in a text without equals signs, nor go on behind a character that is not in its name. -/
theorem classStart?_none (s body : List Char) (d : Char) (other : d ∉ "className=".toList) (plain : '=' ∉ s) :
    classStart? (s ++ d :: body) = none := by
  have absent : after? "className=".toList (s ++ d :: body) = none := by
    rw [Text.after?_eq_none_iff]
    rintro ⟨rest,split⟩
    obtain ⟨more,inside,_⟩ | ⟨more,cut,follows⟩ := List.append_eq_append_iff.mp split
    · exact plain (inside ▸ List.mem_append_left more (by decide))
    · cases more with
      | nil => exact plain (by rw [← List.append_nil s,← cut]; decide)
      | cons c more =>
        obtain ⟨rfl,_⟩ := List.cons.inj follows
        exact other (cut ▸ List.mem_append_right s List.mem_cons_self)
  rw [classStart?,absent]

theorem classStarts_none (s body : List Char) (plain : '=' ∉ s) (within : '>' ∉ s) :
    classStarts (s ++ '>' :: body) = [] := by
  induction s with
  | nil => rfl
  | cons c s ih =>
    rw [List.mem_cons,not_or] at plain within
    have start := classStart?_none (c :: s) body '>' (by decide) (by simpa using plain)
    rw [List.cons_append] at start ⊢
    rw [classStarts,if_neg (by simpa using Ne.symm within.1),start]
    exact ih plain.2 within.2

/-- The rest of a name has no attributes in it. -/
theorem classStarts_later (more rest : List Char) (plain : '=' ∉ more) (within : '>' ∉ more) :
    classStarts (more ++ ' ' :: rest) = classStarts (' ' :: rest) := by
  induction more with
  | nil => rfl
  | cons c more ih =>
    rw [List.mem_cons,not_or] at plain within
    have start := classStart?_none (c :: more) rest ' ' (by decide) (by simpa using plain)
    rw [List.cons_append] at start ⊢
    rw [classStarts,if_neg (by simpa using Ne.symm within.1),start]
    exact ih plain.2 within.2

/-- Classes that can be written between quotes in an opening tag. -/
def Quotable (classes : List Char) : Prop := ∀ c ∈ classes, isQuote c = false ∧ c ≠ '=' ∧ c ≠ '>'

theorem quotable_iff (classes : List Char) :
    Quotable classes ↔ (classes.all fun c => !isQuote c && c != '=' && c != '>') = true := by
  simp [Quotable,and_assoc]

theorem classStarts_written (classes body : List Char) (quotable : Quotable classes) :
    classStarts (" className=\"".toList ++ (classes ++ '"' :: '>' :: body)) = [classes ++ '"' :: '>' :: body] := by
  have spelled : " className=\"".toList = [' ','c','l','a','s','s','N','a','m','e','=','"'] := by decide
  have mark : "className=".toList = ['c','l','a','s','s','N','a','m','e','='] := by decide
  have later : classStarts (classes ++ '"' :: '>' :: body) = [] := by
    have plain : '=' ∉ classes ++ ['"'] := by
      simpa using fun inside => (quotable '=' inside).2.1 rfl
    have within : '>' ∉ classes ++ ['"'] := by
      simpa using fun inside => (quotable '>' inside).2.2 rfl
    simpa using classStarts_none (classes ++ ['"']) body plain within
  rw [spelled]
  simp [classStarts,classStart?,mark,after?,isQuote,later]

theorem classesAndBody?_written (classes body : List Char) (quotable : Quotable classes) :
    classesAndBody? (classes ++ '"' :: '>' :: body) = some (classes,body) := by
  have all : ∀ c ∈ classes, (!isQuote c) = true := fun c member => by rw [(quotable c member).1]; rfl
  unfold classesAndBody?
  rw [List.dropWhile_append_of_pos all,List.takeWhile_append_of_pos all]
  simp [isQuote,afterTag?]

/-- An element is recognised by what follows the name of its opening tag. -/
theorem classedContent?_written (close classes inner rest : List Char) (once : '<' ∉ close) (quotable : Quotable classes)
    (unclosed : ¬ '<' :: close <:+: inner) :
    classedContent? ('<' :: close) (" className=\"".toList ++ (classes ++ '"' :: '>' :: (inner ++ '<' :: close ++ rest))) =
      some ((classes,inner),rest) := by
  unfold classedContent?
  rw [classStarts_written classes _ quotable]
  simp only [List.reverse_singleton,List.findSome?_cons]
  rw [classesAndBody?_written classes _ quotable]
  dsimp only [bind,Option.bind]
  rw [Text.cut?_mark '<' close once inner rest unclosed]

/-- A section that can be written in markup. -/
structure SectionText where
  classes : List Char
  inner : List Char
  quotable : Quotable classes
  unclosed : ¬ "</section>".toList <:+: inner

/-- A text in which no section starts. -/
structure Filler where
  text : List Char
  free : ¬ "<section".toList <:+: text

def SectionText.markup (s : SectionText) : List Char :=
  "<section className=\"".toList ++ s.classes ++ "\">".toList ++ s.inner ++ "</section>".toList

/-- Sections in a row, with fillers before each and behind the last one. -/
def pageText : List (Filler × SectionText) → Filler → List Char
  | [],last => last.text
  | (filler,s) :: rest,last => filler.text ++ s.markup ++ pageText rest last

theorem markup_head (s : SectionText) : ∃ more, s.markup = '<' :: more := by
  have opening : "<section className=\"".toList = '<' :: "section className=\"".toList := by decide
  unfold SectionText.markup
  rw [opening]
  exact ⟨_,rfl⟩

theorem markup_found (s : SectionText) (rest : List Char) : section? (s.markup ++ rest) =
    some ((s.classes,s.inner),rest) := by
  have closing : "</section>".toList = '<' :: "/section>".toList := by decide
  have unclosed := closing ▸ s.unclosed
  have opened : after? "<section".toList (s.markup ++ rest) =
      some (" className=\"".toList ++ (s.classes ++ '"' :: '>' :: (s.inner ++ "</section>".toList ++ rest))) := by
    rw [Text.after?_eq_some_iff]
    have split : "<section className=\"".toList = "<section".toList ++ " className=\"".toList := by decide
    have quote : "\">".toList = ['"','>'] := by decide
    unfold SectionText.markup
    rw [split,quote]
    simp only [List.append_assoc,List.cons_append,List.nil_append]
  unfold section?
  rw [opened,closing]
  exact classedContent?_written "/section>".toList s.classes s.inner rest (by decide) s.quotable unclosed

/-- No section is found in a filler, whether a section or nothing comes next. -/
theorem filler_silent (filler : Filler) (s next : List Char) (proper : s ≠ []) (part : s <:+ filler.text)
    (comes : ∀ c ∈ next.head?, c = '<') : section? (s ++ next) = none := by
  have opening : "<section".toList = '<' :: "section".toList := by decide
  have free := opening ▸ filler.free
  have absent : after? "<section".toList (s ++ next) = none := by
    rw [Text.after?_eq_none_iff,opening]
    exact Text.mark_not_prefix '<' "section".toList (by decide) s next proper
      (fun inside => free (inside.trans part.isInfix)) comes
  unfold section?
  rw [absent]
  rfl

theorem finds_pageText (sections : List (Filler × SectionText)) (last : Filler) (fuel : Nat)
    (enough : (pageText sections last).length ≤ fuel) :
    Text.findsWithin section? fuel (pageText sections last) = sections.map fun s => (s.2.classes,s.2.inner) := by
  induction sections generalizing fuel with
  | nil =>
    have skipped := Text.findsWithin_skip section? last.text [] fuel enough fun s proper part =>
      filler_silent last s [] proper part (by simp)
    rw [List.append_nil] at skipped
    rw [pageText,skipped,Text.findsWithin_nil]
    rfl
  | cons first rest ih =>
    obtain ⟨filler,s⟩ := first
    obtain ⟨more,starts⟩ := markup_head s
    rw [pageText,List.append_assoc] at enough ⊢
    rw [List.length_append,List.length_append,starts,List.length_cons] at enough
    rw [Text.findsWithin_skip section? filler.text _ fuel (by omega) fun t proper part =>
      filler_silent filler t _ proper part (by simp [starts])]
    obtain ⟨left,spare⟩ : ∃ left, fuel - filler.text.length = left + 1 := ⟨fuel - filler.text.length - 1,by omega⟩
    rw [spare,Text.findsWithin_found section? _ (pageText rest last) (s.classes,s.inner) left (by simp [starts])
      (markup_found s _),ih left (by omega)]
    rfl

/-- Splitting a page gives the sections that it was written from. -/
theorem splitSections_pageText (sections : List (Filler × SectionText)) (last : Filler) (some : sections ≠ []) :
    splitSections (pageText sections last) = sections.map fun s => (s.2.classes,s.2.inner) := by
  unfold splitSections Text.finds
  rw [finds_pageText sections last _ (Nat.le_refl _)]
  cases sections with
  | nil => exact absurd rfl some
  | cons first rest => rfl

/-- A section that holds the beginning of another one. -/
def nestingText : SectionText where
  classes := "hero wide".toList
  inner := "<section className='inner'>\n a = \"b\"".toList
  quotable := (quotable_iff _).mpr (by decide)
  unclosed := by rw [← Text.occurs_iff]; decide +kernel

def emptyText : SectionText where
  classes := []
  inner := []
  quotable := (quotable_iff []).mpr rfl
  unclosed := by rw [← Text.occurs_iff]; decide +kernel

def cutFiller : Filler where
  text := "</section> className=\"x\"> <sect".toList
  free := by rw [← Text.occurs_iff]; decide

theorem nesting_pageText : [(cutFiller,nestingText),(cutFiller,emptyText)] ≠ [] ∧
    splitSections (pageText [(cutFiller,nestingText),(cutFiller,emptyText)] cutFiller) =
      [("hero wide".toList,"<section className='inner'>\n a = \"b\"".toList),([],[])] :=
  ⟨List.cons_ne_nil _ _,splitSections_pageText _ cutFiller (List.cons_ne_nil _ _)⟩

end Pagewright.Page
