import Pagewright.Proofs.Page.Elements

/-! Headings, paragraphs and buttons as families of elements: each is recognised behind its name and read up to the next
closing tag of that name. -/
namespace Pagewright.Page
open Text (after? cut?)

theorem classStarts_shorter (s start : List Char) (among : start ∈ classStarts s) : start.length ≤ s.length := by
  induction s with
  | nil => cases among
  | cons c s ih =>
    rw [classStarts] at among
    split at among
    · cases among
    · split at among
      next rest opened =>
        obtain rfl | among := List.mem_cons.mp among
        · unfold classStart? at opened
          split at opened
          next quote inner found =>
            have size := congrArg List.length (Text.after?_eq_some_iff.mp found)
            split at opened
            · cases opened
              simp only [List.length_append,List.length_cons] at size ⊢
              omega
            · cases opened
          next => cases opened
        · exact (ih among).trans (Nat.le_succ _)
      next => exact (ih among).trans (Nat.le_succ _)

theorem classedContent?_shorter (close s rest : List Char) (find : List Char × List Char)
    (found : classedContent? close s = some (find,rest)) : rest.length ≤ s.length := by
  unfold classedContent? at found
  obtain ⟨start,among,found⟩ := List.exists_of_findSome?_eq_some found
  have first := classStarts_shorter s start (List.mem_reverse.mp among)
  obtain ⟨⟨classes,body⟩,opened,found⟩ := Option.bind_eq_some_iff.mp found
  obtain ⟨⟨content,left⟩,ended,found⟩ := Option.bind_eq_some_iff.mp found
  cases found
  have last := congrArg List.length (Text.cut?_eq_append ended)
  unfold classesAndBody? at opened
  split at opened
  · cases opened
  · rename_i quote inner dropped
    obtain ⟨body,tagged,same⟩ := Option.map_eq_some_iff.mp opened
    cases same
    unfold afterTag? at tagged
    split at tagged
    · cases tagged
    · rename_i bracket body closed
      cases tagged
      have one := (List.dropWhile_sublist (p := (!isQuote ·)) (l := start)).length_le
      have two := (List.dropWhile_sublist (p := (· != '>')) (l := inner)).length_le
      rw [dropped,List.length_cons] at one
      rw [closed,List.length_cons] at two
      simp only [List.length_append] at last
      omega

/-- An element with classes is found behind its name. -/
theorem classedContent?_opened (close more classes body : List Char) (named : IsName more)
    (quotable : Quotable classes) :
    classedContent? close (more ++ (" className=\"".toList ++ (classes ++ '"' :: '>' :: body))) =
      (cut? close body).map fun parts => ((classes,parts.1),parts.2) := by
  have later := classStarts_later more ("className=\"".toList ++ (classes ++ '"' :: '>' :: body))
    (named.without '=' (by decide)) (named.without '>' (by decide))
  have written := classStarts_written classes body quotable
  unfold classedContent?
  rw [show " className=\"".toList = ' ' :: "className=\"".toList by decide] at written ⊢
  rw [List.cons_append] at written ⊢
  rw [later,written]
  simp only [List.reverse_singleton,List.findSome?_cons,List.findSome?_nil]
  rw [classesAndBody?_written classes _ quotable]
  dsimp only [bind,Option.bind]
  cases cut? close body <;> rfl

def headingNames : List (List Char) := "123456".toList.map fun level => ['h',level]

theorem headingNames_level (level : Char) (least : '1' ≤ level) (most : level ≤ '6') : ['h',level] ∈ headingNames := by
  have lower : 49 ≤ level.toNat := least
  have upper : level.toNat ≤ 54 := most
  have known : ∀ n < 55, 49 ≤ n → ['h',Char.ofNat n] ∈ headingNames := by decide
  have here := known level.toNat (by omega) lower
  rwa [Char.ofNat_toNat] at here

def headings : Family (Char × List Char × List Char) where
  recognise := heading?
  names := headingNames
  find name classes content := (name.getLast?.getD 'h',classes,content)
  proper := by decide
  named := by decide
  apart := by decide
  shortens := by
    intro c s rest found
    obtain ⟨⟨find,left⟩,recognised,rfl⟩ := Option.map_eq_some_iff.mp found
    unfold heading? at recognised
    obtain ⟨inner,opened,recognised⟩ := Option.bind_eq_some_iff.mp recognised
    have size := congrArg List.length (Text.after?_eq_some_iff.mp opened)
    split at recognised
    · split at recognised
      · obtain ⟨⟨content,left⟩,ended,same⟩ := Option.bind_eq_some_iff.mp recognised
        cases same
        have shorter := classedContent?_shorter _ _ _ _ ended
        simp at size
        dsimp only
        omega
      · cases recognised
    · cases recognised
  opens name known more classes body named quotable := by
    obtain ⟨level,among,rfl⟩ := List.mem_map.mp known
    have bounds : "123456".toList.all (fun level => '1' ≤ level && level ≤ '6') = true := by decide
    have opened := classedContent?_opened ("</h".toList ++ [level,'>']) more classes body named quotable
    unfold heading?
    rw [show after? "<h".toList ('<' :: (['h',level] ++ (more ++ (" className=\"".toList ++
      (classes ++ '"' :: '>' :: body))))) = some (level :: (more ++ (" className=\"".toList ++
      (classes ++ '"' :: '>' :: body)))) by rfl]
    dsimp only [bind,Option.bind]
    rw [if_pos (by simpa using List.all_eq_true.mp bounds level among),opened]
    rw [show "</h".toList ++ [level,'>'] = '<' :: closing ['h',level] by rfl]
    cases cut? ('<' :: closing ['h',level]) body <;> rfl
  silent s absent := by
    unfold heading?
    cases opened : after? "<h".toList s with
    | none => rfl
    | some inner =>
      dsimp only [bind,Option.bind]
      cases inner with
      | nil => rfl
      | cons level inner =>
        dsimp only
        split
        · rename_i range
          simp only [Bool.and_eq_true,decide_eq_true_eq] at range
          refine absurd ?_ (absent _ (headingNames_level level range.1 range.2))
          exact ⟨inner,(Text.after?_eq_some_iff.mp opened).symm⟩
        · rfl

def paragraphs : Family (List Char × List Char) where
  recognise := paragraph?
  names := [['p']]
  find _ classes content := (classes,content)
  proper := by decide
  named := by decide
  apart := by decide
  shortens := by
    intro c s rest found
    obtain ⟨⟨find,left⟩,recognised,rfl⟩ := Option.map_eq_some_iff.mp found
    unfold paragraph? at recognised
    obtain ⟨inner,opened,recognised⟩ := Option.bind_eq_some_iff.mp recognised
    have size := congrArg List.length (Text.after?_eq_some_iff.mp opened)
    have shorter := classedContent?_shorter _ _ _ _ recognised
    simp at size
    dsimp only
    omega
  opens name known more classes body named quotable := by
    obtain rfl := List.mem_singleton.mp known
    exact classedContent?_opened ('<' :: closing ['p']) more classes body named quotable
  silent s absent := by
    have none := (Text.after?_eq_none_iff _ _).mpr (absent ['p'] List.mem_cons_self)
    unfold paragraph?
    rw [show "<p".toList = '<' :: ['p'] by rfl,none]
    rfl

def buttonName : List Char := "Button".toList

def buttons : Family (List Char) where
  recognise := button?
  names := [buttonName]
  find _ _ content := content
  proper := by decide
  named := by decide
  apart := by decide
  shortens := by
    intro c s rest found
    obtain ⟨⟨find,left⟩,recognised,rfl⟩ := Option.map_eq_some_iff.mp found
    unfold button? at recognised
    obtain ⟨inner,opened,recognised⟩ := Option.bind_eq_some_iff.mp recognised
    obtain ⟨body,tagged,ended⟩ := Option.bind_eq_some_iff.mp recognised
    have size := congrArg List.length (Text.after?_eq_some_iff.mp opened)
    have last := congrArg List.length (Text.cut?_eq_append ended)
    unfold afterTag? at tagged
    split at tagged
    · cases tagged
    · rename_i bracket body closed
      cases tagged
      have shorter := (List.dropWhile_sublist (p := (· != '>')) (l := inner)).length_le
      rw [closed,List.length_cons] at shorter
      simp at size last
      dsimp only
      omega
  opens name known more classes body named quotable := by
    obtain rfl := List.mem_singleton.mp known
    have opened : after? "<Button".toList ('<' :: (buttonName ++ (more ++ (" className=\"".toList ++
        (classes ++ '"' :: '>' :: body))))) =
          some (more ++ (" className=\"".toList ++ (classes ++ '"' :: '>' :: body))) :=
      Text.after?_eq_some_iff.mpr rfl
    have tagged : afterTag? (more ++ (" className=\"".toList ++ (classes ++ '"' :: '>' :: body))) = some body := by
      have passed : ∀ c ∈ more ++ (" className=\"".toList ++ (classes ++ ['"'])), (c != '>') = true := by
        intro c inside
        refine bne_iff_ne.mpr fun same => ?_
        subst same
        rcases List.mem_append.mp inside with inside | inside
        · exact named.without '>' (by decide) inside
        · simp at inside
          exact (quotable '>' inside).2.2 rfl
      have dropped : (more ++ (" className=\"".toList ++ (classes ++ ['"'])) ++ '>' :: body).dropWhile (· != '>') =
          ('>' :: body).dropWhile (· != '>') := List.dropWhile_append_of_pos passed
      unfold afterTag?
      simp only [List.append_assoc,List.singleton_append] at dropped
      rw [dropped]
      rfl
    unfold button?
    rw [opened]
    dsimp only [bind,Option.bind]
    rw [tagged]
    exact Option.map_id'.symm
  silent s absent := by
    have none := (Text.after?_eq_none_iff _ _).mpr (absent buttonName List.mem_cons_self)
    unfold button?
    rw [show "<Button".toList = '<' :: buttonName by rfl,none]
    rfl

end Pagewright.Page
