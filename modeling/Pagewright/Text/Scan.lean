import Pagewright.Text.Class

/-!
Searching, splitting and replacing text by fixed pieces and by recognisers. A recogniser looks at
the start of a text and gives what it found with the rest; `finds` collects its finds from left to
right without overlap and `substitute` replaces them. Both move on by at least one character.
-/

namespace Pagewright.Text

/-- The rest of a text that starts with `piece`. -/
def after? : List Char → List Char → Option (List Char)
  | [], s => some s
  | _ :: _, [] => none
  | p :: piece, c :: s => if p == c then after? piece s else none

/-- Whether a text starts with `piece`. -/
def startsWith (piece s : List Char) : Bool := (after? piece s).isSome

/-- Whether a text ends with `piece`. -/
def endsWith (piece s : List Char) : Bool := startsWith piece.reverse s.reverse

/-- The text before the first occurrence of `piece` and the text after it. -/
def cut? (piece : List Char) : List Char → Option (List Char × List Char)
  | [] => if piece.isEmpty then some ([], []) else none
  | c :: s => match after? piece (c :: s) with
    | some rest => some ([], rest)
    | none => (cut? piece s).map fun (before, rest) => (c :: before, rest)

/-- Whether `piece` occurs in a text. -/
def occurs (piece : List Char) : List Char → Bool
  | [] => piece.isEmpty
  | c :: s => startsWith piece (c :: s) || occurs piece s

/-- The number of characters before the first occurrence of `piece`. -/
def position? (piece s : List Char) : Option Nat := (cut? piece s).map (·.1.length)

def dropBlanks (s : List Char) : List Char := s.dropWhile isBlank

/-- A text without the characters of a class at its two ends. -/
def trimBy (strip : Char → Bool) (s : List Char) : List Char :=
  ((s.dropWhile strip).reverse.dropWhile strip).reverse

/-- A text without white space at its two ends. -/
def trim (s : List Char) : List Char := trimBy isBlank s

/-- The pieces of a text between the separators, empty ones included. -/
def splitOn (separator : Char) : List Char → List (List Char)
  | [] => [[]]
  | c :: s =>
    if c == separator then [] :: splitOn separator s
    else match splitOn separator s with
      | [] => [[c]]
      | piece :: pieces => (c :: piece) :: pieces

/-- The maximal runs of characters that are no white space. -/
def words (s : List Char) : List (List Char) :=
  (s.foldr (fun c (acc : List (List Char)) =>
    if isBlank c then [] :: acc
    else match acc with
      | [] => [[c]]
      | word :: rest => (c :: word) :: rest) [[]]).filter (!·.isEmpty)

/-- Pieces put together with a separator between neighbours. -/
def join (separator : List Char) : List (List Char) → List Char
  | [] => []
  | [piece] => piece
  | piece :: pieces => piece ++ separator ++ join separator pieces

/-- What a recogniser finds at the start of a text, and the rest. -/
abbrev Recogniser (α : Type) := List Char → Option (α × List Char)

/-- Finds from left to right; `fuel` bounds the number of steps. -/
def findsWithin {α : Type} (recognise : Recogniser α) : Nat → List Char → List α
  | 0, _ => []
  | _ + 1, [] => []
  | fuel + 1, c :: s => match recognise (c :: s) with
    | some (found, rest) => found :: findsWithin recognise fuel rest
    | none => findsWithin recognise fuel s

/-- All finds of a recogniser that consumes at least one character, from left to right. -/
def finds {α : Type} (recognise : Recogniser α) (s : List Char) : List α :=
  findsWithin recognise s.length s

/-- The first find of a recogniser. -/
def firstMatch? {α : Type} (recognise : Recogniser α) : List Char → Option α
  | [] => none
  | c :: s => match recognise (c :: s) with
    | some (found, _) => some found
    | none => firstMatch? recognise s

/-- A text with the finds replaced; `fuel` bounds the number of steps. -/
def substituteWithin (recognise : Recogniser (List Char)) : Nat → List Char → List Char
  | 0, s => s
  | _ + 1, [] => []
  | fuel + 1, c :: s => match recognise (c :: s) with
    | some (replacement, rest) => replacement ++ substituteWithin recognise fuel rest
    | none => c :: substituteWithin recognise fuel s

/-- A text with every find of a recogniser replaced by what it gives. -/
def substitute (recognise : Recogniser (List Char)) (s : List Char) : List Char :=
  substituteWithin recognise s.length s

/-- A text without the finds of a recogniser, which gives the rest after one. -/
def erase (recognise : List Char → Option (List Char)) (s : List Char) : List Char :=
  substitute (fun t => (recognise t).map fun rest => ([], rest)) s

/-- Every occurrence of a non-empty piece replaced. -/
def replace (piece replacement : List Char) (s : List Char) : List Char :=
  substitute (fun t => (after? piece t).map fun rest => (replacement, rest)) s

/-- Line ends of the three usual kinds as line feeds. -/
def normalizeLines : List Char → List Char
  | [] => []
  | '\r' :: '\n' :: s => '\n' :: normalizeLines s
  | c :: s => (if c == '\r' then '\n' else c) :: normalizeLines s

/-- Whether `piece` occurs in `s`, case apart being significant. -/
def occursIn (piece s : String) : Bool := occurs piece.toList s.toList

theorem after?_eq_some_iff {piece s rest : List Char} :
    after? piece s = some rest ↔ s = piece ++ rest := by
  induction piece generalizing s with
  | nil => simp [after?, eq_comm]
  | cons p piece ih =>
    cases s with
    | nil => simp [after?]
    | cons c s =>
      by_cases h : p = c
      · subst h; simp [after?, ih]
      · simp [after?, h, Ne.symm h]

theorem startsWith_iff (piece s : List Char) : startsWith piece s = true ↔ piece <+: s := by
  simp only [startsWith, Option.isSome_iff_exists, after?_eq_some_iff]
  exact exists_congr fun rest => eq_comm

theorem occurs_iff (piece s : List Char) : occurs piece s = true ↔ piece <:+: s := by
  induction s with
  | nil => simp [occurs]
  | cons c s ih => rw [occurs, Bool.or_eq_true, startsWith_iff, ih, List.infix_cons_iff]

theorem cut?_eq_append {piece s before rest : List Char} (h : cut? piece s = some (before, rest)) :
    s = before ++ piece ++ rest := by
  induction s generalizing before with
  | nil =>
    by_cases e : piece.isEmpty = true
    · simp [cut?, e] at h; simp [h, List.isEmpty_iff.mp e]
    · simp [cut?, e] at h
  | cons c s ih =>
    rw [cut?] at h
    cases ha : after? piece (c :: s) with
    | some r =>
      simp only [ha, Option.some.injEq, Prod.mk.injEq] at h
      obtain ⟨rfl, rfl⟩ := h
      simpa using after?_eq_some_iff.mp ha
    | none =>
      simp only [ha, Option.map_eq_some_iff] at h
      obtain ⟨⟨b, r⟩, hb, e⟩ := h
      simp only [Prod.mk.injEq] at e
      obtain ⟨rfl, rfl⟩ := e
      simp [ih hb]

end Pagewright.Text
