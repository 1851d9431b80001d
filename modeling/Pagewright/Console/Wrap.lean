import Pagewright.Console.CellTable
import Pagewright.Text.Class
import Pagewright.Text.Scan

/-!
Text in lines of limited width. Ideographs and emoji take two cells, marks that combine with the character
before them and controls take none, and all other characters take one. A line ends at white space where its
words fit no more; a word that is too long for any line is folded into several, or cut with an ellipsis at its
end.
-/

namespace Pagewright.Console

/-- The cells of a character. -/
def cellWidth (c : Char) : Nat :=
  if 32 ≤ c.toNat && c.toNat < 127 then 1
  else if Text.inRanges zeroCellRanges c.toNat then 0
  else if Text.inRanges doubleCellRanges c.toNat then 2
  else 1

/-- The cells of a text. -/
def cellCount : List Char → Nat
  | [] => 0
  | c :: rest => cellWidth c + cellCount rest

/-- A blank text of some cells. -/
def blank (cells : Nat) : List Char := List.replicate cells ' '

/-- The characters of a text that fit into some cells; a blank stands for half a character. -/
def takeCells (cells : Nat) : List Char → List Char
  | [] => []
  | c :: rest =>
    if cellWidth c ≤ cells then c :: takeCells (cells - cellWidth c) rest else blank cells

/-- A text with its tabs filled up to the next multiple of eight cells; `cells` stand before it. -/
def expandTabs (cells : Nat) : List Char → List Char
  | [] => []
  | c :: rest =>
    if c == '\t' then
      let filling := 8 - cells % 8
      blank filling ++ expandTabs (cells + filling) rest
    else c :: expandTabs (cells + cellWidth c) rest

theorem cellCount_append (s t : List Char) : cellCount (s ++ t) = cellCount s + cellCount t := by
  induction s with
  | nil => simp [cellCount]
  | cons c rest ih => simp [cellCount, ih, Nat.add_assoc]

theorem cellWidth_space : cellWidth ' ' = 1 := by decide

theorem cellCount_blank (cells : Nat) : cellCount (blank cells) = cells := by
  induction cells with
  | zero => rfl
  | succ cells ih =>
    rw [blank, List.replicate_succ, cellCount, cellWidth_space, ← blank, ih, Nat.add_comm]

/-- What is taken fits. -/
theorem cellCount_takeCells (cells : Nat) (s : List Char) : cellCount (takeCells cells s) ≤ cells := by
  induction s generalizing cells with
  | nil => simp [takeCells, cellCount]
  | cons c rest ih =>
    by_cases h : cellWidth c ≤ cells
    · have := ih (cells - cellWidth c)
      simp only [takeCells, h, if_true, cellCount]
      omega
    · simp [takeCells, h, cellCount_blank]

/-- What is done with a word that is too long for a line. -/
inductive Overflow where
  | fold
  | ellipsis
deriving DecidableEq

/-- Where the text of a line stands. -/
inductive Justify where
  /-- At the left, without cells filled after it. -/
  | free
  | left
  | center
deriving DecidableEq

/-- The words of a line, each with the white space after it. White space before the first is its own. -/
def spacedWords (s : List Char) : List (List Char) :=
  s.foldr (fun c found => match found with
    | [] => [[c]]
    | word :: rest =>
      if Text.isBlank c && !word.head?.any Text.isBlank then [c] :: word :: rest
      else (c :: word) :: rest) []

/-- The words of a line, with the white space before the first one in it. -/
def lineWords (s : List Char) : List (List Char) :=
  match spacedWords s with
  | first :: second :: rest =>
    if first.all Text.isBlank then (first ++ second) :: rest else first :: second :: rest
  | found => found

/-- A text without the white space at its end. -/
def trimEnd (s : List Char) : List Char := (s.reverse.dropWhile Text.isBlank).reverse

/-- Lines that are being filled. -/
structure Filling where
  /-- The lines before, the latest first. -/
  before : List (List Char)
  line : List Char
  /-- The cells of the line that are taken. -/
  taken : Nat

/-- A new line, unless nothing stands before it. -/
def Filling.newLine (filling : Filling) : Filling :=
  if filling.before.isEmpty && filling.line.isEmpty then filling
  else ⟨filling.line :: filling.before, [], 0⟩

/-- A text put at the end of the line. -/
def Filling.put (filling : Filling) (text : List Char) : Filling :=
  { filling with line := filling.line ++ text, taken := filling.taken + cellCount text }

/-- A word in pieces of limited width. -/
def chop (width : Nat) (word : List Char) : List (List Char) :=
  let step (found : List (List Char) × Nat) (c : Char) : List (List Char) × Nat :=
    if found.2 + cellWidth c ≤ width then
      (match found.1 with
        | [] => [[c]]
        | piece :: pieces => (piece ++ [c]) :: pieces, found.2 + cellWidth c)
    else ([c] :: found.1, cellWidth c)
  (word.foldl step ([[]], 0)).1.reverse

/-- One more word in lines of limited width. -/
def Filling.addWord (width : Nat) (overflow : Overflow) (filling : Filling) (word : List Char) :
    Filling :=
  let cells := cellCount (trimEnd word)
  if filling.taken + cells ≤ width then filling.put word
  else if cells ≤ width then filling.newLine.put word
  else match overflow with
    | .ellipsis => filling.newLine.put word
    | .fold => (chop width word).foldl (fun filling piece => filling.newLine.put piece) filling

/-- A line broken into lines of limited width. -/
def breakLine (width : Nat) (overflow : Overflow) (s : List Char) : List (List Char) :=
  let filling := (lineWords s).foldl (Filling.addWord width overflow) ⟨[], [], 0⟩
  (filling.line :: filling.before).reverse

/-- A line without the white space at its end that makes it longer than the width. -/
def cropEnd (width : Nat) (s : List Char) : List Char :=
  let trailing := s.length - (trimEnd s).length
  s.take (s.length - min trailing (s.length - width))

/-- A line cut where it exceeds the width. -/
def cut (width : Nat) (overflow : Overflow) (s : List Char) : List Char :=
  if cellCount s ≤ width then s
  else match overflow with
    | .fold => takeCells width s
    | .ellipsis => takeCells (width - 1) s ++ ['…']

/-- A line in its place within the width. -/
def justify (width : Nat) (overflow : Overflow) (place : Justify) (s : List Char) : List Char :=
  match place with
  | .free => cut width overflow s
  | .left =>
    let s := cut width overflow s
    s ++ blank (width - cellCount s)
  | .center =>
    let s := cut width overflow (trimEnd s)
    let s := blank ((width - cellCount s) / 2) ++ s
    s ++ blank (width - cellCount s)

/-- A text in lines of limited width. -/
def wrap (width : Nat) (overflow : Overflow) (place : Justify) (s : List Char) : List (List Char) :=
  (Text.splitOn '\n' s).flatMap fun line =>
    (breakLine width overflow (expandTabs 0 line)).map fun line =>
      justify width overflow place (cropEnd width line)

/-- A line that is cut to fold fits. -/
theorem cellCount_cut_fold (width : Nat) (s : List Char) : cellCount (cut width .fold s) ≤ width := by
  by_cases h : cellCount s ≤ width
  · simp [cut, h]
  · simp [cut, h, cellCount_takeCells]

/-- Words hold all that the line holds. -/
theorem flatten_spacedWords (s : List Char) : (spacedWords s).flatten = s := by
  induction s with
  | nil => rfl
  | cons c rest ih =>
    rw [spacedWords, List.foldr_cons, ← spacedWords]
    split
    · next h =>
      rw [h, List.flatten_nil] at ih
      rw [← ih]
      rfl
    · next word words h =>
      rw [h, List.flatten_cons] at ih
      rw [← ih]
      split <;> simp

end Pagewright.Console
