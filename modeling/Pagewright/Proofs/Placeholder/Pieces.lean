import Mathlib.Data.List.TakeDrop
import Pagewright.Placeholder.Token
import Pagewright.Proofs.Text.Replacing

/-! Texts and their pieces. A text is its pieces written in a row, and pieces that leave the opening
brace to valid placeholders are read back from what they write. -/
namespace Pagewright.Placeholder

def Piece.text : Piece → List Char
  | .char c => [c]
  | .token t => t.text

def write (ps : List Piece) : List Char := ps.flatMap Piece.text

/-- What the grammar of placeholders asks of the two names. -/
structure Token.Valid (token : Token) : Prop where
  named : token.namespaceName.toList ≠ []
  lower : ∀ c ∈ token.namespaceName.toList, isNamespaceChar c = true
  fielded : token.field.toList ≠ []
  plain : ∀ c ∈ token.field.toList, isFieldChar c = true

/-- A valid placeholder, or a character other than the opening brace. -/
def Piece.Plain : Piece → Prop
  | .char c => c ≠ '\x7b'
  | .token t => t.Valid

@[simp] theorem write_nil : write [] = [] := rfl

@[simp] theorem write_cons (p : Piece) (ps : List Piece) : write (p :: ps) = p.text ++ write ps := by
  simp [write]

@[simp] theorem write_append (ps qs : List Piece) : write (ps ++ qs) = write ps ++ write qs := by
  simp [write]

theorem write_chars (s : List Char) : write (s.map .char) = s := by
  induction s with
  | nil => rfl
  | cons c s ih => simpa [Piece.text] using ih

theorem token_text (token : Token) : token.text = '\x7b' :: '\x7b' ::
    (token.namespaceName.toList ++ '.' :: (token.field.toList ++ ['\x7d','\x7d'])) := by
  have opening : "\x7b\x7b".toList = ['\x7b','\x7b'] := by decide
  have closing : "\x7d\x7d".toList = ['\x7d','\x7d'] := by decide
  simp [Token.text,opening,closing]

/-- A valid placeholder is found where its text stands. -/
theorem token?_text (token : Token) (rest : List Char) (valid : token.Valid) :
    token? (token.text ++ rest) = some (token,rest) := by
  have opened : Text.after? "\x7b\x7b".toList (token.text ++ rest) = some (token.namespaceName.toList ++
      '.' :: (token.field.toList ++ ("\x7d\x7d".toList ++ rest))) := by
    rw [Text.after?_eq_some_iff]
    simp [Token.text]
  have closed : Text.after? "\x7d\x7d".toList ("\x7d\x7d".toList ++ rest) = some rest :=
    Text.after?_eq_some_iff.mpr rfl
  have ending : "\x7d\x7d".toList ++ rest = '\x7d' :: '\x7d' :: rest := rfl
  have space := (Text.span_eq_iff isNamespaceChar _ token.namespaceName.toList
    (token.field.toList ++ ("\x7d\x7d".toList ++ rest)) '.').mpr ⟨valid.lower,by decide,rfl⟩
  have field := (Text.span_eq_iff isFieldChar _ token.field.toList ('\x7d' :: rest) '\x7d').mpr
    ⟨valid.plain,by decide,rfl⟩
  rw [← ending] at field
  have given : (token.namespaceName.toList.isEmpty || token.field.toList.isEmpty) = false := by
    rw [List.isEmpty_eq_false_iff.mpr valid.named,List.isEmpty_eq_false_iff.mpr valid.fielded]
    rfl
  simp only [token?,opened,bind,Option.bind,space,field,closed,given,String.ofList_toList]
  rfl

/-- What is found at the start of a text is valid and stands there. -/
theorem token?_some (s rest : List Char) (token : Token) (found : token? s = some (token,rest)) :
    token.Valid ∧ s = token.text ++ rest := by
  have opening : "\x7b\x7b".toList = ['\x7b','\x7b'] := by decide
  have closing : "\x7d\x7d".toList = ['\x7d','\x7d'] := by decide
  simp only [token?,bind,Option.bind_eq_some_iff,List.span_eq_takeWhile_dropWhile] at found
  obtain ⟨body,opened,found⟩ := found
  have start := Text.after?_eq_some_iff.mp opened
  split at found
  next afterSpace dot =>
    obtain ⟨tail,closed,found⟩ := Option.bind_eq_some_iff.mp found
    have finish := Text.after?_eq_some_iff.mp closed
    split at found
    next => cases found
    next filled =>
      obtain ⟨rfl,rfl⟩ := Prod.mk.inj (Option.some.inj found)
      have names : body.takeWhile isNamespaceChar ≠ [] ∧ afterSpace.takeWhile isFieldChar ≠ [] := by
        simpa [not_or] using filled
      have spaced : body.takeWhile isNamespaceChar ++ body.dropWhile isNamespaceChar = body :=
        List.takeWhile_append_dropWhile
      have fielded : afterSpace.takeWhile isFieldChar ++ afterSpace.dropWhile isFieldChar = afterSpace :=
        List.takeWhile_append_dropWhile
      rw [dot] at spaced
      rw [finish] at fielded
      refine ⟨⟨by simpa using names.1,?_,by simpa using names.2,?_⟩,?_⟩
      · rw [String.toList_ofList]
        exact List.all_eq_true.mp List.all_takeWhile
      · rw [String.toList_ofList]
        exact List.all_eq_true.mp List.all_takeWhile
      · conv_lhs => rw [start,← spaced,← fielded]
        simp [token_text,opening,closing]
  next => cases found

theorem token?_shorter (s rest : List Char) (token : Token) (found : token? s = some (token,rest)) :
    rest.length < s.length := by
  rw [(token?_some s rest token found).2,token_text]
  simp only [List.length_append,List.length_cons]
  omega

/-- Only an opening brace starts a placeholder. -/
theorem token?_other (c : Char) (s : List Char) (other : c ≠ '\x7b') : token? (c :: s) = none := by
  cases found : token? (c :: s) with
  | none => rfl
  | some pair =>
    have stands := (token?_some _ _ _ found).2
    rw [token_text] at stands
    exact absurd (List.cons.inj stands).1 other

/-- More steps than characters change nothing. -/
theorem piecesWithin_enough (s : List Char) (fuel : Nat) (enough : s.length ≤ fuel) :
    piecesWithin fuel s = pieces s := by
  have shortens : Text.Shortens fun s => (token? s).map Prod.snd := by
    intro c s rest found
    obtain ⟨⟨token,_⟩,here,rfl⟩ := Option.map_eq_some_iff.mp found
    exact Nat.le_of_lt_succ (token?_shorter _ _ token here)
  refine Text.pass_enough token? shortens _ (fun fuel more => ?_) (fun fuel more c s kept found => ?_) s fuel s.length
    enough (Nat.le_refl _)
  · cases fuel <;> cases more <;> rfl
  · rw [piecesWithin,piecesWithin]
    cases here : token? (c :: s) with
    | none => simp only [kept here]
    | some find => simp only [found find here]

@[simp] theorem pieces_nil : pieces [] = [] := rfl

theorem pieces_token (token : Token) (rest : List Char) (valid : token.Valid) :
    pieces (token.text ++ rest) = .token token :: pieces rest := by
  have found := token?_text token rest valid
  have shorter := token?_shorter _ _ _ found
  rw [token_text] at found shorter ⊢
  simp only [List.cons_append,List.length_cons] at shorter
  simp only [pieces,List.cons_append,List.length_cons,piecesWithin] at found ⊢
  rw [found]
  exact congrArg _ (piecesWithin_enough rest _ (by omega))

theorem pieces_char (c : Char) (s : List Char) (absent : token? (c :: s) = none) :
    pieces (c :: s) = .char c :: pieces s := by
  simp only [pieces,List.length_cons,piecesWithin,absent]

/-- Reading follows the text: a placeholder where one is found, else one character. -/
theorem pieces_induct {motive : List Char → Prop} (nil : motive [])
    (token : ∀ (t : Token) rest, t.Valid → motive rest → motive (t.text ++ rest))
    (char : ∀ c s, token? (c :: s) = none → motive s → motive (c :: s)) (s : List Char) : motive s := by
  induction size : s.length using Nat.strongRecOn generalizing s with
  | ind n ih =>
    cases s with
    | nil => exact nil
    | cons c s =>
      cases found : token? (c :: s) with
      | none => exact char c s found (ih s.length (by simp [← size]) s rfl)
      | some pair =>
        have shorter := token?_shorter _ _ _ found
        obtain ⟨valid,stands⟩ := token?_some _ _ _ found
        rw [stands]
        exact token _ _ valid (ih _ (by omega) _ rfl)

/-- Reading loses nothing. -/
theorem write_pieces (s : List Char) : write (pieces s) = s := by
  induction s using pieces_induct with
  | nil => rfl
  | token t rest valid ih => rw [pieces_token t rest valid,write_cons,ih,Piece.text]
  | char c s absent ih => rw [pieces_char c s absent,write_cons,ih,Piece.text,List.singleton_append]

theorem valid_of_mem_pieces (s : List Char) (t : Token) (member : .token t ∈ pieces s) : t.Valid := by
  induction s using pieces_induct with
  | nil => cases member
  | token t' rest valid ih =>
    rw [pieces_token t' rest valid] at member
    rcases List.mem_cons.mp member with same | later
    · cases same; exact valid
    · exact ih later
  | char c s absent ih =>
    rw [pieces_char c s absent] at member
    rcases List.mem_cons.mp member with same | later
    · cases same
    · exact ih later

/-- Plain pieces are read back from what they write. -/
theorem pieces_write (ps : List Piece) (plain : ∀ p ∈ ps, p.Plain) : pieces (write ps) = ps := by
  induction ps with
  | nil => rfl
  | cons p ps ih =>
    have rest := ih fun q member => plain q (List.mem_cons_of_mem p member)
    have first := plain p List.mem_cons_self
    cases p with
    | char c =>
      rw [write_cons,Piece.text,List.singleton_append,pieces_char c _ (token?_other c _ first),rest]
    | token t => rw [write_cons,Piece.text,pieces_token t _ first,rest]

theorem mem_find (text : String) (t : Token) : t ∈ find text ↔ .token t ∈ pieces text.toList := by
  have same : ∀ (n : Nat) (s : List Char),
      t ∈ Text.findsWithin token? n s ↔ .token t ∈ piecesWithin n s := by
    intro n
    induction n with
    | zero => intro s; simp [Text.findsWithin,piecesWithin]
    | succ n ih =>
      intro s
      cases s with
      | nil => simp [Text.findsWithin,piecesWithin]
      | cons c s => cases found : token? (c :: s) <;> simp [Text.findsWithin,piecesWithin,found,ih]
  exact same _ _

end Pagewright.Placeholder
