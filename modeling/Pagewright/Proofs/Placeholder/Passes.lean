import Pagewright.Placeholder.Resolve
import Pagewright.Proofs.Except
import Pagewright.Proofs.Placeholder.Pieces

/-! Passes over a text compared with replacing all placeholders at once. The two agree where opening
braces stand in placeholders only, in the text and in what replaces them; then no pass can find a
placeholder that the text does not hold, and the order of the passes does not matter. -/
namespace Pagewright.Placeholder
open Fields (FieldSource)

section Settling

variable (values : Token → Option (List Char))

/-- A piece after the passes of some namespaces: the value in its place, or the piece itself. -/
def settle (done : List String) : Piece → List Piece
  | .char c => [.char c]
  | .token t =>
    if t.namespaceName ∈ done then
      match values t with
      | some value => value.map .char
      | none => [.token t]
    else [.token t]

/-- Values leave no opening brace behind. -/
def Inert (ps : List Piece) : Prop :=
  ∀ t, .token t ∈ ps → ∀ value, values t = some value → '\x7b' ∉ value

theorem settle_nil (p : Piece) : settle values [] p = [p] := by cases p <;> simp [settle]

/-- Before the first pass stands the text itself. -/
theorem write_unsettled (s : List Char) : write ((pieces s).flatMap (settle values [])) = s := by
  rw [funext (settle_nil values),List.flatMap_singleton',write_pieces]

/-- Settling makes no new placeholder. -/
theorem token_of_mem_settle (done : List String) (p : Piece) (t : Token)
    (member : .token t ∈ settle values done p) :
    p = .token t ∧ (t.namespaceName ∈ done → values t = none) := by
  cases p with
  | char c => simp [settle] at member
  | token t' =>
    simp only [settle] at member
    split at member
    next inside =>
      cases found : values t' with
      | some value => simp [found] at member
      | none =>
        obtain rfl : t = t' := by simpa [found] using member
        exact ⟨rfl,fun _ => found⟩
    next outside =>
      obtain rfl : t = t' := by simpa using member
      exact ⟨rfl,fun inside => absurd inside outside⟩

theorem settle_plain (done : List String) (ps : List Piece) (plain : ∀ p ∈ ps, p.Plain)
    (inert : Inert values ps) : ∀ q ∈ ps.flatMap (settle values done), q.Plain := by
  intro q member
  obtain ⟨p,present,made⟩ := List.mem_flatMap.mp member
  cases q with
  | token t =>
    obtain ⟨rfl,_⟩ := token_of_mem_settle values done p t made
    exact plain _ present
  | char c =>
    cases p with
    | char c' =>
      obtain rfl : c = c' := by simpa [settle] using made
      exact plain _ present
    | token t =>
      simp only [settle] at made
      split at made
      · cases found : values t with
        | none => simp [found] at made
        | some value =>
          rintro rfl
          exact inert t present value found (by simpa [found] using made)
      · simp at made

theorem settle_settle (done : List String) (space : String) (p : Piece) :
    (settle values done p).flatMap (settle values [space]) = settle values (done ++ [space]) p := by
  cases p with
  | char c => simp [settle]
  | token t =>
    by_cases inside : t.namespaceName ∈ done
    · cases found : values t with
      | none => simp [settle,inside,found]
      | some value => simp [settle,inside,found,List.flatMap_map,← List.map_eq_flatMap]
    · simp [settle,inside]

theorem settle_tokens (done : List String) (ps : List Piece) (t : Token)
    (member : .token t ∈ ps.flatMap (settle values done)) :
    .token t ∈ ps ∧ (t.namespaceName ∈ done → values t = none) := by
  obtain ⟨p,present,made⟩ := List.mem_flatMap.mp member
  obtain ⟨rfl,kept⟩ := token_of_mem_settle values done p t made
  exact ⟨present,kept⟩

end Settling

section Runs

variable (values : Token → Option (List Char)) (look : Token → Except Failure (Option String))

/-- A look-up that gives these values wherever it answers, for the placeholders of some pieces. -/
def Answers (order : List String) (ps : List Piece) : Prop :=
  ∀ t, .token t ∈ ps → t.namespaceName ∈ order → ∀ found, look t = .ok found →
    found.map String.toList = values t

theorem expand_success (space : String) (p : Piece) (s : List Char)
    (answers : Answers values look [space] [p]) (ok : expand look space p = .ok s) :
    s = write (settle values [space] p) := by
  cases p with
  | char c => exact (Except.ok.inj ok).symm
  | token t =>
    simp only [expand,beq_iff_eq] at ok
    split at ok
    next same =>
      obtain ⟨found,looked,ok⟩ := except_bind_success _ _ _ ok
      have value := answers t List.mem_cons_self (by simp [same]) found looked
      cases found with
      | none =>
        have stays : values t = none := value.symm
        simpa [settle,same,stays,Piece.text] using (Except.ok.inj ok).symm
      | some replacement =>
        have replaced : values t = some replacement.toList := value.symm
        simpa [settle,same,replaced,write_chars] using (Except.ok.inj ok).symm
    next other => simpa [settle,other,Piece.text] using (Except.ok.inj ok).symm

theorem expand_all_success (space : String) (ps : List Piece) (pass : List (List Char))
    (answers : Answers values look [space] ps) (ok : ps.mapM (expand look space) = .ok pass) :
    pass.flatten = write (ps.flatMap (settle values [space])) := by
  induction ps generalizing pass with
  | nil => cases ok; rfl
  | cons p ps ih =>
    obtain ⟨first,rest,head,tail,rfl⟩ := except_mapM_cons_success _ _ _ _ ok
    have one := expand_success values look space p first
      (fun t member => answers t (List.mem_cons.mpr (Or.inl (List.mem_singleton.mp member)))) head
    have more := ih rest (fun t member => answers t (List.mem_cons_of_mem p member)) tail
    rw [List.flatten_cons,List.flatMap_cons,write_append,one,more]

/-- A pass that goes through settles its namespace and nothing else. -/
theorem resolveNamespace_success (space : String) (ps : List Piece) (result : List Char)
    (plain : ∀ p ∈ ps, p.Plain) (answers : Answers values look [space] ps)
    (ok : resolveNamespace look (write ps) space = .ok result) :
    result = write (ps.flatMap (settle values [space])) := by
  simp only [resolveNamespace,pieces_write ps plain] at ok
  obtain ⟨pass,expanded,ok⟩ := except_bind_success _ _ _ ok
  rw [← expand_all_success values look space ps pass answers expanded]
  exact (Except.ok.inj ok).symm

/-- The texts between the passes: what is done is settled, the rest stands as it was. -/
theorem passes_success (order done : List String) (ps : List Piece) (result : List Char)
    (plain : ∀ p ∈ ps, p.Plain) (inert : Inert values ps) (answers : Answers values look order ps)
    (ok : order.foldlM (resolveNamespace look) (write (ps.flatMap (settle values done))) = .ok result) :
    result = write (ps.flatMap (settle values (done ++ order))) := by
  induction order generalizing done with
  | nil => rw [List.append_nil]; exact (Except.ok.inj ok).symm
  | cons space order ih =>
    rw [List.foldlM_cons] at ok
    obtain ⟨next,first,ok⟩ := except_bind_success _ _ _ ok
    have one := resolveNamespace_success values look space _ next
      (settle_plain values done ps plain inert)
      (fun t member inside => answers t (settle_tokens values done ps t member).1
        (by simp [List.mem_singleton.mp inside])) first
    rw [List.flatMap_assoc] at one
    simp only [settle_settle] at one
    subst one
    have rest := ih (done ++ [space]) (fun t member inside => answers t member
      (List.mem_cons_of_mem space inside)) ok
    rw [rest,List.append_assoc,List.singleton_append]

theorem passes_total (order done : List String) (ps : List Piece) (plain : ∀ p ∈ ps, p.Plain)
    (inert : Inert values ps) (answers : Answers values look order ps)
    (total : ∀ t, .token t ∈ ps → t.namespaceName ∈ order → ∃ found, look t = .ok found) :
    ∃ result, order.foldlM (resolveNamespace look) (write (ps.flatMap (settle values done))) =
      .ok result := by
  induction order generalizing done with
  | nil => exact ⟨_,rfl⟩
  | cons space order ih =>
    have settledPlain := settle_plain values done ps plain inert
    have expands : ∀ p ∈ ps.flatMap (settle values done), ∃ s, expand look space p = .ok s := by
      intro p member
      cases p with
      | char c => exact ⟨[c],rfl⟩
      | token t =>
        simp only [expand,beq_iff_eq]
        split
        next same =>
          obtain ⟨found,looked⟩ := total t (settle_tokens values done ps t member).1 (by simp [same])
          rw [looked]
          cases found <;> exact ⟨_,rfl⟩
        next => exact ⟨_,rfl⟩
    obtain ⟨pass,expanded⟩ := except_mapM_total _ _ expands
    have first : resolveNamespace look (write (ps.flatMap (settle values done))) space =
        .ok pass.flatten := by
      simp only [resolveNamespace,pieces_write _ settledPlain,expanded]
      rfl
    have one := resolveNamespace_success values look space _ _ settledPlain
      (fun t member inside => answers t (settle_tokens values done ps t member).1
        (by simp [List.mem_singleton.mp inside])) first
    rw [List.flatMap_assoc] at one
    simp only [settle_settle] at one
    obtain ⟨result,rest⟩ := ih (done ++ [space])
      (fun t member inside => answers t member (List.mem_cons_of_mem space inside))
      (fun t member inside => total t member (List.mem_cons_of_mem space inside))
    refine ⟨result,?_⟩
    rw [List.foldlM_cons,first,one]
    exact rest

end Runs

end Pagewright.Placeholder
