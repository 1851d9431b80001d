import Pagewright.Proofs.Files.Progress

/-! Removing and asking again: what a removal took away is not found any more, and what was missing stays
missing. -/
namespace Pagewright.FileTree

/-- A later tree in which nothing stands that did not stand before. -/
structure Thinned (t t' : FileTree) : Prop where
  current : t'.current = t.current
  stands : ∀ place entry, t'.find? place = some entry → t.find? place = some entry

variable (t t' : FileTree)

theorem thinned_refl : Thinned t t := ⟨rfl,fun _ _ => id⟩

theorem thinned_removeWhere (condition : Place → Bool) : Thinned t (t.removeWhere condition) := by
  refine ⟨rfl,fun place entry found => ?_⟩
  rw [find?_removeWhere] at found
  split at found
  · cases found
  · exact found

theorem thinned_removeTree (p : Path) : Thinned t (t.removeTree p) := by
  unfold removeTree
  split
  · exact thinned_refl t
  · split
    · split <;> exact thinned_removeWhere t _
    · exact thinned_refl t

/-- Resolving in a thinned tree ends as before, or where something is missing now. -/
theorem resolve_thinned (thinned : Thinned t t') (here : Place) (parts : List String) :
    t'.resolve here parts = t.resolve here parts ∨ t'.resolve here parts = .error .notFound := by
  induction parts generalizing here with
  | nil => exact .inl rfl
  | cons part rest ih =>
    unfold resolve
    cases found : t'.find? here with
    | none => exact .inr rfl
    | some entry =>
      rw [thinned.stands here entry found]
      cases entry with
      | file content => exact .inl rfl
      | directory =>
        dsimp only
        split
        · exact .inl rfl
        · split
          · exact ih _
          · exact ih _

theorem locate_thinned (thinned : Thinned t t') (p : Path) :
    t'.locate p = t.locate p ∨ t'.locate p = .error (.file .notFound p.text) := by
  unfold locate
  split
  · exact .inl rfl
  · rw [thinned.current]
    rcases resolve_thinned t t' thinned (if p.isAbsolute then [] else t.current) p.parts with same | lost
    · exact .inl (by rw [same])
    · exact .inr (by rw [lost]; rfl)

theorem isFile_lost (p : Path) (missing : t.locate p = .error (.file .notFound p.text)) :
    t.isFile p = .ok false := by
  unfold isFile look
  rw [missing]
  rfl

theorem isFile_located (p : Path) (place : Place) (located : t.locate p = .ok place) :
    t.isFile p = .ok ((t.find? place).any Entry.isFile) := by
  unfold isFile look
  rw [located]
  rfl

theorem isFile_thinned (thinned : Thinned t t') (p : Path) (absent : t.isFile p = .ok false) :
    t'.isFile p = .ok false := by
  rcases locate_thinned t t' thinned p with same | lost
  · cases located : t.locate p with
    | ok place =>
      rw [isFile_located t' p place (same.trans located)]
      rw [isFile_located t p place located] at absent
      cases found : t'.find? place with
      | none => rfl
      | some entry =>
        rw [thinned.stands place entry found] at absent
        exact absent
    | error fault =>
      have looked : t'.look p = t.look p := by
        unfold look
        rw [same,located]
        cases fault with
        | file refusal path => cases refusal <;> rfl
        | _ => rfl
      unfold isFile at absent ⊢
      rw [looked]
      exact absent
  · exact isFile_lost t' p lost

/-- A file that was removed is no longer there. -/
theorem unlink_gone (p : Path) (ok : t.unlink p = .ok t') : t'.isFile p = .ok false := by
  unfold unlink at ok
  split at ok
  next path missing =>
    cases ok
    unfold isFile look
    rw [missing]
    rfl
  next => cases ok
  next place located =>
    split at ok
    next absent =>
      cases ok
      rw [isFile_located t p place located,absent]
      rfl
    next => cases ok
    next content standing =>
      cases ok
      rcases locate_thinned t _ (thinned_removeWhere t (· == place)) p with same | lost
      · rw [isFile_located _ p place (same.trans located),find?_removeWhere]
        have proper : place ≠ [] := by
          rintro rfl
          cases standing
        simp [proper]
      · exact isFile_lost _ p lost

/-- No file is found in a directory that was removed. -/
theorem read_removed (p : Path) (name : String) (content : Content) (proper : name ≠ "..") :
    (t.removeTree p).read (p.child name) ≠ .ok content := by
  intro ok
  have thinned := thinned_removeTree t p
  have place : destination t.current (p.child name) = destination t.current p ++ [name] :=
    (destination_append _ p [name]).trans (enter_name _ _ proper)
  have located := read_located _ _ _ ok
  have standing := read_stands _ _ _ ok
  rw [thinned.current,place] at located standing
  have leads : t.LeadsToDirectory p := by
    refine leads_above t p name (destination t.current p ++ [name]) ?_
    rcases locate_thinned t _ thinned (p.child name) with same | lost
    · exact same.symm.trans located
    · cases lost.symm.trans located
  unfold removeTree at standing
  rw [leads.1] at standing
  dsimp only at standing
  rw [leads.2] at standing
  dsimp only at standing
  have inside : isBelow (destination t.current p) (destination t.current p ++ [name]) = true :=
    isBelow_append _ _ (by simp)
  split at standing
  · rw [find?_removeWhere,if_pos ⟨by simp,inside⟩] at standing
    cases standing
  · rw [find?_removeWhere,if_pos ⟨by simp,List.isPrefixOf_iff_prefix.mpr (List.prefix_append _ _)⟩] at standing
    cases standing

end Pagewright.FileTree
