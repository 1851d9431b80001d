import Pagewright.Proofs.Files.Progress

/-! What stays where it is. An operation touches the ground below its path at most; what stands elsewhere
stands afterwards, and a path that does not lead through the ground still leads where it did. -/
namespace Pagewright.FileTree

/-- A later tree in which everything outside of a ground still stands. -/
structure Spares (ground : Place → Prop) (t t' : FileTree) : Prop where
  current : t'.current = t.current
  stands : ∀ place entry, ¬ ground place → t.find? place = some entry → t'.find? place = some entry

section Composition

variable {ground : Place → Prop}

theorem Spares.refl (t : FileTree) : Spares ground t t := ⟨rfl,fun _ _ _ => id⟩

theorem Spares.trans {first second third : FileTree} (one : Spares ground first second)
    (two : Spares ground second third) : Spares ground first third :=
  ⟨two.current.trans one.current,fun place entry off stands => two.stands place entry off (one.stands place entry off stands)⟩

theorem Spares.weaken {ground' : Place → Prop} {t t' : FileTree} (spares : Spares ground t t')
    (wider : ∀ place, ground place → ground' place) : Spares ground' t t' :=
  ⟨spares.current,fun place entry off => spares.stands place entry fun inside => off (wider place inside)⟩

end Composition

section Operations

variable (t t' : FileTree)

theorem spares_put (place : Place) (entry : Entry) (proper : place ≠ []) :
    Spares (· = place) t (t.put place entry) := by
  refine ⟨rfl,fun other old off stands => ?_⟩
  rw [find?_put t place other entry proper,if_neg off]
  exact stands

theorem write_spares (p : Path) (content : Content) (ok : t.write p content = .ok t') :
    Spares (· = destination t.current p) t t' := by
  obtain ⟨_,noDirectory,rfl⟩ := write_success t t' p content ok
  refine spares_put t _ _ ?_
  intro root
  rw [root] at noDirectory
  exact noDirectory rfl

/-- What comes up at a free place is in the way of nothing. -/
theorem spares_put_free (place : Place) (entry : Entry) (free : t.find? place = none) :
    Spares nowhere t (t.put place entry) := by
  refine ⟨rfl,fun other old _ stands => ?_⟩
  rw [find?_put_of_ne]
  · exact stands
  · rintro rfl
    cases free.symm.trans stands

theorem makeDirectory_spares (p : Path) (ok : t.makeDirectory p = .ok t') : Spares nowhere t t' := by
  obtain ⟨_,free,_,rfl⟩ := makeDirectory_success t t' p ok
  exact spares_put_free t _ _ free

/-- What making a directory keeps, making all that are missing above it keeps as well. -/
theorem makeDirectoriesWithin_keeps (property : FileTree → Prop)
    (step : ∀ t t' p, t.makeDirectory p = .ok t' → property t → property t') (fuel : Nat) (p : Path)
    (ok : makeDirectoriesWithin fuel t p = .ok t') (before : property t) : property t' := by
  induction fuel generalizing p t' with
  | zero => cases ok
  | succ fuel ih =>
    have standing (t : FileTree) (fault : Fault)
        (ok : (do if ← t.isDirectory p then return t else throw fault) = Except.ok t') (before : property t) :
        property t' := by
      obtain ⟨stands,_,ok⟩ := except_bind_success _ _ _ ok
      cases stands with
      | false => cases ok
      | true => cases ok; exact before
    simp only [makeDirectoriesWithin] at ok
    split at ok
    next made => cases ok; exact step t t' p made before
    · split at ok
      · cases ok
      · obtain ⟨middle,above,ok⟩ := except_bind_success _ _ _ ok
        have reached := ih middle p.parent above
        split at ok
        next made => cases ok; exact step middle t' p made reached
        · exact standing middle _ ok reached
    · exact standing t _ ok before

theorem makeDirectories_spares (p : Path) (ok : t.makeDirectories p = .ok t') : Spares nowhere t t' :=
  makeDirectoriesWithin_keeps t t' (Spares nowhere t)
    (fun middle made p ok before => before.trans (makeDirectory_spares middle made p ok)) _ p ok (.refl t)

theorem removeWhere_spares (condition : Place → Bool) :
    Spares (condition · = true) t (t.removeWhere condition) := by
  refine ⟨rfl,fun place entry off stands => ?_⟩
  rw [find?_removeWhere,if_neg fun gone => off gone.2]
  exact stands

theorem removeTree_spares (p : Path) : Spares (destination t.current p <+: ·) t (t.removeTree p) := by
  unfold removeTree
  split
  · exact .refl t
  next place located =>
    rw [← (locate_place t p place located).1]
    split
    · split
      · refine (removeWhere_spares t _).weaken fun other below => ?_
        obtain ⟨name,rest,rfl⟩ := (isBelow_iff _ _).mp below
        exact List.prefix_append _ _
      · exact (removeWhere_spares t _).weaken fun other inside => List.isPrefixOf_iff_prefix.mp inside
    · exact .refl t

theorem unlink_spares (p : Path) (ok : t.unlink p = .ok t') : Spares (· = destination t.current p) t t' := by
  unfold unlink at ok
  split at ok
  · cases ok
    exact .refl t
  · cases ok
  next place located =>
    rw [← (locate_place t p place located).1]
    split at ok
    · cases ok
      exact .refl t
    · cases ok
    · cases ok
      exact (removeWhere_spares t _).weaken fun other same => beq_iff_eq.mp same

/-- Components lead where they did if the directories that they pass still stand. -/
theorem resolve_passing (here : Place) (parts : List String) (place : Place)
    (passed : ∀ start, start <+: parts → t.find? (start.foldl enter here) = some .directory →
      t'.find? (start.foldl enter here) = some .directory)
    (ok : t.resolve here parts = .ok place) : t'.resolve here parts = .ok place := by
  induction parts generalizing here with
  | nil => exact ok
  | cons part rest ih =>
    obtain ⟨standing,fits,further⟩ := resolve_cons_success t here part rest place ok
    have later := ih (enter here part) (fun start inside => passed (part :: start) (List.cons_prefix_cons.mpr ⟨rfl,inside⟩))
      further
    have short : ¬ maxName < part.utf8ByteSize := Nat.not_lt.mpr fits
    unfold enter at later
    unfold resolve
    have here' : t'.find? here = some .directory := passed [] List.nil_prefix standing
    rw [here']
    dsimp only
    rw [if_neg short]
    split at later
    next dots => rw [if_pos dots]; exact later
    next name => rw [if_neg name]; exact later

/-- A path that leads to a directory leads through directories. -/
theorem onPath_stands (p : Path) (leads : t.LeadsToDirectory p) (place : Place) (onPath : OnPath t.current p place) :
    t.find? place = some .directory := by
  obtain ⟨start,⟨rest,whole⟩,rfl⟩ := onPath
  cases rest with
  | nil =>
    rw [List.append_nil] at whole
    exact whole ▸ leads.2
  | cons part more =>
    refine locate_through t p.slashes start part more (destination t.current p) ?_
    rw [whole]
    exact leads.1

/-- A directory that a path leads to is gone with all that was in it, once it is removed. -/
theorem removeTree_leads (p : Path) (leads : t.LeadsToDirectory p) (name : p.name ≠ "..")
    (proper : destination t.current p ≠ []) (place : Place) (inside : destination t.current p <+: place) :
    (t.removeTree p).find? place = none := by
  have nonempty : place ≠ [] := fun root => proper (List.prefix_nil.mp (root ▸ inside))
  unfold removeTree
  rw [leads.1]
  dsimp only
  rw [leads.2]
  dsimp only
  rw [if_neg (by simpa using name),find?_removeWhere,if_pos ⟨nonempty,List.isPrefixOf_iff_prefix.mpr inside⟩]

variable {ground : Place → Prop} (spares : Spares ground t t')
include spares

theorem locate_spared (p : Path) (place : Place) (off : ∀ other, OnPath t.current p other → ¬ ground other)
    (ok : t.locate p = .ok place) : t'.locate p = .ok place := by
  have resolved := locate_success t p place ok
  unfold locate at ok ⊢
  split at ok
  · cases ok
  next clean =>
    rw [if_neg clean,spares.current,
      resolve_passing t t' _ _ place (fun start inside => spares.stands _ _ (off _ ⟨start,inside,rfl⟩)) resolved]
    rfl

theorem leads_spared (p : Path) (off : ∀ other, OnPath t.current p other → ¬ ground other)
    (leads : t.LeadsToDirectory p) : t'.LeadsToDirectory p := by
  refine ⟨?_,?_⟩
  · rw [spares.current]
    exact locate_spared t t' spares p _ off leads.1
  · rw [spares.current]
    exact spares.stands _ _ (off _ (onPath_self _ p)) leads.2

end Operations

end Pagewright.FileTree
