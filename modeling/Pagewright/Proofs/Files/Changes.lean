import Pagewright.Proofs.Files.Places

/-! What an operation on files changes: where files come up, where directories come up and where files
are lost. Everything else stands as before. -/
namespace Pagewright.FileTree

def nowhere : Place → Prop := fun _ => False

/-- A later tree whose files and directories differ from an earlier one at places of these kinds only. -/
structure Changes (written made lost : Place → Prop) (t t' : FileTree) : Prop where
  current : t'.current = t.current
  wellFormed : t.WellFormed → t'.WellFormed
  files : ∀ place content, t'.find? place = some (.file content) →
    t.find? place = some (.file content) ∨ written place
  directories : ∀ place, t'.find? place = some .directory →
    t.find? place = some .directory ∨ made place
  kept : ∀ place content, t.find? place = some (.file content) →
    t'.find? place = some (.file content) ∨ written place ∨ lost place

section Composition

variable {written made lost : Place → Prop}

theorem Changes.refl (t : FileTree) : Changes written made lost t t where
  current := rfl
  wellFormed := id
  files _ _ := Or.inl
  directories _ := Or.inl
  kept _ _ := Or.inl

theorem Changes.trans {first second third : FileTree} (one : Changes written made lost first second)
    (two : Changes written made lost second third) : Changes written made lost first third where
  current := two.current.trans one.current
  wellFormed tree := two.wellFormed (one.wellFormed tree)
  files place content found := by
    rcases two.files place content found with before | new
    · exact one.files place content before
    · exact Or.inr new
  directories place found := by
    rcases two.directories place found with before | new
    · exact one.directories place before
    · exact Or.inr new
  kept place content found := by
    rcases one.kept place content found with after | gone
    · exact two.kept place content after
    · exact Or.inr gone

theorem Changes.weaken {written' made' lost' : Place → Prop} {t t' : FileTree}
    (changes : Changes written made lost t t') (writing : ∀ place, written place → written' place)
    (making : ∀ place, made place → made' place) (losing : ∀ place, lost place → lost' place) :
    Changes written' made' lost' t t' where
  current := changes.current
  wellFormed := changes.wellFormed
  files place content found := (changes.files place content found).imp_right (writing place)
  directories place found := (changes.directories place found).imp_right (making place)
  kept place content found :=
    (changes.kept place content found).imp_right (Or.imp (writing place) (losing place))

structure WellFormedAt (current : Place) (t : FileTree) : Prop where
  current : t.current = current
  wellFormed : t.WellFormed

theorem Changes.wellFormedAt {current : Place} {t t' : FileTree} (changes : Changes written made lost t t')
    (before : t.WellFormedAt current) : t'.WellFormedAt current :=
  ⟨changes.current.trans before.current,changes.wellFormed before.wellFormed⟩

end Composition

def contentAt? (t : FileTree) (place : Place) : Option Content :=
  match t.find? place with
  | some (.file content) => some content
  | _ => none

theorem contentAt?_eq_some (t : FileTree) (place : Place) (content : Content) :
    t.contentAt? place = some content ↔ t.find? place = some (.file content) := by
  unfold contentAt?
  split
  next stands => rw [stands]; simp
  next other =>
    constructor
    · intro none
      cases none
    · exact fun stands => absurd stands (other content)

theorem contentAt?_kept {written made lost : Place → Prop} {t t' : FileTree}
    (changes : Changes written made lost t t') (place : Place) (unwritten : ¬ written place)
    (unlost : ¬ lost place) : t'.contentAt? place = t.contentAt? place := by
  apply Option.ext
  intro content
  rw [contentAt?_eq_some,contentAt?_eq_some]
  constructor
  · exact fun stands => (changes.files place content stands).resolve_right unwritten
  · intro stands
    rcases changes.kept place content stands with after | write | loss
    · exact after
    · exact absurd write unwritten
    · exact absurd loss unlost

/-- Nothing stands at a place with a name that is too long. -/
theorem contentAt?_long (t : FileTree) (wellFormed : t.WellFormed) (place : Place) (name : String)
    (member : name ∈ place) (long : maxName < name.utf8ByteSize) : t.contentAt? place = none := by
  obtain ⟨above,rest,rfl⟩ := List.append_of_mem member
  cases stands : t.contentAt? (above ++ name :: rest) with
  | none => rfl
  | some content =>
    have short := (stands_in t wellFormed above name rest _
      ((contentAt?_eq_some _ _ _).mp stands)).2
    exact absurd long (Nat.not_lt.mpr short)

section Operations

variable (t t' : FileTree)

theorem dropLast_stands (wellFormed : t.WellFormed) (place : Place)
    (standing : t.find? place = some .directory) : t.find? place.dropLast = some .directory := by
  cases place using List.reverseRecOn with
  | nil => rfl
  | append_singleton here name =>
    rw [List.dropLast_concat]
    exact (wellFormed here name _ standing).1

/-- Where a new entry can come up: in a directory. -/
theorem locate_fresh (wellFormed : t.WellFormed) (p : Path) (place : Place) (proper : p.parts ≠ [])
    (found : t.locate p = .ok place) (noDirectory : t.find? place ≠ some .directory) :
    ∃ here name, place = here ++ [name] ∧ t.find? here = some .directory ∧
      Fits name := by
  obtain ⟨slashes,parts⟩ := p
  cases parts using List.reverseRecOn with
  | nil => exact absurd rfl proper
  | append_singleton parts last =>
    have standing := locate_through t slashes parts last [] place found
    obtain ⟨same,short⟩ := locate_place t _ place found
    rw [destination_append _ ⟨slashes,parts⟩] at same
    by_cases dots : last = ".."
    · rw [same,dots] at noDirectory
      exact absurd (dropLast_stands t wellFormed _ standing) noDirectory
    · exact ⟨_,last,same.trans (enter_name _ _ dots),standing,short last (by simp)⟩

theorem wellFormed_put_located (p : Path) (place : Place) (entry : Entry) (proper : p.parts ≠ [])
    (found : t.locate p = .ok place) (noDirectory : t.find? place ≠ some .directory) (wellFormed : t.WellFormed) :
    (t.put place entry).WellFormed := by
  obtain ⟨here,name,rfl,standing,short⟩ := locate_fresh t wellFormed p place proper found noDirectory
  exact wellFormed_put t wellFormed here name _ standing short fun directory => absurd directory noDirectory

theorem changes_put_file (p : Path) (place : Place) (content : Content) (proper : p.parts ≠ [])
    (found : t.locate p = .ok place) (noDirectory : t.find? place ≠ some .directory) :
    Changes (· = place) nowhere nowhere t (t.put place (.file content)) := by
  have nonempty : place ≠ [] := by rintro rfl; exact noDirectory rfl
  constructor
  case current => rfl
  case wellFormed => exact wellFormed_put_located t p place _ proper found noDirectory
  case files =>
    intro other old stands
    rw [find?_put t place other _ nonempty] at stands
    split at stands
    next same => exact Or.inr same
    next => exact Or.inl stands
  case directories =>
    intro other stands
    rw [find?_put t place other _ nonempty] at stands
    split at stands
    · cases stands
    · exact Or.inl stands
  case kept =>
    intro other old stands
    rw [find?_put t place other _ nonempty]
    split
    next same => exact Or.inr (Or.inl same)
    next => exact Or.inl stands

theorem write_success (p : Path) (content : Content) (ok : t.write p content = .ok t') :
    t.locate p = .ok (destination t.current p) ∧
      t.find? (destination t.current p) ≠ some .directory ∧
      t' = t.put (destination t.current p) (.file content) := by
  obtain ⟨place,found,ok⟩ := except_bind_success _ _ _ ok
  obtain ⟨same,_⟩ := locate_place t p place found
  rw [← same]
  split at ok
  · cases ok
  next noDirectory => exact ⟨found,noDirectory,(Except.ok.inj ok).symm⟩

theorem write_changes (p : Path) (content : Content) (proper : p.parts ≠ [])
    (ok : t.write p content = .ok t') :
    Changes (· = destination t.current p) nowhere nowhere t t' := by
  obtain ⟨found,noDirectory,rfl⟩ := write_success t t' p content ok
  exact changes_put_file t p _ content proper found noDirectory

theorem copy_success (source target : Path) (ok : t.copy source target = .ok t') :
    ∃ content, t.read source = .ok content ∧ t.write target content = .ok t' :=
  except_bind_success _ _ _ ok

theorem makeDirectory_success (p : Path) (ok : t.makeDirectory p = .ok t') :
    t.locate p = .ok (destination t.current p) ∧ t.find? (destination t.current p) = none ∧
      p.parts ≠ [] ∧ t' = t.put (destination t.current p) .directory := by
  obtain ⟨place,found,ok⟩ := except_bind_success _ _ _ ok
  obtain ⟨same,_⟩ := locate_place t p place found
  rw [← same]
  split at ok
  · cases ok
  next free =>
    split at ok
    · cases ok
    next proper =>
      exact ⟨found,free,fun none => proper (by simp [none]),(Except.ok.inj ok).symm⟩

theorem makeDirectory_changes (p : Path) (ok : t.makeDirectory p = .ok t') :
    Changes nowhere (· = destination t.current p) nowhere t t' := by
  obtain ⟨found,free,proper,rfl⟩ := makeDirectory_success t t' p ok
  have noDirectory : t.find? (destination t.current p) ≠ some .directory := by simp [free]
  have nonempty : destination t.current p ≠ [] := by
    intro root
    rw [root] at free
    cases free
  generalize destination t.current p = place at *
  constructor
  case current => rfl
  case wellFormed => exact wellFormed_put_located t p place _ proper found noDirectory
  case files =>
    intro other content stands
    rw [find?_put t place other _ nonempty] at stands
    split at stands
    · cases stands
    · exact Or.inl stands
  case directories =>
    intro other stands
    rw [find?_put t place other _ nonempty] at stands
    split at stands
    next same => exact Or.inr same
    next => exact Or.inl stands
  case kept =>
    intro other content stands
    left
    rw [find?_put t place other _ nonempty,if_neg,stands]
    rintro rfl
    rw [free] at stands
    cases stands

theorem isDirectory_success (p : Path) (ok : t.isDirectory p = .ok true) : t.LeadsToDirectory p := by
  obtain ⟨standing,looked,ok⟩ := except_bind_success _ _ _ ok
  have directory : standing = some .directory := by
    rcases standing with _ | _ | _
    · cases ok
    · rfl
    · cases ok
  subst directory
  unfold look at looked
  split at looked
  next place found =>
    obtain ⟨same,_⟩ := locate_place t p place found
    rw [same] at found looked
    exact ⟨found,Except.ok.inj looked⟩
  · cases looked
  · cases looked

theorem resolve_more (more : ∀ place, t.find? place = some .directory → t'.find? place = some .directory)
    (here : Place) (parts : List String) (place : Place) (ok : t.resolve here parts = .ok place) :
    t'.resolve here parts = .ok place := by
  induction parts generalizing here with
  | nil => exact ok
  | cons part rest ih =>
    obtain ⟨standing,short,ok⟩ := resolve_cons_success t here part rest place ok
    have next := ih _ ok
    rw [resolve,more here standing]
    simp only [Nat.not_lt.mpr short,if_false]
    unfold enter at next
    split at next <;> simp_all

theorem locate_later (more : ∀ place, t.find? place = some .directory → t'.find? place = some .directory)
    (current : t'.current = t.current) (p : Path) (place : Place) (ok : t.locate p = .ok place) :
    t'.locate p = .ok place := by
  have resolved := locate_success t p place ok
  unfold locate at ok ⊢
  split at ok
  · cases ok
  next clean => rw [if_neg clean,current,resolve_more t t' more _ _ _ resolved]; rfl

/-- A path still leads where it led once something is put in no directory's place. -/
theorem locate_put (p : Path) (place free : Place) (entry : Entry) (nonempty : free ≠ [])
    (noDirectory : t.find? free ≠ some .directory) (ok : t.locate p = .ok place) :
    (t.put free entry).locate p = .ok place := by
  refine locate_later t (t.put free entry) ?_ rfl p place ok
  intro other stands
  rw [find?_put_of_ne]
  · exact stands
  · rintro rfl
    exact noDirectory stands

theorem leads_put (p : Path) (free : Place) (entry : Entry) (nonempty : free ≠ [])
    (noDirectory : t.find? free ≠ some .directory) (leads : t.LeadsToDirectory p) :
    (t.put free entry).LeadsToDirectory p := by
  refine ⟨locate_put t p _ free entry nonempty noDirectory leads.1,?_⟩
  rw [find?_put_of_ne]
  · exact leads.2
  · intro same
    exact noDirectory (same ▸ leads.2)

theorem makeDirectory_leads (p : Path) (ok : t.makeDirectory p = .ok t') : t'.LeadsToDirectory p := by
  obtain ⟨found,free,_,rfl⟩ := makeDirectory_success t t' p ok
  have nonempty : destination t.current p ≠ [] := by
    intro root
    rw [root] at free
    cases free
  exact ⟨locate_put t p _ _ _ nonempty (by rw [free]; simp) found,find?_put_self t _ nonempty⟩

/-- What was written stands where the path still leads. -/
theorem write_leads (p : Path) (content : Content) (ok : t.write p content = .ok t') :
    t'.locate p = .ok (destination t.current p) ∧
      t'.find? (destination t.current p) = some (.file content) := by
  obtain ⟨found,noDirectory,rfl⟩ := write_success t t' p content ok
  have nonempty : destination t.current p ≠ [] := by
    intro root
    rw [root] at noDirectory
    exact noDirectory rfl
  exact ⟨locate_put t p _ _ _ nonempty noDirectory found,find?_put_self t _ nonempty⟩

/-- The places at which a path can make directories. -/
def OnPath (current : Place) (p : Path) (place : Place) : Prop :=
  ∃ start, start <+: p.parts ∧ place = destination current ⟨p.slashes,start⟩

theorem onPath_self (current : Place) (p : Path) : OnPath current p (destination current p) :=
  ⟨p.parts,List.prefix_refl _,rfl⟩

theorem onPath_parent (current : Place) (p : Path) (place : Place)
    (above : OnPath current p.parent place) : OnPath current p place := by
  obtain ⟨start,inside,same⟩ := above
  exact ⟨start,inside.trans (List.dropLast_prefix _),same⟩

theorem makeDirectory_onPath (p : Path) (ok : t.makeDirectory p = .ok t') :
    Changes nowhere (OnPath t.current p) nowhere t t' ∧ t'.LeadsToDirectory p := by
  refine ⟨(makeDirectory_changes t t' p ok).weaken (fun _ => id) ?_ (fun _ => id),
    makeDirectory_leads t t' p ok⟩
  rintro place rfl
  exact onPath_self _ p

/-- A directory that stands already needs no change. -/
theorem standing_onPath (p : Path) (fault : Fault)
    (ok : (do if ← t.isDirectory p then return t else throw fault) = Except.ok t') :
    Changes nowhere (OnPath t.current p) nowhere t t' ∧ t'.LeadsToDirectory p := by
  obtain ⟨standing,asked,ok⟩ := except_bind_success _ _ _ ok
  cases standing with
  | false => cases ok
  | true =>
    cases ok
    exact ⟨Changes.refl t,isDirectory_success t p asked⟩

theorem makeDirectoriesWithin_success (fuel : Nat) (p : Path)
    (ok : makeDirectoriesWithin fuel t p = .ok t') :
    Changes nowhere (OnPath t.current p) nowhere t t' ∧ t'.LeadsToDirectory p := by
  induction fuel generalizing p t' with
  | zero => cases ok
  | succ fuel ih =>
    simp only [makeDirectoriesWithin] at ok
    split at ok
    next made => cases ok; exact makeDirectory_onPath t t' p made
    · split at ok
      · cases ok
      · obtain ⟨middle,above,ok⟩ := except_bind_success _ _ _ ok
        obtain ⟨first,_⟩ := ih middle p.parent above
        have wider := first.weaken (fun _ => id) (onPath_parent t.current p) (fun _ => id)
        have rest : Changes nowhere (OnPath middle.current p) nowhere middle t' ∧
            t'.LeadsToDirectory p := by
          split at ok
          next made => cases ok; exact makeDirectory_onPath middle t' p made
          · exact standing_onPath middle t' p _ ok
        rw [first.current] at rest
        exact ⟨wider.trans rest.1,rest.2⟩
    · exact standing_onPath t t' p _ ok

/-- Directories come up on the path alone, and afterwards the path leads to one. -/
theorem makeDirectories_success (p : Path) (ok : t.makeDirectories p = .ok t') :
    Changes nowhere (OnPath t.current p) nowhere t t' ∧ t'.LeadsToDirectory p :=
  makeDirectoriesWithin_success t t' _ p ok

theorem changes_removeWhere (lost : Place → Prop) (condition : Place → Bool)
    (closed : t.WellFormed → ∀ place name entry, t.find? (place ++ [name]) = some entry →
      place ≠ [] → condition place = true → condition (place ++ [name]) = true)
    (losing : ∀ place content, t.find? place = some (.file content) → condition place = true →
      lost place) : Changes nowhere nowhere lost t (t.removeWhere condition) := by
  constructor
  case current => rfl
  case wellFormed =>
    exact fun wellFormed => wellFormed_removeWhere t wellFormed condition (closed wellFormed)
  case files =>
    intro place content stands
    rw [find?_removeWhere] at stands
    split at stands
    · cases stands
    · exact Or.inl stands
  case directories =>
    intro place stands
    rw [find?_removeWhere] at stands
    split at stands
    · cases stands
    · exact Or.inl stands
  case kept =>
    intro place content stands
    rw [find?_removeWhere]
    split
    next gone => exact Or.inr (Or.inr (losing place content stands gone.2))
    next => exact Or.inl stands

/-- At most the file of the path is lost. -/
theorem unlink_changes (p : Path) (ok : t.unlink p = .ok t') :
    Changes nowhere nowhere (· = destination t.current p) t t' := by
  unfold unlink at ok
  split at ok
  · cases ok
    exact Changes.refl t
  · cases ok
  next place found =>
    rw [← (locate_place t p place found).1]
    split at ok
    · cases ok
      exact Changes.refl t
    · cases ok
    next content standing =>
      cases ok
      apply changes_removeWhere
      · intro wellFormed other name entry inside _ same
        rw [beq_iff_eq.mp same] at inside
        obtain ⟨parent,_⟩ := wellFormed place name entry inside
        rw [standing] at parent
        cases parent
      · exact fun other old _ same => beq_iff_eq.mp same

/-- Files are lost below the path alone. -/
theorem removeTree_changes (p : Path) :
    Changes nowhere nowhere (fun place => isBelow (destination t.current p) place = true) t
      (t.removeTree p) := by
  unfold removeTree
  split
  · exact Changes.refl t
  next place found =>
    rw [← (locate_place t p place found).1]
    split
    next standing =>
      split
      · apply changes_removeWhere
        · intro _ other name entry _ _ below
          obtain ⟨first,rest,rfl⟩ := (isBelow_iff _ _).mp below
          rw [List.append_assoc]
          exact isBelow_append place _ (by simp)
        · exact fun other content _ below => below
      · apply changes_removeWhere
        · intro _ other name entry _ _ inside
          rw [List.isPrefixOf_iff_prefix] at inside ⊢
          exact inside.trans (List.prefix_append _ _)
        · intro other content stands inside
          obtain ⟨rest,rfl⟩ := List.isPrefixOf_iff_prefix.mp inside
          apply isBelow_append
          rintro rfl
          rw [List.append_nil,standing] at stands
          cases stands
    · exact Changes.refl t

/-- Nothing stays below a path that is found. -/
theorem removeTree_empties (wellFormed : t.WellFormed) (p : Path) (place other : Place)
    (found : t.locate p = .ok place) (below : isBelow place other = true) :
    (t.removeTree p).find? other = none := by
  have nonempty : other ≠ [] := by
    rintro rfl
    obtain ⟨name,rest,split⟩ := (isBelow_iff _ _).mp below
    simp at split
  unfold removeTree
  rw [found]
  dsimp only
  split
  next standing =>
    split
    · rw [find?_removeWhere,if_pos ⟨nonempty,below⟩]
    · have inside : place.isPrefixOf other = true := (Bool.and_eq_true_iff.mp below).1
      rw [find?_removeWhere,if_pos ⟨nonempty,inside⟩]
  next other => exact find?_below t wellFormed place _ below (by simpa using other)

end Operations

end Pagewright.FileTree
