import Pagewright.Proofs.Files.Changes

/-! Operations that go through: what has to stand, and what must not stand in the way, for directories
to be made and for files to be written, read and removed. -/
namespace Pagewright.FileTree

/-- A name that leads one level down. -/
structure Plain (name : String) : Prop where
  noDots : name ≠ ".."
  noNull : Char.ofNat 0 ∉ name.toList
  fits : Fits name

section Reading

variable (t : FileTree)

theorem resolve_child (here : Place) (name : String) (standing : t.find? here = some .directory)
    (plain : Plain name) : t.resolve here [name] = .ok (here ++ [name]) := by
  have short : ¬ maxName < name.utf8ByteSize := Nat.not_lt.mpr plain.fits
  simp [resolve,standing,short,plain.noDots]

theorem locate_child (p : Path) (name : String) (leads : t.LeadsToDirectory p) (plain : Plain name) :
    t.locate ⟨p.slashes,p.parts ++ [name]⟩ = .ok (destination t.current p ++ [name]) := by
  rw [locate_append t p leads [name] (by simpa using plain.noNull),resolve_child t _ _ leads.2 plain]
  rfl

theorem locate_long (p : Path) (name : String) (leads : t.LeadsToDirectory p) (noNull : Char.ofNat 0 ∉ name.toList)
    (long : ¬ Fits name) : t.locate ⟨p.slashes,p.parts ++ [name]⟩ =
      .error (.file .nameTooLong (Path.text ⟨p.slashes,p.parts ++ [name]⟩)) := by
  have refused : t.resolve (destination t.current p) [name] = .error .nameTooLong := by
    unfold resolve
    rw [leads.2]
    exact if_pos (Nat.lt_of_not_le long)
  rw [locate_append t p leads [name] (by simpa using noNull),refused]
  rfl

theorem resolve_refused (here : Place) (parts : List String) (name : String) (fit : ∀ part ∈ parts, Fits part)
    (refused : t.resolve here (parts ++ [name]) = .error .nameTooLong) :
    ∃ place, t.resolve here parts = .ok place ∧ t.find? place = some .directory ∧ ¬ Fits name := by
  induction parts generalizing here with
  | nil =>
    refine ⟨here,rfl,?_⟩
    rw [List.nil_append,resolve] at refused
    split at refused
    · cases refused
    · cases refused
    next standing =>
      split at refused
      next long => exact ⟨standing,Nat.not_le.mpr long⟩
      next => split at refused <;> cases refused
  | cons part rest ih =>
    have short : ¬ maxName < part.utf8ByteSize := Nat.not_lt.mpr (fit part List.mem_cons_self)
    have further (next : Place) := ih next fun other member => fit other (List.mem_cons_of_mem part member)
    rw [List.cons_append,resolve] at refused
    unfold resolve
    split at refused
    · cases refused
    · cases refused
    next standing =>
      rw [if_neg short] at refused ⊢
      split at refused
      next dots => rw [if_pos dots]; exact further _ refused
      next name => rw [if_neg name]; exact further _ refused

/-- Looking is refused only for a name beyond all bounds, in a directory that stands. -/
theorem isFile_refused (p : Path) (name : String) (fit : ∀ part ∈ p.parts, Fits part) (fault : Fault)
    (refused : t.isFile ⟨p.slashes,p.parts ++ [name]⟩ = .error fault) : t.LeadsToDirectory p ∧ ¬ Fits name := by
  obtain ⟨path,located⟩ : ∃ path, t.locate ⟨p.slashes,p.parts ++ [name]⟩ = .error (.file .nameTooLong path) := by
    unfold isFile look at refused
    split at refused
    · cases refused
    next path located => exact ⟨path,located⟩
    · cases refused
  unfold locate at located
  split at located
  · cases located
  next clean =>
    rw [List.any_append,Bool.or_eq_true,not_or] at clean
    cases resolved : t.resolve (if p.isAbsolute then [] else t.current) (p.parts ++ [name]) with
    | ok place =>
      cases (congrArg (Except.mapError _) resolved).symm.trans located
    | error kind =>
      cases (congrArg (Except.mapError _) resolved).symm.trans located
      obtain ⟨place,reached,standing,long⟩ := t.resolve_refused _ _ name fit resolved
      have same : place = destination t.current p := (resolve_success t _ _ _ reached).1
      subst same
      refine ⟨⟨?_,standing⟩,long⟩
      unfold locate
      rw [if_neg clean.1,reached]
      rfl

theorem destination_child (current : Place) (p : Path) (name : String) (plain : Plain name) :
    destination current ⟨p.slashes,p.parts ++ [name]⟩ = destination current p ++ [name] := by
  rw [destination_append]
  exact enter_name _ _ plain.noDots

/-- Names lead down, or something is missing on the way, where no file stands in the way. -/
theorem resolve_or_missing (here : Place) (names : List String) (plain : ∀ name ∈ names, Plain name)
    (clear : ∀ start, start <+: names → ∀ content, t.find? (here ++ start) ≠ some (.file content)) :
    t.resolve here names = .ok (here ++ names) ∨ t.resolve here names = .error .notFound := by
  induction names generalizing here with
  | nil => left; rw [List.append_nil]; rfl
  | cons name rest ih =>
    have short : ¬ maxName < name.utf8ByteSize := Nat.not_lt.mpr (plain name List.mem_cons_self).fits
    have noDots := (plain name List.mem_cons_self).noDots
    have further := ih (here ++ [name]) (fun other member => plain other (List.mem_cons_of_mem name member))
      fun start inside content => by
        rw [List.append_assoc]
        exact clear (name :: start) (List.cons_prefix_cons.mpr ⟨rfl,inside⟩) content
    rw [List.append_assoc] at further
    have itself := clear [] List.nil_prefix
    rw [List.append_nil] at itself
    cases standing : t.find? here with
    | none => right; simp [resolve,standing]
    | some entry =>
      cases entry with
      | file content => exact absurd standing (itself content)
      | directory => simpa [resolve,standing,short,noDots] using further

theorem isDirectory_leads (p : Path) (leads : t.LeadsToDirectory p) : t.isDirectory p = .ok true := by
  obtain ⟨located,standing⟩ := leads
  simp only [isDirectory,look,located,standing]
  rfl

theorem isFile_standing (p : Path) (place : Place) (content : Content) (located : t.locate p = .ok place)
    (standing : t.find? place = some (.file content)) : t.isFile p = .ok true := by
  simp only [isFile,look,located,standing]
  rfl

theorem isFile_missing (p : Path) (place : Place) (located : t.locate p = .ok place)
    (missing : t.find? place = none) : t.isFile p = .ok false := by
  simp only [isFile,look,located,missing]
  rfl

theorem read_standing (p : Path) (place : Place) (content : Content) (located : t.locate p = .ok place)
    (standing : t.find? place = some (.file content)) : t.read p = .ok content := by
  simp only [read,located,bind,Except.bind,standing]
  rfl

/-- A child of a directory is a name at which something stands. -/
theorem children_stands (p : Path) (found : List (Path × Entry)) (ok : t.children p = .ok found) (e : Path × Entry)
    (member : e ∈ found) :
    ∃ name entry, e.1 = p.child name ∧ t.find? (destination t.current p ++ [name]) = some entry := by
  obtain ⟨place,located,ok⟩ := except_bind_success _ _ _ ok
  have same := (locate_place t p place located).1
  subst same
  split at ok
  · cases ok
    obtain ⟨listed,inside,rfl⟩ := List.mem_map.mp member
    obtain ⟨inside,child⟩ := List.mem_filter.mp inside
    simp only [Bool.and_eq_true,Bool.not_eq_true',List.isEmpty_eq_false_iff,beq_iff_eq] at child
    obtain ⟨above,name,same⟩ := (List.eq_nil_or_concat listed.1).resolve_left child.1
    rw [List.concat_eq_append] at same
    have place : listed.1 = destination t.current p ++ [name] := by
      rw [← child.2,same,List.dropLast_concat]
    cases looked : t.entries.lookup listed.1 with
    | none => exact absurd rfl (bne_iff_ne.mp (List.lookup_eq_none_iff.mp looked listed inside))
    | some entry =>
      refine ⟨name,entry,?_,?_⟩
      · rw [same,List.getLast?_concat,Option.getD_some]
      · rw [place] at looked
        simpa [find?] using looked
  · cases ok
  · cases ok

theorem children_leads (p : Path) (leads : t.LeadsToDirectory p) : ∃ found, t.children p = .ok found :=
  ⟨_,by simp only [children,leads.1,leads.2,bind,Except.bind]; rfl⟩

end Reading

section Making

variable (t : FileTree)

theorem makeDirectory_free (p : Path) (place : Place) (proper : p.parts ≠ [])
    (located : t.locate p = .ok place) (free : t.find? place = none) :
    t.makeDirectory p = .ok (t.put place .directory) := by
  simp only [makeDirectory,located,bind,Except.bind,free]
  rw [if_neg (by simpa using proper)]
  rfl

theorem makeDirectories_free (p : Path) (place : Place) (proper : p.parts ≠ [])
    (located : t.locate p = .ok place) (free : t.find? place = none) :
    t.makeDirectories p = .ok (t.put place .directory) := by
  simp only [makeDirectories,makeDirectoriesWithin,makeDirectory_free t p place proper located free]

theorem makeDirectory_standing (p : Path) (leads : t.LeadsToDirectory p) :
    t.makeDirectory p = .error (.file .exists p.text) := by
  simp only [makeDirectory,leads.1,bind,Except.bind,leads.2]
  rfl

theorem makeDirectoriesWithin_standing (fuel : Nat) (p : Path) (leads : t.LeadsToDirectory p) :
    makeDirectoriesWithin (fuel + 1) t p = .ok t := by
  simp only [makeDirectoriesWithin,makeDirectory_standing t p leads,isDirectory_leads t p leads]
  rfl

/-- A directory can be made at a path, or stands there already. -/
def Makeable (p : Path) : Prop := (∃ t', t.makeDirectory p = .ok t') ∨ t.LeadsToDirectory p

theorem makeable_of_clear (p : Path) (place : Place)
    (proper : p.parts = [] → t.find? place = some .directory) (located : t.locate p = .ok place)
    (clear : ∀ content, t.find? place ≠ some (.file content)) : t.Makeable p := by
  cases standing : t.find? place with
  | none =>
    left
    refine ⟨_,makeDirectory_free t p place ?_ located standing⟩
    intro empty
    rw [proper empty] at standing
    cases standing
  | some entry =>
    cases entry with
    | file content => exact absurd standing (clear content)
    | directory =>
      right
      have same := (locate_place t p place located).1
      exact ⟨same ▸ located,same ▸ standing⟩

theorem makeDirectoriesWithin_here (fuel : Nat) (p : Path) (makeable : t.Makeable p) :
    ∃ t', makeDirectoriesWithin (fuel + 1) t p = .ok t' := by
  rcases makeable with ⟨made,making⟩ | standing
  · exact ⟨made,by simp only [makeDirectoriesWithin,making]⟩
  · exact ⟨t,makeDirectoriesWithin_standing t fuel p standing⟩

/-- Where the parent was missing, the directory comes up after the parent. -/
theorem makeDirectoriesWithin_after (fuel : Nat) (p path : Path) (above : FileTree)
    (proper : p.parts ≠ []) (missing : t.makeDirectory p = .error (.file .notFound path.text))
    (parent : makeDirectoriesWithin fuel t p.parent = .ok above) (makeable : above.Makeable p) :
    ∃ t', makeDirectoriesWithin (fuel + 1) t p = .ok t' := by
  have some : p.parts.isEmpty = false := by simpa using proper
  rcases makeable with ⟨made,making⟩ | standing
  · refine ⟨made,?_⟩
    simp only [makeDirectoriesWithin,missing,some,parent,making,bind,Except.bind]
    rfl
  · refine ⟨above,?_⟩
    simp only [makeDirectoriesWithin,missing,some,parent,makeDirectory_standing above _ standing,
      isDirectory_leads above _ standing,bind,Except.bind]
    rfl

/-- Below a directory, names can be made directories where no file stands in the way. -/
theorem makeDirectoriesWithin_below (fuel : Nat) (p : Path) (leads : t.LeadsToDirectory p)
    (names : List String) (plain : ∀ name ∈ names, Plain name)
    (clear : ∀ start, start <+: names → ∀ content,
      t.find? (destination t.current p ++ start) ≠ some (.file content)) (enough : names.length < fuel) :
    ∃ t', makeDirectoriesWithin fuel t ⟨p.slashes,p.parts ++ names⟩ = .ok t' := by
  induction fuel generalizing names with
  | zero => cases enough
  | succ fuel ih =>
    have located := locate_append t p leads names fun name member => (plain name member).noNull
    rcases resolve_or_missing t _ names plain clear with found | missing
    · rw [found] at located
      refine makeDirectoriesWithin_here t fuel _ ?_
      refine makeable_of_clear t _ _ ?_ located (clear names (List.prefix_refl _))
      intro empty
      rw [(List.append_eq_nil_iff.mp empty).2,List.append_nil]
      exact leads.2
    · cases names using List.reverseRecOn with
      | nil => cases missing
      | append_singleton names name =>
        rw [missing] at located
        have refused : t.makeDirectory ⟨p.slashes,p.parts ++ (names ++ [name])⟩ =
            .error (.file .notFound (Path.text ⟨p.slashes,p.parts ++ (names ++ [name])⟩)) := by
          simp only [makeDirectory,located,Except.mapError,bind,Except.bind]
        have plainAbove : ∀ other ∈ names, Plain other :=
          fun other member => plain other (List.mem_append_left _ member)
        have length : names.length < fuel := by
          rw [List.length_append,List.length_singleton] at enough
          omega
        obtain ⟨middle,above⟩ := ih names plainAbove
          (fun start inside => clear start (inside.trans (List.prefix_append _ _))) length
        obtain ⟨changes,leadsAbove⟩ := makeDirectoriesWithin_success t middle fuel _ above
        have child := locate_child middle _ name leadsAbove (plain name (by simp))
        have whole : destination middle.current ⟨p.slashes,p.parts ++ names⟩ ++ [name] =
            destination t.current p ++ (names ++ [name]) := by
          rw [changes.current,destination_append,foldl_enter_names,List.append_assoc]
          exact fun dots => (plainAbove _ dots).noDots rfl
        rw [whole,List.append_assoc] at child
        have parent : Path.parent ⟨p.slashes,p.parts ++ (names ++ [name])⟩ =
            ⟨p.slashes,p.parts ++ names⟩ := by
          simp [Path.parent,← List.append_assoc]
        refine makeDirectoriesWithin_after t fuel _ _ middle (by simp) refused (by rw [parent]; exact above)
          (makeable_of_clear middle _ _ (by simp) child ?_)
        -- What is made on the way is no file.
        intro content standing
        rcases changes.files _ content standing with before | never
        · exact clear _ (List.prefix_refl _) content before
        · exact never

theorem makeDirectories_below (p : Path) (leads : t.LeadsToDirectory p) (names : List String)
    (plain : ∀ name ∈ names, Plain name)
    (clear : ∀ start, start <+: names → ∀ content,
      t.find? (destination t.current p ++ start) ≠ some (.file content)) :
    ∃ t', t.makeDirectories ⟨p.slashes,p.parts ++ names⟩ = .ok t' :=
  makeDirectoriesWithin_below t _ p leads names plain clear (by rw [List.length_append]; omega)

/-- A name and double dots lead back, once the name is a directory. -/
theorem makeDirectories_back (p : Path) (leads : t.LeadsToDirectory p) (name : String)
    (plain : Plain name) (free : t.find? (destination t.current p ++ [name]) = none) :
    ∃ t', t.makeDirectories ⟨p.slashes,p.parts ++ [name,".."]⟩ = .ok t' := by
  have missing : t.locate ⟨p.slashes,p.parts ++ [name,".."]⟩ =
      .error (.file .notFound (Path.text ⟨p.slashes,p.parts ++ [name,".."]⟩)) := by
    have short : ¬ maxName < name.utf8ByteSize := Nat.not_lt.mpr plain.fits
    rw [locate_append t p leads [name,".."]]
    · simp [resolve,leads.2,short,plain.noDots,free,Except.mapError]
    · simp only [List.mem_cons,List.not_mem_nil,or_false,forall_eq_or_imp,forall_eq]
      exact ⟨plain.noNull,by decide⟩
  have refused : t.makeDirectory ⟨p.slashes,p.parts ++ [name,".."]⟩ =
      .error (.file .notFound (Path.text ⟨p.slashes,p.parts ++ [name,".."]⟩)) := by
    simp only [makeDirectory,missing,bind,Except.bind]
  have parent : Path.parent ⟨p.slashes,p.parts ++ [name,".."]⟩ = ⟨p.slashes,p.parts ++ [name]⟩ := by
    simp [Path.parent]
  have child := locate_child t p name leads plain
  have making := makeDirectory_free t ⟨p.slashes,p.parts ++ [name]⟩ _ (by simp) child free
  have leadsChild := makeDirectory_leads t _ _ making
  have back : (t.put (destination t.current p ++ [name]) .directory).LeadsToDirectory
      ⟨p.slashes,p.parts ++ [name,".."]⟩ := by
    have target : destination t.current ⟨p.slashes,p.parts ++ [name,".."]⟩ = destination t.current p := by
      rw [destination_append]
      simp [enter,plain.noDots]
    have below : destination t.current ⟨p.slashes,p.parts ++ [name]⟩ = destination t.current p ++ [name] :=
      destination_child _ _ _ plain
    have located := locate_append _ _ leadsChild [".."] (by decide)
    rw [List.append_assoc] at located
    refine ⟨located.trans ?_,?_⟩
    · have standing : (t.put (destination t.current p ++ [name]) .directory).find?
          (destination t.current p ++ [name]) = some .directory := find?_put_self t .directory (by simp)
      show Except.mapError _ (resolve _ (destination t.current _) _) = .ok (destination t.current _)
      rw [below]
      simp [resolve,standing,target,Except.mapError]
      rfl
    · show find? _ (destination t.current _) = _
      rw [target,find?_put_of_ne _ _ (by simp)]
      exact leads.2
  have length : (p.parts ++ [name,".."]).length = p.parts.length + 1 + 1 := by simp
  rw [makeDirectories,length]
  refine makeDirectoriesWithin_after t _ _ _ _ (by simp) refused ?_ (Or.inr back)
  rw [parent]
  simp only [makeDirectoriesWithin,making]

theorem write_free (p : Path) (place : Place) (content : Content) (located : t.locate p = .ok place)
    (noDirectory : t.find? place ≠ some .directory) :
    t.write p content = .ok (t.put place (.file content)) := by
  simp only [write,located,bind,Except.bind]
  rfl

/-- No file is written where a name on the way is too long. -/
theorem write_long (p : Path) (content : Content) (part : String) (member : part ∈ p.parts)
    (long : ¬ Fits part) : ∃ fault, t.write p content = .error fault := by
  cases located : t.locate p with
  | error fault => exact ⟨fault,by simp only [write,located,bind,Except.bind]⟩
  | ok place => exact absurd ((locate_place t p place located).2 part member) long

theorem read_stands (p : Path) (content : Content) (ok : t.read p = .ok content) :
    t.find? (destination t.current p) = some (.file content) := by
  obtain ⟨place,found,ok⟩ := except_bind_success _ _ _ ok
  rw [← (locate_place t p place found).1]
  split at ok
  next standing => cases ok; exact standing
  · cases ok
  · cases ok

theorem read_located (p : Path) (content : Content) (ok : t.read p = .ok content) :
    t.locate p = .ok (destination t.current p) := by
  obtain ⟨place,located,_⟩ := except_bind_success _ _ _ ok
  rw [← (locate_place t p place located).1]
  exact located

theorem isFile_read (p : Path) (content : Content) (ok : t.read p = .ok content) : t.isFile p = .ok true :=
  t.isFile_standing p _ content (t.read_located p content ok) (t.read_stands p content ok)

theorem copy_read (source target : Path) (content : Content) (t' : FileTree)
    (found : t.read source = .ok content) (written : t.write target content = .ok t') :
    t.copy source target = .ok t' := by
  simp only [copy,found,bind,Except.bind]
  exact written

theorem unlink_missing (p : Path) (place : Place) (located : t.locate p = .ok place)
    (missing : t.find? place = none) : t.unlink p = .ok t := by
  simp only [unlink,located,missing]
  rfl

theorem unlink_file (p : Path) (place : Place) (content : Content) (located : t.locate p = .ok place)
    (standing : t.find? place = some (.file content)) :
    t.unlink p = .ok (t.removeWhere (· == place)) := by
  simp only [unlink,located,standing]
  rfl

/-- A directory directly below a directory: it stands already, or is all that is made. -/
theorem makeDirectories_child (p : Path) (leads : t.LeadsToDirectory p) (name : String) (plain : Plain name)
    (noFile : ∀ content, t.find? (destination t.current p ++ [name]) ≠ some (.file content)) :
    t.find? (destination t.current p ++ [name]) = some .directory ∧ t.makeDirectories (p.child name) = .ok t ∨
      t.find? (destination t.current p ++ [name]) = none ∧
        t.makeDirectories (p.child name) = .ok (t.put (destination t.current p ++ [name]) .directory) := by
  have located : t.locate (p.child name) = .ok (destination t.current p ++ [name]) := locate_child t p name leads plain
  cases standing : t.find? (destination t.current p ++ [name]) with
  | none => exact .inr ⟨rfl,makeDirectories_free t _ _ (by simp [Path.child]) located standing⟩
  | some entry =>
    cases entry with
    | file content => exact absurd standing (noFile content)
    | directory =>
      have place : destination t.current (p.child name) = destination t.current p ++ [name] :=
        destination_child _ p name plain
      exact .inl ⟨rfl,makeDirectoriesWithin_standing t _ _ ⟨place ▸ located,place ▸ standing⟩⟩

end Making

end Pagewright.FileTree
