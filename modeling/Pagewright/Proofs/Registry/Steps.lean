import Pagewright.Proofs.Registry.Growth
import Pagewright.Proofs.Registry.Sections

/-! Installing and activating a plugin in a registry file. A change that goes through either finds the
plugin as it should be or saves sections that have grown. -/
namespace Pagewright.Host.RegistryFile

/-- The state of a plugin that was installed. -/
def inactive : Value := .object [("active",.bool false)]

theorem withField_success (v field w : Value) (key : String) (ok : withField v key field = .ok w) :
    ∃ fields, v = .object fields ∧ w = .object (Table.put fields key field) := by
  cases v with
  | object fields => exact ⟨fields,rfl,(Except.ok.inj ok).symm⟩
  | _ => cases ok

theorem findD_object (fields : Table Value) (key : String) (default : Value) :
    (Value.object fields).findD key default = .ok ((fields.get? key).getD default) := rfl

theorem findD_success (v found default : Value) (key : String) (ok : v.findD key default = .ok found) :
    ∃ fields : Table Value, v = .object fields ∧ found = (fields.get? key).getD default := by
  cases v with
  | object fields => exact ⟨fields,rfl,(Except.ok.inj ok).symm⟩
  | _ => cases ok

/-- Marking an entry makes it active. -/
theorem isActive_put (fields : Table Value) :
    IsActive (.object (fields.put "active" (.bool true))) := by
  have found := Table.get?_put_self fields "active" (.bool true)
  have nonempty : (fields.put "active" (.bool true)).isEmpty = false := by
    cases marked : fields.put "active" (.bool true) with
    | nil => rw [marked] at found; cases found
    | cons entry rest => rfl
  have itself : (Value.object (fields.put "active" (.bool true))).orElse (.object []) =
      .object (fields.put "active" (.bool true)) := by
    simp [Value.orElse,Value.isTruthy,nonempty]
  unfold IsActive activeEntry
  rw [itself,findD_object,found]
  rfl

/-- An entry that is marked is active. -/
theorem isActive_of_marked (state marked : Value)
    (found : (state.orElse (.object [])).findD "active" .null = .ok marked)
    (truthy : marked.isTruthy = true) : IsActive state := by
  obtain ⟨fields,table,same⟩ := findD_success _ _ _ _ found
  unfold IsActive activeEntry
  rw [table,findD_object]
  cases entry : fields.get? "active" with
  | none => rw [same,entry] at truthy; cases truthy
  | some v => rw [same,entry] at truthy; exact congrArg Except.ok truthy

theorem mem_keys_of_match (plugins : Table Value) (slug path : String)
    (found : matchPluginPath plugins.keys slug = some path) : path ∈ plugins.keys :=
  List.mem_of_find?_eq_some found

variable (r : RegistryFile)

section Answers

variable (slug : String) (files : FileTree)

theorem isInstalled_loaded (data : Table Value) (first : Option String) (loaded : r.load files = .ok data)
    (found : pathIn data slug = .ok first) : r.isInstalled slug files = .ok first.isSome := by
  unfold isInstalled find
  rw [loaded]
  show (do return (← (liftM (pathIn data slug) : Except Failure (Option String))).isSome :
    Except Failure Bool) = _
  rw [found]
  rfl

theorem isActive_split : r.isActive slug files = r.load files >>= (activeIn · slug) := rfl

theorem isActive_loaded (data : Table Value) (loaded : r.load files = .ok data) :
    r.isActive slug files = activeIn data slug := by
  rw [r.isActive_split,loaded]
  rfl

theorem isInstalled_iff : r.isInstalled slug files = .ok true ↔
    ∃ data path, r.load files = .ok data ∧ pathIn data slug = .ok (some path) := by
  constructor
  · intro ok
    unfold isInstalled find at ok
    obtain ⟨first,found,ok⟩ := except_bind_success _ _ _ ok
    obtain ⟨data,loaded,found⟩ := except_bind_success _ _ _ found
    cases first with
    | none => cases ok
    | some path => exact ⟨data,path,loaded,lift_success _ _ found⟩
  · rintro ⟨data,path,loaded,found⟩
    exact r.isInstalled_loaded slug files data (some path) loaded found

theorem isActive_iff : r.isActive slug files = .ok true ↔
    ∃ data, r.load files = .ok data ∧ activeIn data slug = .ok true := by
  constructor
  · exact fun ok => except_bind_success _ (activeIn · slug) _ ok
  · rintro ⟨data,loaded,active⟩
    exact (r.isActive_loaded slug files data loaded).trans active

theorem isInstalled_answered (answer : Bool) (ok : r.isActive slug files = .ok answer) :
    ∃ there, r.isInstalled slug files = .ok there := by
  obtain ⟨data,loaded,active⟩ := except_bind_success _ (activeIn · slug) _ ok
  rcases activeIn_success data slug answer active with ⟨missing,_⟩ | ⟨path,_,_,found,_⟩
  · exact ⟨_,r.isInstalled_loaded slug files data none loaded missing⟩
  · exact ⟨_,r.isInstalled_loaded slug files data (some path) loaded found⟩

end Answers

section Changes

variable (slug : String) (files files' : FileTree)

/-- An installation finds a plugin of the slug, or puts one behind the others. -/
theorem installed_success (ok : r.installed slug files = .ok files') : ∃ data, r.load files = .ok data ∧
    ((∃ path, pathIn data slug = .ok (some path)) ∧ files' = files ∨
      ∃ plugins : Table Value, sectionOf data "plugins" = .object plugins ∧ pathIn data slug = .ok none ∧
        isListed slug (sectionOf data "unavailable") = .ok false ∧
        r.save (data.put "plugins" (.object (plugins.put (ownPath slug) inactive))) files = .ok files') := by
  obtain ⟨data,loaded,ok⟩ := except_bind_success _ _ _ ok
  obtain ⟨first,found,ok⟩ := except_bind_success _ _ _ ok
  refine ⟨data,loaded,?_⟩
  cases first with
  | some path => exact Or.inl ⟨⟨path,lift_success _ _ found⟩,(Except.ok.inj ok).symm⟩
  | none =>
    obtain ⟨listed,asked,ok⟩ := except_bind_success _ _ _ ok
    cases listed with
    | true => cases ok
    | false =>
      obtain ⟨changed,put,saved⟩ := except_bind_success _ _ _ ok
      obtain ⟨plugins,table,rfl⟩ := withField_success _ _ _ _ (lift_success _ _ put)
      exact Or.inr ⟨plugins,table,lift_success _ _ found,lift_success _ _ asked,lift_success _ _ saved⟩

/-- An activation finds the plugin of the slug active, or marks it. -/
theorem activated_success (ok : r.activated slug files = .ok files') : ∃ data path,
    r.load files = .ok data ∧ pathIn data slug = .ok (some path) ∧
      (activeIn data slug = .ok true ∧ files' = files ∨
        ∃ (plugins : Table Value) (state : Value), sectionOf data "plugins" = .object plugins ∧
          path ∈ plugins.keys ∧ IsActive state ∧
          r.save (data.put "plugins" (.object (plugins.put path state))) files = .ok files') := by
  obtain ⟨data,loaded,ok⟩ := except_bind_success _ _ _ ok
  obtain ⟨first,found,ok⟩ := except_bind_success _ _ _ ok
  have found := lift_success _ _ found
  cases first with
  | none => cases ok
  | some path =>
    refine ⟨data,path,loaded,found,?_⟩
    obtain ⟨entry,read,ok⟩ := except_bind_success _ _ _ ok
    obtain ⟨old,asked,same⟩ := except_bind_success _ _ _ (lift_success _ _ read)
    obtain ⟨plugins,table,rfl⟩ := findD_success _ _ _ _ asked
    cases same
    obtain ⟨marked,mark,ok⟩ := except_bind_success _ _ _ ok
    have mark := lift_success _ _ mark
    have known : path ∈ plugins.keys := by
      rw [pathIn_object _ _ _ table] at found
      exact mem_keys_of_match _ _ _ (Except.ok.inj found)
    obtain ⟨state,standing⟩ := (Table.mem_keys_iff plugins path).mp known
    rw [standing] at mark ok
    split at ok
    next truthy =>
      have active := isActive_of_marked _ _ mark truthy
      exact Or.inl ⟨(activeIn_iff data slug).mpr ⟨path,plugins,state,found,table,standing,active⟩,
        (Except.ok.inj ok).symm⟩
    next =>
      obtain ⟨changed,put,ok⟩ := except_bind_success _ _ _ ok
      obtain ⟨fields,_,rfl⟩ := withField_success _ _ _ _ (lift_success _ _ put)
      obtain ⟨section',put,saved⟩ := except_bind_success _ _ _ ok
      obtain ⟨again,table',rfl⟩ := withField_success _ _ _ _ (lift_success _ _ put)
      obtain rfl : plugins = again := Value.object.inj (table.symm.trans table')
      exact Or.inr ⟨plugins,_,table,known,isActive_put fields,lift_success _ _ saved⟩

end Changes

/-- The sections loaded later on are those loaded before, grown by plugins in a fresh state. -/
def Grows (fresh : Value → Prop) (before after : FileTree) : Prop :=
  ∀ data, r.load before = .ok data → ∃ data', r.load after = .ok data' ∧ Grown fresh data data'

section Growing

variable (fresh : Value → Prop)

theorem grows_refl (files : FileTree) : r.Grows fresh files files := fun data loaded =>
  ⟨data,loaded,grown_refl fresh data⟩

theorem grows_trans (counts : ∀ state, IsActive state → fresh state) (first second third : FileTree)
    (one : r.Grows fresh first second) (two : r.Grows fresh second third) : r.Grows fresh first third := by
  intro data loaded
  obtain ⟨data',loaded',grown⟩ := one data loaded
  obtain ⟨data'',loaded'',further⟩ := two data' loaded'
  exact ⟨data'',loaded'',grown_trans fresh counts grown further⟩

/-- Saving the sections with a plugin put, where one that was there is active. -/
theorem grows_save (files files' : FileTree) (data plugins : Table Value) (path : String) (state : Value)
    (loaded : r.load files = .ok data) (table : sectionOf data "plugins" = .object plugins)
    (active : path ∈ plugins.keys → IsActive state) (new : path ∉ plugins.keys → fresh state)
    (saved : r.save (data.put "plugins" (.object (plugins.put path state))) files = .ok files') :
    r.load files' = .ok (data.put "plugins" (.object (plugins.put path state))) ∧
      r.Grows fresh files files' := by
  have complete := complete_put data (r.load_complete files data loaded)
    (.object (plugins.put path state))
  have reloaded := r.load_saved files files' _ complete saved
  refine ⟨reloaded,fun old loadedOld => ?_⟩
  obtain rfl : data = old := Except.ok.inj (loaded.symm.trans loadedOld)
  exact ⟨_,reloaded,grown_put fresh data plugins path state table active new⟩

end Growing

theorem pathIn_none (data plugins : Table Value) (slug : String)
    (table : sectionOf data "plugins" = .object plugins) (missing : pathIn data slug = .ok none) :
    ∀ path ∈ plugins.keys, belongsTo slug path = false := by
  rw [pathIn_object _ _ _ table] at missing
  have none := List.find?_eq_none.mp (Except.ok.inj missing)
  intro path known
  simpa using none path known

/-- The own path of a slug that finds no path is free. -/
theorem ownPath_new (data plugins : Table Value) (slug : String)
    (table : sectionOf data "plugins" = .object plugins) (missing : pathIn data slug = .ok none) :
    ownPath slug ∉ plugins.keys := by
  intro known
  have foreign := pathIn_none data plugins slug table missing _ known
  rw [belongsTo_ownPath] at foreign
  cases foreign

theorem pathIn_put (data plugins : Table Value) (slug path : String) (state : Value)
    (own : belongsTo slug path = true) :
    ∃ first, pathIn (data.put "plugins" (.object (plugins.put path state))) slug = .ok (some first) := by
  rw [pathIn_object _ _ _ (sectionOf_put_self _ _ _)]
  have known : path ∈ (plugins.put path state).keys :=
    (Table.mem_keys_iff _ _).mpr ⟨state,Table.get?_put_self _ _ _⟩
  cases found : matchPluginPath (plugins.put path state).keys slug with
  | some first => exact ⟨first,rfl⟩
  | none => exact absurd own (List.find?_eq_none.mp found path known)

section Steps

variable (fresh : Value → Prop) (slug : String) (files files' : FileTree)

theorem install_step (bare : fresh inactive) (ok : r.installed slug files = .ok files') :
    r.Grows fresh files files' ∧ r.isInstalled slug files' = .ok true := by
  obtain ⟨data,loaded,⟨⟨path,found⟩,rfl⟩ | ⟨plugins,table,missing,_,saved⟩⟩ :=
    r.installed_success slug files files' ok
  · exact ⟨r.grows_refl fresh _,(r.isInstalled_iff slug _).mpr ⟨data,path,loaded,found⟩⟩
  · have new := ownPath_new data plugins slug table missing
    obtain ⟨reloaded,grows⟩ := r.grows_save fresh files files' data plugins (ownPath slug) inactive loaded
      table (fun known => absurd known new) (fun _ => bare) saved
    obtain ⟨first,found⟩ := pathIn_put data plugins slug (ownPath slug) inactive (belongsTo_ownPath slug)
    exact ⟨grows,(r.isInstalled_iff slug _).mpr ⟨_,first,reloaded,found⟩⟩

theorem activate_step (ok : r.activated slug files = .ok files') :
    r.Grows fresh files files' ∧ r.isActive slug files' = .ok true := by
  obtain ⟨data,path,loaded,found,⟨active,rfl⟩ | ⟨plugins,state,table,known,active,saved⟩⟩ :=
    r.activated_success slug files files' ok
  · exact ⟨r.grows_refl fresh _,(r.isActive_iff slug _).mpr ⟨data,loaded,active⟩⟩
  · obtain ⟨reloaded,grows⟩ := r.grows_save fresh files files' data plugins path state loaded table
      (fun _ => active) (fun absent => absurd known absent) saved
    have further := grown_put fresh data plugins path state table (fun _ => active) fun absent =>
      absurd known absent
    have still := grown_path further slug path found
    refine ⟨grows,(r.isActive_iff slug _).mpr ⟨_,reloaded,?_⟩⟩
    exact (activeIn_iff _ slug).mpr ⟨path,_,state,still,sectionOf_put_self _ _ _,
      Table.get?_put_self _ _ _,active⟩

end Steps

section Kept

variable {fresh : Value → Prop} {before after : FileTree} (grows : r.Grows fresh before after)
include grows

theorem grows_isInstalled (slug : String) (installed : r.isInstalled slug before = .ok true) :
    r.isInstalled slug after = .ok true := by
  obtain ⟨data,path,loaded,found⟩ := (r.isInstalled_iff slug before).mp installed
  obtain ⟨data',loaded',grown⟩ := grows data loaded
  exact (r.isInstalled_iff slug after).mpr ⟨data',path,loaded',grown_path grown slug path found⟩

theorem grows_isActive (slug : String) (active : r.isActive slug before = .ok true) :
    r.isActive slug after = .ok true := by
  obtain ⟨data,loaded,active⟩ := (r.isActive_iff slug before).mp active
  obtain ⟨data',loaded',grown⟩ := grows data loaded
  exact (r.isActive_iff slug after).mpr ⟨data',loaded',grown_active grown slug active⟩

end Kept

theorem installed_again (slug : String) (files : FileTree) (there : r.isInstalled slug files = .ok true) :
    r.installed slug files = .ok files := by
  obtain ⟨data,path,loaded,found⟩ := (r.isInstalled_iff slug files).mp there
  unfold installed
  rw [loaded]
  show ((liftM (pathIn data slug) : Except Failure _) >>= _) = _
  rw [found]
  rfl

/-- What is said of an entry is its mark. -/
theorem activeEntry_success (state : Value) (answer : Bool) (answered : activeEntry state = .ok answer) :
    ∃ fields : Table Value, state.orElse (.object []) = .object fields ∧
      ((fields.get? "active").getD .null).isTruthy = answer := by
  obtain ⟨mark,marked,said⟩ := except_bind_success _ _ _ answered
  obtain ⟨fields,entry,rfl⟩ := findD_success _ _ _ _ marked
  refine ⟨fields,entry,?_⟩
  cases field : fields.get? "active" with
  | none => rw [field] at said; exact Except.ok.inj said
  | some v => rw [field] at said; exact Except.ok.inj said

/-- Activating an entry that can be marked leaves one with a mark alone, and saves any other one marked. -/
theorem activated_entry (slug : String) (files : FileTree) (data plugins : Table Value) (path : String)
    (state : Value) (fields : Table Value) (loaded : r.load files = .ok data)
    (found : pathIn data slug = .ok (some path)) (table : sectionOf data "plugins" = .object plugins)
    (standing : plugins.get? path = some state) (entry : state.orElse (.object []) = .object fields) :
    r.activated slug files = if ((fields.get? "active").getD .null).isTruthy = true then .ok files
      else liftM (r.save (data.put "plugins" (.object
        (plugins.put path (.object (fields.put "active" (.bool true)))))) files) := by
  have asked : entryOf (sectionOf data "plugins") path = .ok (.object fields) := by
    unfold entryOf
    rw [table,findD_object,standing,← entry]
    rfl
  unfold activated
  rw [loaded]
  show ((liftM (pathIn data slug) : Except Failure _) >>= _) = _
  rw [found]
  show ((liftM (entryOf (sectionOf data "plugins") path) : Except Failure _) >>= _) = _
  rw [asked,table]
  show (if ((fields.get? "active").getD .null).isTruthy = true then _ else _) = _
  split <;> rfl

theorem activated_again (slug : String) (files : FileTree) (active : r.isActive slug files = .ok true) :
    r.activated slug files = .ok files := by
  obtain ⟨data,loaded,active⟩ := (r.isActive_iff slug files).mp active
  obtain ⟨path,plugins,state,found,table,standing,active⟩ := (activeIn_iff data slug).mp active
  obtain ⟨fields,entry,marked⟩ := activeEntry_success state true active
  rw [r.activated_entry slug files data plugins path state fields loaded found table standing entry,if_pos marked]

end Pagewright.Host.RegistryFile
