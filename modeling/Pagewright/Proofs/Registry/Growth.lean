import Pagewright.Proofs.Registry.Sections

/-! How the sections of a registry may move on: new plugins come behind those that are there, and a
plugin stays as it is or becomes active. So the first path of a slug stays the first one. -/
namespace Pagewright.Host.RegistryFile

def IsActive (state : Value) : Prop := activeEntry state = .ok true

/-- New plugins may be in any state. -/
def AnyState (_ : Value) : Prop := True

/-- A table of plugins later on, when all new plugins are in a fresh state. -/
inductive Extends (fresh : Value → Prop) : Table Value → Table Value → Prop
  | more (new : Table Value) (all : ∀ entry ∈ new, fresh entry.2) : Extends fresh [] new
  | plugin (path : String) (old new : Value) (rest later : Table Value)
      (stays : new = old ∨ IsActive new) (further : Extends fresh rest later) :
      Extends fresh ((path,old) :: rest) ((path,new) :: later)

section Tables

variable (fresh : Value → Prop) (plugins : Table Value)

theorem extends_refl : Extends fresh plugins plugins := by
  induction plugins with
  | nil => exact .more [] nofun
  | cons entry rest ih => exact .plugin entry.1 entry.2 entry.2 rest rest (Or.inl rfl) ih

theorem extends_put (path : String) (state : Value) (active : path ∈ plugins.keys → IsActive state)
    (new : path ∉ plugins.keys → fresh state) : Extends fresh plugins (plugins.put path state) := by
  induction plugins with
  | nil =>
    refine .more _ fun entry member => ?_
    rw [List.mem_singleton.mp member]
    exact new List.not_mem_nil
  | cons entry rest ih =>
    obtain ⟨name,old⟩ := entry
    rw [Table.put]
    split
    next same =>
      obtain rfl : name = path := beq_iff_eq.mp same
      exact .plugin name old state rest rest (Or.inr (active List.mem_cons_self)) (extends_refl fresh rest)
    next other =>
      refine .plugin name old old rest _ (Or.inl rfl) (ih ?_ fun absent => new fun known => ?_)
      · exact fun known => active (List.mem_cons_of_mem name known)
      · rcases List.mem_cons.mp known with same | known
        · exact other (by simp [same])
        · exact absent known

end Tables

/-- What extends an extension extends the table itself, where active plugins count as fresh. -/
theorem extends_trans {fresh : Value → Prop} (counts : ∀ state, IsActive state → fresh state)
    {first second third : Table Value} (one : Extends fresh first second)
    (two : Extends fresh second third) : Extends fresh first third := by
  induction one generalizing third with
  | more new all =>
    refine .more third ?_
    induction two with
    | more newest all' => exact all'
    | plugin path old newer rest later stays _ ih =>
      intro entry member
      rcases List.mem_cons.mp member with rfl | member
      · rcases stays with rfl | active
        · exact all _ List.mem_cons_self
        · exact counts _ active
      · exact ih (fun entry member => all entry (List.mem_cons_of_mem _ member)) entry member
  | plugin path old new rest later stays _ ih =>
    cases two with
    | plugin _ _ newest _ latest staysOn furtherOn =>
      refine .plugin path old newest rest latest ?_ (ih furtherOn)
      rcases staysOn with rfl | active
      · exact stays
      · exact Or.inr active

section Extending

variable {fresh : Value → Prop} {plugins later : Table Value} (grown : Extends fresh plugins later)
include grown

theorem extends_find (slug path : String) (found : matchPluginPath plugins.keys slug = some path) :
    matchPluginPath later.keys slug = some path := by
  induction grown with
  | more => cases found
  | plugin name old new rest rest' _ _ ih =>
    unfold matchPluginPath Table.keys at ih found ⊢
    rw [List.map_cons,List.find?_cons] at found ⊢
    cases own : belongsTo slug name with
    | true => simpa only [own] using found
    | false => exact ih (by simpa only [own] using found)

theorem extends_state (path : String) (state : Value) (found : plugins.get? path = some state) :
    ∃ new, later.get? path = some new ∧ (new = state ∨ IsActive new) := by
  induction grown with
  | more => cases found
  | plugin name old new rest rest' stays _ ih =>
    rw [Table.get?_cons] at found ⊢
    by_cases same : name = path
    · rw [if_pos same] at found ⊢
      cases found
      exact ⟨new,rfl,stays⟩
    · rw [if_neg same] at found ⊢
      exact ih found

theorem extends_entry (path : String) (state : Value) (member : (path,state) ∈ plugins) :
    ∃ new, (path,new) ∈ later ∧ (new = state ∨ IsActive new) := by
  induction grown with
  | more => cases member
  | plugin name old new rest rest' stays _ ih =>
    rcases List.mem_cons.mp member with same | member
    · cases same
      exact ⟨new,List.mem_cons_self,stays⟩
    · obtain ⟨new,member,stays⟩ := ih member
      exact ⟨new,List.mem_cons_of_mem _ member,stays⟩

end Extending

/-- The plugins section later on: one that is no table stays as it is. -/
def PluginsGrown (fresh : Value → Prop) (old new : Value) : Prop :=
  new = old ∨ ∃ plugins later, old = .object plugins ∧ new = .object later ∧ Extends fresh plugins later

/-- The sections of a registry later on. -/
structure Grown (fresh : Value → Prop) (data data' : Table Value) : Prop where
  plugins : PluginsGrown fresh (sectionOf data "plugins") (sectionOf data' "plugins")
  pro : sectionOf data' "pro" = sectionOf data "pro"
  unavailable : sectionOf data' "unavailable" = sectionOf data "unavailable"

section Sections

variable (fresh : Value → Prop)

theorem grown_refl (data : Table Value) : Grown fresh data data := ⟨Or.inl rfl,rfl,rfl⟩

theorem grown_trans (counts : ∀ state, IsActive state → fresh state) {first second third : Table Value}
    (one : Grown fresh first second) (two : Grown fresh second third) : Grown fresh first third where
  plugins := by
    rcases one.plugins with same | ⟨old,middle,start,reached,further⟩
    · rw [← same]
      exact two.plugins
    · rcases two.plugins with same | ⟨middle',new,again,arrived,beyond⟩
      · rw [same]
        exact Or.inr ⟨old,middle,start,reached,further⟩
      · obtain rfl : middle = middle' := Value.object.inj (reached.symm.trans again)
        exact Or.inr ⟨old,new,start,arrived,extends_trans counts further beyond⟩
  pro := two.pro.trans one.pro
  unavailable := two.unavailable.trans one.unavailable

theorem grown_put (data plugins : Table Value) (path : String) (state : Value)
    (before : sectionOf data "plugins" = .object plugins) (active : path ∈ plugins.keys → IsActive state)
    (new : path ∉ plugins.keys → fresh state) :
    Grown fresh data (data.put "plugins" (.object (plugins.put path state))) where
  plugins := Or.inr ⟨plugins,_,before,sectionOf_put_self _ _ _,extends_put fresh plugins path state active new⟩
  pro := sectionOf_put_of_ne _ _ _ _ (by decide)
  unavailable := sectionOf_put_of_ne _ _ _ _ (by decide)

end Sections

theorem findAmong_paths (slug : String) (paths : List String) :
    findAmong slug (paths.map .str) = .ok (matchPluginPath paths slug) := by
  induction paths with
  | nil => rfl
  | cons path rest ih =>
    unfold matchPluginPath at ih ⊢
    rw [List.map_cons,findAmong,List.find?_cons,ih]
    cases belongsTo slug path <;> rfl

theorem pathIn_object (data plugins : Table Value) (slug : String)
    (table : sectionOf data "plugins" = .object plugins) :
    pathIn data slug = .ok (matchPluginPath plugins.keys slug) := by
  have listed : (Value.object plugins).items = .ok (plugins.keys.map .str) := by
    simp [Value.items,Table.keys]
  unfold pathIn
  rw [table,listed]
  exact findAmong_paths slug plugins.keys

/-- Whether the plugin of a slug is active, in loaded sections. -/
def activeIn (data : Table Value) (slug : String) : Except Failure Bool := do
  match ← pathIn data slug with
  | none => return false
  | some path => return ← activeEntry (← (sectionOf data "plugins").member path)

theorem member_success (v state : Value) (path : String) (ok : v.member path = .ok state) :
    ∃ plugins, v = .object plugins ∧ Table.get? plugins path = some state := by
  cases v with
  | object plugins =>
    cases found : Table.get? plugins path with
    | none => simp only [Value.member,found] at ok; cases ok
    | some entry => simp only [Value.member,found] at ok; cases ok; exact ⟨plugins,rfl,found⟩
  | _ => cases ok

theorem activeIn_entry (data plugins : Table Value) (slug path : String) (state : Value) (answer : Bool)
    (found : pathIn data slug = .ok (some path)) (table : sectionOf data "plugins" = .object plugins)
    (entry : plugins.get? path = some state) (active : activeEntry state = .ok answer) :
    activeIn data slug = .ok answer := by
  have member : (sectionOf data "plugins").member path = .ok state := by
    rw [table,Value.member,entry]
  unfold activeIn
  rw [found]
  show (do return ← activeEntry (← (sectionOf data "plugins").member path) : Except Failure Bool) = _
  rw [member]
  show (do return ← activeEntry state : Except Failure Bool) = _
  rw [active]
  rfl

theorem activeIn_missing (data : Table Value) (slug : String) (missing : pathIn data slug = .ok none) :
    activeIn data slug = .ok false := by
  unfold activeIn
  rw [missing]
  rfl

/-- Where it is said whether a slug is active, there is no path of it or a state that says so. -/
theorem activeIn_success (data : Table Value) (slug : String) (answer : Bool)
    (ok : activeIn data slug = .ok answer) : (pathIn data slug = .ok none ∧ answer = false) ∨
      ∃ path, ∃ plugins : Table Value, ∃ state, pathIn data slug = .ok (some path) ∧
        sectionOf data "plugins" = .object plugins ∧ plugins.get? path = some state ∧
        activeEntry state = .ok answer := by
  obtain ⟨first,found,ok⟩ := except_bind_success _ _ _ ok
  cases first with
  | none => exact Or.inl ⟨lift_success _ _ found,(Except.ok.inj ok).symm⟩
  | some path =>
    obtain ⟨state,member,active⟩ := except_bind_success _ _ _ ok
    obtain ⟨plugins,table,entry⟩ := member_success _ _ _ (lift_success _ _ member)
    exact Or.inr ⟨path,plugins,state,lift_success _ _ found,table,entry,lift_success _ _ active⟩

theorem activeIn_iff (data : Table Value) (slug : String) :
    activeIn data slug = .ok true ↔ ∃ path, ∃ plugins : Table Value, ∃ state,
      pathIn data slug = .ok (some path) ∧ sectionOf data "plugins" = .object plugins ∧
        plugins.get? path = some state ∧ IsActive state := by
  constructor
  · intro ok
    rcases activeIn_success data slug true ok with ⟨_,never⟩ | there
    · cases never
    · exact there
  · rintro ⟨path,plugins,state,found,table,entry,active⟩
    exact activeIn_entry data plugins slug path state true found table entry active

section Moving

variable {fresh : Value → Prop} {data data' : Table Value} (grown : Grown fresh data data')
include grown

theorem grown_path (slug path : String) (found : pathIn data slug = .ok (some path)) :
    pathIn data' slug = .ok (some path) := by
  rcases grown.plugins with same | ⟨old,new,before,after,further⟩
  · unfold pathIn at found ⊢
    rw [same]
    exact found
  · rw [pathIn_object _ _ _ before] at found
    rw [pathIn_object _ _ _ after,extends_find further slug path (Except.ok.inj found)]

theorem grown_active (slug : String) (active : activeIn data slug = .ok true) :
    activeIn data' slug = .ok true := by
  obtain ⟨path,plugins,state,found,table,entry,active⟩ := (activeIn_iff data slug).mp active
  have path' := grown_path grown slug path found
  rcases grown.plugins with same | ⟨old,new,before,after,further⟩
  · exact (activeIn_iff data' slug).mpr ⟨path,plugins,state,path',same.trans table,entry,active⟩
  · obtain rfl : plugins = old := Value.object.inj (table.symm.trans before)
    obtain ⟨state',entry',stays⟩ := extends_state further path state entry
    refine (activeIn_iff data' slug).mpr ⟨path,new,state',path',after,entry',?_⟩
    rcases stays with rfl | active'
    · exact active
    · exact active'

end Moving

end Pagewright.Host.RegistryFile
