import Pagewright.Table

/-! Which keys a table knows, and what putting a value does to the entries. -/
namespace Pagewright.Table

variable {α : Type} (t : Table α)

theorem get?_cons (name key : String) (value : α) (rest : Table α) :
    get? ((name,value) :: rest) key = if name = key then some value else get? rest key := by
  unfold get?
  rw [List.lookup_cons]
  by_cases same : name = key
  · simp [same]
  · have other : (key == name) = false := by simp [Ne.symm same]
    rw [other,if_neg same]

theorem mem_of_get? (key : String) (v : α) (found : t.get? key = some v) : (key,v) ∈ t := by
  obtain ⟨before,after,rfl,_⟩ := List.lookup_eq_some_iff.mp found
  simp

theorem get?_of_mem (once : t.keys.Nodup) (key : String) (v : α) (member : (key,v) ∈ t) : t.get? key = some v := by
  induction t with
  | nil => cases member
  | cons entry rest ih =>
    obtain ⟨name,value⟩ := entry
    obtain ⟨fresh,once⟩ := List.nodup_cons.mp once
    rw [get?_cons]
    obtain same | later := List.mem_cons.mp member
    · cases same
      exact if_pos rfl
    · have different : name ≠ key := by
        rintro rfl
        exact fresh (List.mem_map.mpr ⟨(name,v),later,rfl⟩)
      rw [if_neg different]
      exact ih once later

/-- Entries in another order are found under the same keys. -/
theorem get?_perm (u : Table α) (perm : t.Perm u) (once : t.keys.Nodup) (key : String) : t.get? key = u.get? key := by
  have once' : u.keys.Nodup := (perm.map Prod.fst).nodup_iff.mp once
  refine Option.ext fun v => ⟨fun found => ?_,fun found => ?_⟩
  · exact get?_of_mem u once' key v (perm.mem_iff.mp (mem_of_get? t key v found))
  · exact get?_of_mem t once key v (perm.mem_iff.mpr (mem_of_get? u key v found))

theorem mem_keys_iff (key : String) : key ∈ t.keys ↔ ∃ v, t.get? key = some v := by
  induction t with
  | nil => simp [keys]
  | cons entry rest ih =>
    obtain ⟨name,value⟩ := entry
    unfold keys at ih ⊢
    rw [List.map_cons,List.mem_cons,ih,get?_cons]
    by_cases same : name = key
    · simp [same]
    · simp [same,Ne.symm same]

theorem has_iff (key : String) : t.has key = true ↔ ∃ v, t.get? key = some v := by
  rw [← mem_keys_iff]
  simp [has,keys]

theorem get?_putNew_self (key : String) (value : α) : ∃ v, (t.putNew key value).get? key = some v := by
  unfold putNew
  split
  next known => exact (has_iff t key).mp known
  next => exact (has_iff _ key).mp (by simp [has])

theorem get?_putNew_some (key name : String) (value v : α) (found : t.get? name = some v) :
    (t.putNew key value).get? name = some v := by
  unfold putNew
  split
  · exact found
  · unfold get? at found ⊢
    rw [List.lookup_append,found]
    rfl

theorem put_put (key : String) (value later : α) : (t.put key value).put key later = t.put key later := by
  induction t with
  | nil => simp [put]
  | cons entry rest ih =>
    by_cases same : entry.1 = key
    · simp [put,same]
    · simp [put,same,ih]

theorem mem_keys_put (key name : String) (value : α) :
    name ∈ (t.put key value).keys ↔ name = key ∨ name ∈ t.keys := by
  rw [mem_keys_iff,mem_keys_iff]
  by_cases same : name = key
  · subst same
    simp [get?_put_self]
  · simp [get?_put_of_ne t value same,same]

theorem mem_put (key : String) (value : α) (entry : String × α) (member : entry ∈ t.put key value) :
    entry = (key,value) ∨ entry ∈ t := by
  induction t with
  | nil => exact .inl (List.mem_singleton.mp member)
  | cons first rest ih =>
    rw [put] at member
    split at member
    · obtain same | later := List.mem_cons.mp member
      · exact .inl same
      · exact .inr (List.mem_cons_of_mem first later)
    · obtain rfl | later := List.mem_cons.mp member
      · exact .inr List.mem_cons_self
      · exact (ih later).imp_right (List.mem_cons_of_mem first)

/-- Putting a value under a key keeps the keys apart. -/
theorem nodup_put (key : String) (value : α) (apart : t.keys.Nodup) : (t.put key value).keys.Nodup := by
  induction t with
  | nil => simp [put,keys]
  | cons first rest ih =>
    obtain ⟨fresh,apart⟩ := List.nodup_cons.mp apart
    rw [put]
    split
    next same =>
      have same : first.1 = key := beq_iff_eq.mp same
      exact List.nodup_cons.mpr ⟨same ▸ fresh,apart⟩
    next other =>
      refine List.nodup_cons.mpr ⟨fun inside => ?_,ih apart⟩
      obtain same | old := (mem_keys_put rest key first.1 value).mp inside
      · exact other (beq_iff_eq.mpr same)
      · exact fresh old

section Mapping

variable {β : Type} (f : α → β)

theorem keys_mapValues : (t.mapValues f).keys = t.keys := by
  simp [mapValues,keys]

theorem get?_mapValues (key : String) : (t.mapValues f).get? key = (t.get? key).map f := by
  induction t with
  | nil => rfl
  | cons entry rest ih =>
    obtain ⟨name,value⟩ := entry
    have head : mapValues f ((name,value) :: rest) = (name,f value) :: mapValues f rest := rfl
    rw [head,get?_cons,get?_cons,ih]
    split <;> rfl

end Mapping

end Pagewright.Table
