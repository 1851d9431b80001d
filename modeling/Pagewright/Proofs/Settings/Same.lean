import Pagewright.Proofs.Settings.Layers

/-! Values that are the same as mappings. Tables written in another order are the same tables, and settings that are made
of the same layers are the same: at a path, they hang on what the file of the user has there, and on whether a value
stands in front of it. -/
namespace Pagewright.Settings

/-- The same value, but for the order of the entries in its tables. -/
inductive Same : Value → Value → Prop
  | refl (v : Value) : Same v v
  | list (items others : List Value) : items.length = others.length →
      (∀ (i : Nat) (v w : Value), items[i]? = some v → others[i]? = some w → Same v w) →
      Same (.list items) (.list others)
  | table (fields others : Table Value) : (∀ name, fields.get? name = none ↔ others.get? name = none) →
      (∀ name v w, fields.get? name = some v → others.get? name = some w → Same v w) →
      Same (.object fields) (.object others)

section Sameness

/-- Nothing on both sides, or the same value. -/
abbrev SameOption : Option Value → Option Value → Prop := Option.Rel Same

theorem sameOption_refl (v : Option Value) : SameOption v v := by
  cases v with
  | none => exact .none
  | some v => exact .some (.refl v)

theorem same_of_fields (fields others : Table Value) (each : ∀ name, SameOption (fields.get? name) (others.get? name)) :
    Same (.object fields) (.object others) := by
  refine .table _ _ (fun name => ?_) fun name v w found found' => ?_
  · have both := each name
    generalize fields.get? name = a at both ⊢
    generalize others.get? name = b at both ⊢
    cases both <;> simp
  · have both := each name
    rw [found,found'] at both
    cases both with
    | some inner => exact inner

theorem Same.child {v w : Value} (same : Same v w) (name : String) : SameOption (child? v name) (child? w name) := by
  cases same with
  | refl => exact sameOption_refl _
  | list => exact .none
  | table fields others known each =>
    show SameOption (fields.get? name) (others.get? name)
    cases found : fields.get? name with
    | none =>
      rw [(known name).mp found]
      exact .none
    | some v =>
      cases found' : others.get? name with
      | none => rw [(known name).mpr found'] at found; cases found
      | some w => exact .some (each name v w found found')

theorem Same.isObject {v w : Value} (same : Same v w) : v.isObject = w.isObject := by
  cases same <;> rfl

theorem Same.isNull {v w : Value} (same : Same v w) : v.isNull = w.isNull := by
  cases same <;> rfl

theorem Same.symm {v w : Value} (same : Same v w) : Same w v := by
  induction same with
  | refl v => exact .refl v
  | list items others count _ ih => exact .list others items count.symm fun i v w found found' => ih i w v found' found
  | table fields others known _ ih =>
    exact .table others fields (fun name => (known name).symm) fun name v w found found' => ih name w v found' found

theorem Same.find? {v w : Value} (same : Same v w) (path : List String) : SameOption (find? v path) (find? w path) := by
  induction path generalizing v w with
  | nil => exact .some same
  | cons name path ih =>
    have below := same.child name
    unfold Settings.find?
    generalize child? v name = a at below ⊢
    generalize child? w name = b at below ⊢
    cases below with
    | none => exact .none
    | some inner => exact ih inner

theorem Same.blocked {v w : Value} (same : Same v w) (path : List String) (blocked : Blocked v path) : Blocked w path := by
  induction blocked generalizing w with
  | here v name path leaf => exact .here w name path (same.isObject ▸ leaf)
  | deeper v below name path under _ ih =>
    have both := same.child name
    rw [under] at both
    generalize found : child? w name = other at both
    cases both with
    | some inner => exact .deeper w _ name path found (ih inner)

theorem getD_same (a b : Value) (key : String) (default : Value)
    (same : SameOption (find? a (keyParts key)) (find? b (keyParts key))) :
    Same (getD a key default) (getD b key default) := by
  unfold getD
  rw [lookup_eq,lookup_eq]
  generalize find? a (keyParts key) = v at same ⊢
  generalize find? b (keyParts key) = w at same ⊢
  cases same with
  | none => exact .refl _
  | some inner =>
    rw [Option.getD_some,Option.getD_some]
    cases inner with
    | refl v => exact .refl _
    | list items others count each => exact .list items others count each
    | table fields others known each => exact .table fields others known each

end Sameness

section Putting

variable {fields others : Table Value}

theorem same_put (same : Same (.object fields) (.object others)) (name : String) (v w : Value) (value : Same v w) :
    Same (.object (fields.put name v)) (.object (others.put name w)) := by
  refine same_of_fields _ _ fun other => ?_
  by_cases here : other = name
  · subst here
    rw [Table.get?_put_self,Table.get?_put_self]
    exact .some value
  · rw [Table.get?_put_of_ne _ _ here,Table.get?_put_of_ne _ _ here]
    exact same.child other

theorem same_put_put (fields : Table Value) (name other : String) (v w : Value) (apart : other ≠ name) :
    Same (.object ((fields.put name v).put other w)) (.object ((fields.put other w).put name v)) := by
  refine same_of_fields _ _ fun key => ?_
  by_cases first : key = name
  · subst first
    rw [Table.get?_put_of_ne _ _ (Ne.symm apart),Table.get?_put_self,Table.get?_put_self]
    exact sameOption_refl _
  · rw [Table.get?_put_of_ne _ v first]
    by_cases second : key = other
    · subst second
      rw [Table.get?_put_self,Table.get?_put_self]
      exact sameOption_refl _
    · rw [Table.get?_put_of_ne _ w second,Table.get?_put_of_ne _ w second,Table.get?_put_of_ne _ v first]
      exact sameOption_refl _

theorem same_tableOf (old new : Option Value) (same : SameOption old new) :
    Same (.object (tableOf old)) (.object (tableOf new)) := by
  cases same with
  | none => exact .refl _
  | some inner =>
    cases inner with
    | refl v => exact .refl _
    | list => exact .refl _
    | table fields others known each => exact .table _ _ known each

theorem same_setAt (same : Same (.object fields) (.object others)) (path : List String) (v : Value) :
    Same (.object (setAt fields path v)) (.object (setAt others path v)) := by
  induction path generalizing fields others with
  | nil => exact same
  | cons name path ih =>
    rw [setAt_cons,setAt_cons]
    refine same_put same name _ _ ?_
    cases path with
    | nil => exact .refl v
    | cons next path => exact ih (same_tableOf _ _ (same.child name))

/-- Values at paths that part can be put in either order. -/
theorem setAt_comm (fields : Table Value) (path other : List String) (v w : Value) (apart : Apart path other) :
    Same (.object (setAt (setAt fields path v) other w)) (.object (setAt (setAt fields other w) path v)) := by
  induction path, other, apart using apart_induct generalizing fields with
  | differ name path first others different =>
    simp only [setAt_cons]
    rw [Table.get?_put_of_ne _ _ different,Table.get?_put_of_ne _ _ (Ne.symm different)]
    exact same_put_put fields name first _ _ different
  | deeper name next path second others _ _ ih =>
    simp only [setAt_cons]
    rw [Table.get?_put_self,Table.get?_put_self,Table.put_put,Table.put_put]
    exact same_put (.refl _) name _ _ (ih _)

/-- Of two values put at one path the later one counts. -/
theorem setAt_setAt (fields : Table Value) (path : List String) (v w : Value) :
    setAt (setAt fields path v) path w = setAt fields path w := by
  induction path generalizing fields with
  | nil => rfl
  | cons name path ih =>
    rw [setAt_cons,setAt_cons,setAt_cons,Table.get?_put_self,Table.put_put]
    cases path with
    | nil => rfl
    | cons next path => rw [setBelow,setBelow,setBelow,tableOf,ih]

/-- What is found at a path after a value has been put, where the same was found there before. -/
theorem find?_setAt_same (path other : List String) (v : Value) (filled : path ≠ [])
    (same : SameOption (find? (.object fields) other) (find? (.object others) other)) :
    SameOption (find? (.object (setAt fields path v)) other) (find? (.object (setAt others path v)) other) := by
  by_cases along : path <+: other
  · obtain ⟨behind,rfl⟩ := along
    rw [find?_setAt_along _ _ _ _ filled,find?_setAt_along _ _ _ _ filled]
    exact sameOption_refl _
  by_cases front : other <+: path
  · obtain ⟨rest,rfl⟩ := front
    cases rest with
    | nil =>
      rw [List.append_nil] at along
      exact absurd (List.prefix_refl other) along
    | cons name rest =>
      rw [find?_setAt_front,find?_setAt_front]
      exact .some (same_setAt (same_tableOf _ _ same) _ v)
  · rw [find?_setAt_apart _ _ _ _ ⟨along,front⟩,find?_setAt_apart _ _ _ _ ⟨along,front⟩]
    exact same

end Putting

section Overlaying

theorem isObject_overlay (old : Option Value) (v : Value) : (overlay old v).isObject = v.isObject := by
  cases table : v.isObject with
  | false => rw [overlay_leaf old v table,table]
  | true =>
    obtain ⟨fields,rfl⟩ := (isObject_iff v).mp table
    cases old with
    | none => rfl
    | some o => cases o <;> rfl

theorem same_of_children (v w : Value) (table : v.isObject = true) (table' : w.isObject = true)
    (each : ∀ name, SameOption (child? v name) (child? w name)) : Same v w := by
  obtain ⟨fields,rfl⟩ := (isObject_iff v).mp table
  obtain ⟨others,rfl⟩ := (isObject_iff w).mp table'
  exact same_of_fields fields others each

theorem sameOption_child (old new : Option Value) (same : SameOption old new) (name : String) :
    SameOption (old.bind fun o => child? o name) (new.bind fun o => child? o name) := by
  cases same with
  | none => exact .none
  | some inner => exact inner.child name

theorem overlay_same_old (w : Value) (once : KeysOnce w) (old new : Option Value) (same : SameOption old new) :
    Same (overlay old w) (overlay new w) := by
  induction once generalizing old new with
  | leaf w leaf =>
    rw [overlay_leaf _ w leaf,overlay_leaf _ w leaf]
    exact .refl w
  | @table fields apart below ih =>
    have whole : KeysOnce (.object fields) := .table apart below
    refine same_of_children _ _ (isObject_overlay old _) (isObject_overlay new _) fun name => ?_
    rw [child?_overlay old _ rfl whole,child?_overlay new _ rfl whole]
    have inner := sameOption_child old new same name
    cases found : child? (.object fields) name with
    | none => exact inner
    | some w => exact .some (ih name w found _ _ inner)

/-- What is the same covers the same: tables that are merged with others are the same again. -/
theorem overlay_same (v w : Value) (same : Same v w) (once : KeysOnce v) (once' : KeysOnce w) (old new : Option Value)
    (beneath : SameOption old new) : Same (overlay old v) (overlay new w) := by
  induction same generalizing old new with
  | refl v => exact overlay_same_old v once old new beneath
  | list items others count each => exact .list items others count each
  | table fields others known each ih =>
    refine same_of_children _ _ (isObject_overlay old _) (isObject_overlay new _) fun name => ?_
    rw [child?_overlay old _ rfl once,child?_overlay new _ rfl once']
    have inner := sameOption_child old new beneath name
    have both := (Same.table fields others known each).child name
    cases found : child? (.object fields) name with
    | none =>
      rw [found] at both
      generalize found' : child? (.object others) name = other at both
      cases both
      exact inner
    | some v =>
      rw [found] at both
      generalize found' : child? (.object others) name = other at both
      cases both with
      | some same => exact .some (ih name v _ found found' (once.child name found) (once'.child name found') _ _ inner)

end Overlaying

section Layered

theorem KeysOnce.find? {v w : Value} (once : KeysOnce v) (path : List String) (found : find? v path = some w) :
    KeysOnce w := by
  induction path generalizing v with
  | nil => cases found; exact once
  | cons name path ih =>
    obtain ⟨below,under,found⟩ := Option.bind_eq_some_iff.mp found
    exact ih (once.child name under) found

/-- The tables hold the same at a path, and the same stands in front of it. -/
structure Agree (fields others : Table Value) (path : List String) : Prop where
  same : SameOption (find? (.object fields) path) (find? (.object others) path)
  blocked : Blocked (.object fields) path ↔ Blocked (.object others) path

section Setting

variable (fields others : Table Value) (path other : List String) (v : Value)
  (same : Same (.object others) (.object (setAt fields path v))) (apart : Apart path other)
include same apart

/-- A value put at a path changes nothing at another one, where the two lead through tables up to where they part. -/
theorem agree_setAt (clear : Clear fields path other) : Agree others fields other := by
  constructor
  · rw [← find?_setAt_apart fields v path other apart]
    exact same.find? other
  · rw [← blocked_setAt_iff fields v path other apart clear]
    exact ⟨same.blocked other,same.symm.blocked other⟩

/-- A path that leads through a value that was replaced by a table leads nowhere. -/
theorem agree_replaced (obstructed : ¬ Clear fields path other) : Agree others [] other := by
  have lacks : Lacks (.object (setAt fields path v)) other := by
    simp only [Clear,not_forall] at obstructed
    obtain ⟨front,w,along,along',found,leaf⟩ := obstructed
    exact lacks_setAt fields v path other front w apart along along' found (Bool.eq_false_iff.mpr leaf)
  have empty : Lacks (.object []) other := by
    cases other with
    | nil => cases lacks
    | cons name rest => exact .here _ name rest rfl rfl
  constructor
  · have found := same.find? other
    rw [find?_lacks _ other lacks] at found
    rwa [find?_lacks _ other empty]
  · constructor
    · exact fun blocked => absurd (same.blocked other blocked) (not_blocked_of_lacks _ other lacks)
    · exact fun blocked => absurd blocked (not_blocked_of_lacks _ other empty)

end Setting

variable {fields others : Table Value} (base : Table Value) (path : List String)

/-- A layer decides no more at a path than what it has there, and whether a value stands in front of that. -/
theorem find?_merge_layer (once : KeysOnce (.object fields)) (once' : KeysOnce (.object others))
    (agree : Agree fields others path) :
    SameOption (find? (.object (merge base fields)) path) (find? (.object (merge base others)) path) := by
  show SameOption (find? (overlay (some (.object base)) (.object fields)) path)
    (find? (overlay (some (.object base)) (.object others)) path)
  have same := agree.same
  obtain ⟨v,found⟩ | stops | lacks := find?_cases (.object fields) path
  · rw [found] at same
    generalize found' : find? (.object others) path = other at same
    cases same with
    | some inner =>
      rw [find?_overlay _ _ path once _ found,find?_overlay _ _ path once' _ found']
      exact .some (overlay_same _ _ inner (once.find? path found) (once'.find? path found') _ _ (sameOption_refl _))
  · rw [find?_overlay_blocked _ _ path once stops,find?_overlay_blocked _ _ path once' (agree.blocked.mp stops)]
    exact .none
  · have lacks' : Lacks (.object others) path := by
      rw [find?_lacks _ path lacks] at same
      obtain ⟨w,found'⟩ | stops | lacks' := find?_cases (.object others) path
      · rw [found'] at same
        cases same
      · exact absurd (agree.blocked.mpr stops) (not_blocked_of_lacks _ path lacks)
      · exact lacks'
    rw [find?_overlay_lacks _ _ path once lacks,find?_overlay_lacks _ _ path once' lacks']
    exact sameOption_refl _

theorem find?_assign_same (entries : List (List String × Value)) (filled : ∀ entry ∈ entries, entry.1 ≠ [])
    (same : SameOption (find? (.object fields) path) (find? (.object others) path)) :
    SameOption (find? (.object (assign fields entries)) path) (find? (.object (assign others entries)) path) := by
  induction entries generalizing fields others with
  | nil => exact same
  | cons entry rest ih =>
    obtain ⟨first,later⟩ := List.forall_mem_cons.mp filled
    exact ih later (find?_setAt_same entry.1 path entry.2 first same)

theorem assignments_filled (environment : Table String) : ∀ entry ∈ assignments environment, entry.1 ≠ [] := by
  rintro ⟨front,v⟩ member
  obtain ⟨entry,known,rfl,_⟩ := (mem_assignments environment front v).mp member
  exact (defaults_tables entry known).1

variable (project : Table Value) (projectOnce : KeysOnce (.object project))
include projectOnce

theorem find?_merge_base (same : SameOption (find? (.object fields) path) (find? (.object others) path)) :
    SameOption (find? (.object (merge fields project)) path) (find? (.object (merge others project)) path) := by
  show SameOption (find? (overlay (some (.object fields)) (.object project)) path)
    (find? (overlay (some (.object others)) (.object project)) path)
  obtain ⟨v,found⟩ | stops | lacks := find?_cases (.object project) path
  · rw [find?_overlay _ _ path projectOnce _ found,find?_overlay _ _ path projectOnce _ found]
    exact .some (overlay_same_old v (projectOnce.find? path found) _ _ same)
  · rw [find?_overlay_blocked _ _ path projectOnce stops,find?_overlay_blocked _ _ path projectOnce stops]
    exact .none
  · rw [find?_overlay_lacks _ _ path projectOnce lacks,find?_overlay_lacks _ _ path projectOnce lacks]
    exact same

/-- At a path where two files of the user agree, the layers make the same of them. -/
theorem find?_resolve_same (once : KeysOnce (.object fields)) (once' : KeysOnce (.object others))
    (agree : Agree fields others path) (environment : Table String) :
    SameOption (find? (.object (resolve fields project environment)) path)
      (find? (.object (resolve others project environment)) path) := by
  unfold resolve
  rw [withEnvironment_eq,withEnvironment_eq]
  refine find?_assign_same path _ (assignments_filled environment) ?_
  exact find?_merge_base path project projectOnce (find?_merge_layer defaults path once once' agree)

/-- A value of the user's file that is no table is the setting, where the other layers say nothing about it. -/
theorem find?_resolve_own (once : KeysOnce (.object fields)) (v : Value) (leaf : v.isObject = false)
    (found : find? (.object fields) path = some v) (lacks : Lacks (.object project) path) (environment : Table String)
    (silent : ∀ entry ∈ assignments environment, Apart entry.1 path) :
    find? (.object (resolve fields project environment)) path = some v := by
  have whole : Value.object (merge (merge defaults fields) project) =
      overlay (some (overlay (some (.object defaults)) (.object fields))) (.object project) := rfl
  unfold resolve
  rw [withEnvironment_eq,find?_assign_apart _ _ path silent,whole,find?_overlay_lacks _ _ path projectOnce lacks,
    Option.bind_some,find?_overlay _ _ path once v found,overlay_leaf _ v leaf]

end Layered

end Pagewright.Settings
