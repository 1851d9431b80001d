import Pagewright.Proofs.Settings.Paths

/-! Which layer decides a setting. A table laid over another one hides what it has a value for, and what lies behind a
value of it that is no table; between tables the two are merged. Layer by layer, and with the environment on top, the
highest layer that says anything about a setting decides it. -/
namespace Pagewright.Settings

/-- Tables that name each key once, down to any depth. -/
inductive KeysOnce : Value → Prop
  | table {fields : Table Value} : fields.keys.Nodup → (∀ name below, fields.get? name = some below → KeysOnce below) →
      KeysOnce (.object fields)
  | leaf (v : Value) : v.isObject = false → KeysOnce v

theorem KeysOnce.child {v below : Value} (once : KeysOnce v) (name : String) (found : child? v name = some below) :
    KeysOnce below := by
  cases once with
  | table _ inner => exact inner name below found
  | leaf _ leaf =>
    rw [child?_leaf v leaf] at found
    cases found

section Merging

theorem overlay_leaf (old : Option Value) (v : Value) (leaf : v.isObject = false) : overlay old v = v := by
  cases v with
  | object fields => cases leaf
  | _ => rfl

theorem overlay_none (v : Value) : overlay none v = v := by cases v <;> rfl

theorem get?_merge_absent (fields base : Table Value) (name : String) (absent : fields.get? name = none) :
    (merge base fields).get? name = base.get? name := by
  induction fields generalizing base with
  | nil => rfl
  | cons entry rest ih =>
    obtain ⟨key,v⟩ := entry
    rw [Table.get?_cons] at absent
    by_cases same : key = name
    · rw [if_pos same] at absent
      cases absent
    · rw [if_neg same] at absent
      rw [merge,ih _ absent,Table.get?_put_of_ne _ _ (Ne.symm same)]

theorem get?_merge_present (fields base : Table Value) (once : fields.keys.Nodup) (name : String) (v : Value)
    (found : fields.get? name = some v) : (merge base fields).get? name = some (overlay (base.get? name) v) := by
  induction fields generalizing base with
  | nil => cases found
  | cons entry rest ih =>
    obtain ⟨key,first⟩ := entry
    obtain ⟨fresh,once⟩ := List.nodup_cons.mp once
    rw [Table.get?_cons] at found
    rw [merge]
    by_cases same : key = name
    · subst same
      rw [if_pos rfl] at found
      cases found
      have absent : Table.get? rest key = none := by
        rw [Option.eq_none_iff_forall_ne_some]
        exact fun w known => fresh ((Table.mem_keys_iff rest key).mpr ⟨w,known⟩)
      rw [get?_merge_absent _ _ _ absent,Table.get?_put_self]
    · rw [if_neg same] at found
      rw [ih _ once found,Table.get?_put_of_ne _ _ (Ne.symm same)]

/-- What stands under a name in a table laid over anything. -/
theorem child?_overlay (old : Option Value) (v : Value) (table : v.isObject = true) (once : KeysOnce v)
    (name : String) : child? (overlay old v) name = match child? v name with
      | some below => some (overlay (old.bind fun o => child? o name) below)
      | none => old.bind fun o => child? o name := by
  obtain ⟨fields,rfl⟩ := (isObject_iff v).mp table
  cases once with
  | leaf _ leaf => cases leaf
  | table once inner =>
  have cover : (∃ base, old = some (.object base)) ∨ (old.bind fun o => child? o name) = none ∧
      overlay old (.object fields) = .object fields := by
    cases old with
    | none => exact .inr ⟨rfl,rfl⟩
    | some o => cases o with
      | object base => exact .inl ⟨base,rfl⟩
      | _ => exact .inr ⟨rfl,rfl⟩
  -- what is no table is replaced as a whole, so that it has nothing under any name to be laid over
  obtain ⟨base,rfl⟩ | ⟨bare,kept⟩ := cover
  · change Table.get? (merge base fields) name = match Table.get? fields name with
      | some below => some (overlay (Table.get? base name) below)
      | none => Table.get? base name
    cases found : Table.get? fields name with
    | none => exact get?_merge_absent fields base name found
    | some below => exact get?_merge_present fields base once name below found
  · rw [kept,bare]
    cases found : child? (.object fields) name with
    | none => rfl
    | some below => exact congrArg some (overlay_none below).symm

theorem find?_deeper (old : Option Value) (name : String) (path : List String) :
    (old.bind fun o => find? o (name :: path)) = (old.bind fun o => child? o name).bind fun o => find? o path := by
  cases old <;> rfl

theorem find?_overlay_deeper (old : Option Value) (v below : Value) (once : KeysOnce v) (name : String)
    (path : List String) (under : child? v name = some below) :
    find? (overlay old v) (name :: path) = find? (overlay (old.bind fun o => child? o name) below) path := by
  rw [find?,child?_overlay old v (isObject_of_child? v below name under) once,under]
  rfl

variable (old : Option Value) (v : Value) (path : List String) (once : KeysOnce v)

include once in
/-- Where a table has a value, that value is laid over what the table below has there. -/
theorem find?_overlay (w : Value) (found : find? v path = some w) :
    find? (overlay old v) path = some (overlay (old.bind fun o => find? o path) w) := by
  induction path generalizing old v with
  | nil =>
    cases found
    cases old <;> rfl
  | cons name path ih =>
    rw [find?,Option.bind_eq_some_iff] at found
    obtain ⟨below,under,found⟩ := found
    rw [find?_overlay_deeper old v below once name path under,find?_deeper]
    exact ih _ below (once.child name under) found

include once in
theorem find?_overlay_blocked (blocked : Blocked v path) : find? (overlay old v) path = none := by
  induction blocked generalizing old with
  | here v name path leaf =>
    rw [overlay_leaf old v leaf]
    exact find?_blocked v _ (.here v name path leaf)
  | deeper v below name path under _ ih =>
    rw [find?_overlay_deeper old v below once name path under,ih _ (once.child name under)]

include once in
theorem find?_overlay_lacks (lacks : Lacks v path) : find? (overlay old v) path = old.bind fun o => find? o path := by
  induction lacks generalizing old with
  | here v name path table absent => rw [find?,child?_overlay old v table once,absent,find?_deeper]
  | deeper v below name path under _ ih =>
    rw [find?_overlay_deeper old v below once name path under,find?_deeper,ih _ (once.child name under)]

end Merging

/-- What a table laid over another one gives at a path: its own value, nothing where a value of its own stands in the
way, what the other one gives where it has nothing, and both together where both have a table. -/
structure Precedence (a b : Table Value) (path : List String) : Prop where
  value : ∀ v, find? (.object b) path = some v → v.isObject = false → lookup (.object (merge a b)) path = v
  blocked : Blocked (.object b) path → lookup (.object (merge a b)) path = .null
  lacking : Lacks (.object b) path → lookup (.object (merge a b)) path = lookup (.object a) path
  table : ∀ inner, find? (.object b) path = some (.object inner) →
    (∀ base, find? (.object a) path ≠ some (.object base)) → lookup (.object (merge a b)) path = .object inner
  tables : ∀ inner base, find? (.object b) path = some (.object inner) →
    find? (.object a) path = some (.object base) → lookup (.object (merge a b)) path = .object (merge base inner)

theorem merge_precedence (a b : Table Value) (path : List String) (once : KeysOnce (.object b)) :
    Precedence a b path := by
  have whole : Value.object (merge a b) = overlay (some (.object a)) (.object b) := rfl
  have leads (w : Value) (found : find? (.object b) path = some w) :
      lookup (.object (merge a b)) path = overlay (find? (.object a) path) w := by
    rw [lookup_eq,whole,find?_overlay _ _ path once w found]
    rfl
  constructor
  · intro v found leaf
    rw [leads v found,overlay_leaf _ v leaf]
  · intro blocked
    rw [lookup_eq,whole,find?_overlay_blocked _ _ path once blocked]
    rfl
  · intro lacks
    rw [lookup_eq,whole,find?_overlay_lacks _ _ path once lacks,lookup_eq]
    rfl
  · intro inner found other
    rw [leads _ found]
    cases below : find? (.object a) path with
    | none => rfl
    | some v => cases v with
      | object base => exact absurd below (other base)
      | _ => rfl
  · intro inner base found below
    rw [leads _ found,below]
    rfl

section Environment

variable (environment : Table String)

/-- The value that an environment variable gives to a setting. -/
def given? (named key : String) : Option Value :=
  match environment.get? named with
  | none => none
  | some raw => match coerce key raw with
    | .null => none
    | v => some v

/-- The values that the environment gives, each with its path. -/
def assignments : List (List String × Value) :=
  variableKeys.filterMap fun entry => (given? environment entry.1 entry.2).map fun v => (keyParts entry.2,v)

/-- A table with values at paths, put there one after the other. -/
def assign (fields : Table Value) (entries : List (List String × Value)) : Table Value :=
  entries.foldl (fun fields entry => setAt fields entry.1 entry.2) fields

theorem withEnvironment_eq (fields : Table Value) :
    withEnvironment environment fields = assign fields (assignments environment) := by
  unfold withEnvironment assign assignments
  rw [List.foldl_filterMap]
  congr 1
  funext fields ⟨named,key⟩
  dsimp only
  unfold given?
  cases environment.get? named with
  | none => rfl
  | some raw =>
    dsimp only
    cases coerce key raw <;> rfl

theorem coerce_leaf (key raw : String) : (coerce key raw).isObject = false := by
  simp only [coerce]
  repeat' split
  all_goals rfl

theorem given?_leaf (named key : String) (v : Value) (given : given? environment named key = some v) :
    v.isObject = false := by
  unfold given? at given
  split at given
  next => cases given
  next raw _ =>
    have leaf := coerce_leaf key raw
    split at given
    next => cases given
    next =>
      cases given
      exact leaf

theorem mem_assignments (path : List String) (v : Value) : (path,v) ∈ assignments environment ↔
    ∃ entry ∈ variableKeys, keyParts entry.2 = path ∧ given? environment entry.1 entry.2 = some v := by
  simp only [assignments,List.mem_filterMap,Option.map_eq_some_iff,Prod.mk.injEq]
  constructor
  · rintro ⟨entry,known,_,given,rfl,rfl⟩
    exact ⟨entry,known,rfl,given⟩
  · rintro ⟨entry,known,rfl,given⟩
    exact ⟨entry,known,v,given,rfl,rfl⟩

theorem variableKeys_apart :
    variableKeys.Pairwise fun entry other => Apart (keyParts entry.2) (keyParts other.2) := by
  decide +kernel

/-- Every setting that a variable can give has a place of its own in tables of the defaults. -/
theorem defaults_tables : ∀ entry ∈ variableKeys, keyParts entry.2 ≠ [] ∧ ∀ front ∈ (keyParts entry.2).inits,
    front ≠ keyParts entry.2 → ((find? (.object defaults) front).any Value.isObject) = true := by
  decide +kernel

theorem assignments_apart : (assignments environment).Pairwise fun entry other => Apart entry.1 other.1 := by
  refine List.Pairwise.filterMap _ (fun entry other apart a given b given' => ?_) variableKeys_apart
  obtain ⟨_,_,rfl⟩ := Option.map_eq_some_iff.mp given
  obtain ⟨_,_,rfl⟩ := Option.map_eq_some_iff.mp given'
  exact apart

theorem find?_assign_apart (entries : List (List String × Value)) (fields : Table Value) (path : List String)
    (apart : ∀ entry ∈ entries, Apart entry.1 path) :
    find? (.object (assign fields entries)) path = find? (.object fields) path := by
  induction entries generalizing fields with
  | nil => rfl
  | cons entry rest ih =>
    rw [List.forall_mem_cons] at apart
    exact (ih _ apart.2).trans (find?_setAt_apart fields entry.2 entry.1 path apart.1)

theorem lookup_assign_apart (entries : List (List String × Value)) (fields : Table Value) (path : List String)
    (apart : ∀ entry ∈ entries, Apart entry.1 path) :
    lookup (.object (assign fields entries)) path = lookup (.object fields) path := by
  rw [lookup_eq,find?_assign_apart entries fields path apart,← lookup_eq]

theorem lookup_assign_along (entries : List (List String × Value)) (fields : Table Value)
    (apart : entries.Pairwise fun entry other => Apart entry.1 other.1) (path behind : List String) (v : Value)
    (among : (path,v) ∈ entries) (filled : path ≠ []) :
    lookup (.object (assign fields entries)) (path ++ behind) = lookup v behind := by
  induction entries generalizing fields with
  | nil => cases among
  | cons entry rest ih =>
    obtain ⟨first,apart⟩ := List.pairwise_cons.mp apart
    rcases List.mem_cons.mp among with rfl | among
    · refine (lookup_assign_apart rest _ _ fun other member => ?_).trans
        (lookup_setAt_along fields v path behind filled)
      exact apart_append other.1 path behind (first other member).symm
    · exact ih _ apart among

/-- What the environment says about a path: the value that it gives there, or nothing behind a value that it gives. -/
inductive EnvironmentRules (path : List String) : Value → Prop
  | value (named key : String) (v : Value) : (named,key) ∈ variableKeys → given? environment named key = some v →
      path = keyParts key → EnvironmentRules path v
  | blocked (named key name : String) (v : Value) (behind : List String) : (named,key) ∈ variableKeys →
      given? environment named key = some v → path = keyParts key ++ name :: behind → EnvironmentRules path .null

theorem environment_rules (fields : Table Value) (path : List String) (v : Value)
    (rules : EnvironmentRules environment path v) :
    lookup (.object (withEnvironment environment fields)) path = v := by
  rw [withEnvironment_eq]
  have along (named key : String) (v : Value) (behind : List String) (known : (named,key) ∈ variableKeys)
      (given : given? environment named key = some v) :
      lookup (.object (assign fields (assignments environment))) (keyParts key ++ behind) = lookup v behind :=
    lookup_assign_along _ fields (assignments_apart environment) _ behind v
      ((mem_assignments environment _ v).mpr ⟨_,known,rfl,given⟩) (defaults_tables _ known).1
  cases rules with
  | value named key v known given same =>
    rw [same,← List.append_nil (keyParts key),along named key v [] known given,lookup]
  | blocked named key name w behind known given same =>
    rw [same,along named key w _ known given,lookup_leaf w (given?_leaf environment named key w given)]

theorem environment_silent (fields : Table Value) (path : List String)
    (silent : ∀ v, ¬ EnvironmentRules environment path v)
    (bare : ∀ inner, find? (.object defaults) path ≠ some (.object inner)) :
    lookup (.object (withEnvironment environment fields)) path = lookup (.object fields) path := by
  rw [withEnvironment_eq]
  refine lookup_assign_apart _ fields path fun ⟨front,v⟩ member => ?_
  obtain ⟨⟨named,key⟩,known,rfl,given⟩ := (mem_assignments environment front v).mp member
  constructor
  · rintro ⟨behind,rfl⟩
    cases behind with
    | nil => exact silent v (.value named key v known given (List.append_nil _))
    | cons name behind => exact silent .null (.blocked named key name v behind known given rfl)
  · intro along
    by_cases whole : path = keyParts key
    · exact silent v (.value named key v known given whole)
    · -- a setting of the environment lies behind the path, where the defaults have a table
      have table := (defaults_tables _ known).2 path ((List.mem_inits path _).mpr along) whole
      obtain ⟨w,found,table⟩ := (Option.any_eq_true _ _).mp table
      obtain ⟨inner,rfl⟩ := (isObject_iff w).mp table
      exact absurd found (bare inner)

end Environment

section Deciding

/-- What a table says about a path: its value there, or nothing behind a value that is no table. -/
inductive Rules (layer : Table Value) (path : List String) : Value → Prop
  | value (v : Value) : find? (.object layer) path = some v → v.isObject = false → Rules layer path v
  | blocked : Blocked (.object layer) path → Rules layer path .null

/-- What the first of some layers says that says anything. -/
inductive Decided : List (Value → Prop) → Value → Prop
  | nothing : Decided [] .null
  | first (layer : Value → Prop) (lower : List (Value → Prop)) (v : Value) : layer v → Decided (layer :: lower) v
  | later (layer : Value → Prop) (lower : List (Value → Prop)) (v : Value) : (∀ w, ¬ layer w) → Decided lower v →
      Decided (layer :: lower) v

theorem decided_nil (v : Value) : Decided [] v ↔ .null = v := by
  constructor
  · rintro ⟨⟩
    rfl
  · rintro rfl
    exact .nothing

theorem decided_cons (layer : Value → Prop) (lower : List (Value → Prop)) (found beneath : Value)
    (rules : ∀ v, layer v → found = v) (silent : (∀ v, ¬ layer v) → found = beneath)
    (below : ∀ v, Decided lower v ↔ beneath = v) (v : Value) : Decided (layer :: lower) v ↔ found = v := by
  constructor
  · intro decided
    cases decided with
    | first _ _ _ ruled => exact rules v ruled
    | later _ _ _ nothing decided => exact (silent nothing).trans ((below v).mp decided)
  · rintro rfl
    by_cases ruled : ∃ w, layer w
    · obtain ⟨w,ruled⟩ := ruled
      exact .first _ _ _ (by rwa [rules w ruled])
    · have nothing : ∀ w, ¬ layer w := not_exists.mp ruled
      exact .later _ _ _ nothing ((below _).mpr (silent nothing).symm)

variable (layer base : Table Value) (path : List String)

theorem lacks_of_silent (silent : ∀ v, ¬ Rules layer path v)
    (bare : ∀ inner, find? (.object layer) path ≠ some (.object inner)) : Lacks (.object layer) path := by
  obtain ⟨v,found⟩ | blocked | lacks := find?_cases (.object layer) path
  · cases table : v.isObject with
    | true =>
      obtain ⟨inner,rfl⟩ := (isObject_iff v).mp table
      exact absurd found (bare inner)
    | false => exact absurd (.value v found table) (silent v)
  · exact absurd (.blocked blocked) (silent .null)
  · exact lacks

theorem merge_rules (once : KeysOnce (.object layer)) (v : Value) (rules : Rules layer path v) :
    lookup (.object (merge base layer)) path = v := by
  have law := merge_precedence base layer path once
  cases rules with
  | value _ found leaf => exact law.value v found leaf
  | blocked blocked => exact law.blocked blocked

theorem defaults_rules (v : Value) (rules : Rules defaults path v) : lookup (.object defaults) path = v := by
  rw [lookup_eq]
  cases rules with
  | value _ found _ => rw [found,Option.getD_some]
  | blocked blocked => rw [find?_blocked _ path blocked,Option.getD_none]

end Deciding

/-- A table laid over another one takes precedence over it, path by path. A setting for which no layer has a table is
decided by the highest layer that has a value for it, which is then its value, or a value in front of it that is no
table, so that it has none. -/
theorem highest_layer_decides :
    (∀ (a b : Table Value) (key : String), KeysOnce (.object b) → Precedence a b (keyParts key)) ∧
    ∀ (user project : Table Value) (environment : Table String) (key : String),
      KeysOnce (.object user) → KeysOnce (.object project) →
      (∀ layer ∈ [defaults,user,project], ∀ inner, find? (.object layer) (keyParts key) ≠ some (.object inner)) →
      ∀ v, Decided [EnvironmentRules environment (keyParts key),Rules project (keyParts key),Rules user (keyParts key),
          Rules defaults (keyParts key)] v ↔
        lookup (.object (resolve user project environment)) (keyParts key) = v := by
  constructor
  · exact fun a b key once => merge_precedence a b (keyParts key) once
  · intro user project environment key userOnce projectOnce bare
    generalize keyParts key = path at bare ⊢
    have bareDefaults := bare defaults (by simp)
    have bareUser := bare user (by simp)
    have bareProject := bare project (by simp)
    refine decided_cons _ _ _ _ (environment_rules environment _ path)
      (fun silent => environment_silent environment _ path silent bareDefaults) ?_
    refine decided_cons _ _ _ _ (merge_rules project _ path projectOnce) (fun silent =>
      (merge_precedence _ project path projectOnce).lacking (lacks_of_silent project path silent bareProject)) ?_
    refine decided_cons _ _ _ _ (merge_rules user _ path userOnce) (fun silent =>
      (merge_precedence _ user path userOnce).lacking (lacks_of_silent user path silent bareUser)) ?_
    refine decided_cons _ _ _ _ (defaults_rules path) (fun silent => ?_) decided_nil
    rw [lookup_eq,find?_lacks _ path (lacks_of_silent defaults path silent bareDefaults),Option.getD_none]

/-- A file with a number where the defaults have a table. -/
def numberedArchive : Table Value := [("archive",.int 5)]

theorem numberedArchive_once : KeysOnce (.object numberedArchive) := by
  refine .table (by decide) fun name below found => ?_
  unfold numberedArchive at found
  rw [Table.get?_cons] at found
  split at found
  · cases found
    exact .leaf _ rfl
  · cases found

/-- Behind the number nothing is found, though the environment puts a table there for another setting. -/
theorem numberedArchive_decides :
    Precedence defaults numberedArchive (keyParts "archive.max_size_mb") ∧
    Rules numberedArchive (keyParts "archive.max_size_mb") .null ∧
    Decided [EnvironmentRules [("L2WP_TEMP_DIR","/tmp/a")] (keyParts "archive.max_size_mb"),
      Rules [] (keyParts "archive.max_size_mb"),Rules numberedArchive (keyParts "archive.max_size_mb"),
      Rules defaults (keyParts "archive.max_size_mb")] .null ∧
    lookup (.object (resolve numberedArchive [] [("L2WP_TEMP_DIR","/tmp/a")])) (keyParts "archive.temp_dir") =
      .str "/tmp/a" := by
  have path : keyParts "archive.max_size_mb" = ["archive","max_size_mb"] := by decide +kernel
  have blocked : Blocked (.object numberedArchive) ["archive","max_size_mb"] :=
    .deeper _ (.int 5) _ _ rfl (.here _ _ _ rfl)
  have empty : KeysOnce (.object []) := .table List.nodup_nil fun _ _ found => by cases found
  have bare : ∀ layer ∈ [defaults,numberedArchive,[]], ∀ inner,
      find? (.object layer) (keyParts "archive.max_size_mb") ≠ some (.object inner) := by
    rw [path]
    rintro layer among inner found
    simp only [List.mem_cons,List.not_mem_nil,or_false] at among
    rcases among with rfl | rfl | rfl <;> cases found
  refine ⟨highest_layer_decides.1 _ _ _ numberedArchive_once,by rw [path]; exact .blocked blocked,?_,?_⟩
  · refine (highest_layer_decides.2 numberedArchive [] _ _ numberedArchive_once empty bare .null).mpr ?_
    rfl
  · rfl

end Pagewright.Settings
