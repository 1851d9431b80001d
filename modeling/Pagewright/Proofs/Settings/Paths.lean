import Mathlib.Data.List.Infix
import Pagewright.Proofs.Table
import Pagewright.Settings.Layers

/-! Paths through nested tables: what a look-up finds, where it stops, and what it finds after a value has been put at a
path of its own. -/
namespace Pagewright.Settings

/-- The value under a name in a table. -/
def child? : Value → String → Option Value
  | .object fields, name => Table.get? fields name
  | _, _ => none

/-- The value at a path through tables, if there is one. -/
def find? : Value → List String → Option Value
  | v, [] => some v
  | v, name :: path => (child? v name).bind fun below => find? below path

/-- Before the end of a path stands a value that is no table. -/
inductive Blocked : Value → List String → Prop
  | here (v : Value) (name : String) (path : List String) : v.isObject = false → Blocked v (name :: path)
  | deeper (v below : Value) (name : String) (path : List String) : child? v name = some below → Blocked below path →
      Blocked v (name :: path)

/-- A path leads to a table that has nothing under the next name. -/
inductive Lacks : Value → List String → Prop
  | here (v : Value) (name : String) (path : List String) : v.isObject = true → child? v name = none →
      Lacks v (name :: path)
  | deeper (v below : Value) (name : String) (path : List String) : child? v name = some below → Lacks below path →
      Lacks v (name :: path)

theorem isObject_iff (v : Value) : v.isObject = true ↔ ∃ fields, v = .object fields := by
  cases v <;> simp [Value.isObject]

theorem child?_leaf (v : Value) (leaf : v.isObject = false) (name : String) : child? v name = none := by
  cases v with
  | object fields => cases leaf
  | _ => rfl

theorem isObject_of_child? (v below : Value) (name : String) (under : child? v name = some below) :
    v.isObject = true := by
  cases table : v.isObject with
  | true => rfl
  | false =>
    rw [child?_leaf v table] at under
    cases under

theorem lookup_eq (v : Value) (path : List String) : lookup v path = (find? v path).getD .null := by
  induction path generalizing v with
  | nil => cases v <;> rfl
  | cons name path ih =>
    cases v with
    | object fields =>
      rw [lookup,ih,find?,child?]
      cases Table.get? fields name with
      | some below => rfl
      | none => cases path <;> rfl
    | _ => rfl

theorem find?_blocked (v : Value) (path : List String) (blocked : Blocked v path) : find? v path = none := by
  induction blocked with
  | here v name path leaf => rw [find?,child?_leaf v leaf,Option.bind_none]
  | deeper v below name path found _ ih => rw [find?,found,Option.bind_some,ih]

theorem find?_lacks (v : Value) (path : List String) (lacks : Lacks v path) : find? v path = none := by
  induction lacks with
  | here v name path _ absent => rw [find?,absent,Option.bind_none]
  | deeper v below name path found _ ih => rw [find?,found,Option.bind_some,ih]

/-- A path leads to a value, or stops at one that is no table, or at a table without the next name. -/
theorem find?_cases (v : Value) (path : List String) :
    (∃ found, find? v path = some found) ∨ Blocked v path ∨ Lacks v path := by
  induction path generalizing v with
  | nil => exact .inl ⟨v,rfl⟩
  | cons name path ih =>
    cases table : v.isObject with
    | false => exact .inr (.inl (.here v name path table))
    | true =>
      cases under : child? v name with
      | none => exact .inr (.inr (.here v name path table under))
      | some below =>
        obtain ⟨found,leads⟩ | blocked | lacks := ih below
        · exact .inl ⟨found,by rw [find?,under,Option.bind_some,leads]⟩
        · exact .inr (.inl (.deeper v below name path under blocked))
        · exact .inr (.inr (.deeper v below name path under lacks))

theorem not_blocked_of_lacks (v : Value) (path : List String) (lacks : Lacks v path) : ¬ Blocked v path := by
  induction lacks with
  | here v name path table absent =>
    intro blocked
    cases blocked with
    | here _ _ _ leaf => rw [table] at leaf; cases leaf
    | deeper _ below _ _ under _ => rw [absent] at under; cases under
  | deeper v below name path under _ ih =>
    intro blocked
    cases blocked with
    | here _ _ _ leaf =>
      rw [child?_leaf v leaf] at under
      cases under
    | deeper _ other _ _ under' blocked =>
      rw [under] at under'
      cases under'
      exact ih blocked

section Putting

/-- The fields of a table, or none of anything else. -/
def tableOf : Option Value → Table Value
  | some (.object below) => below
  | _ => []

/-- What stands under a name after a value has been put at a path that goes on from there. -/
def setBelow (old : Option Value) : List String → Value → Value
  | [], v => v
  | name :: path, v => .object (setAt (tableOf old) (name :: path) v)

variable (fields : Table Value) (v : Value)

theorem setAt_cons (name : String) (path : List String) :
    setAt fields (name :: path) v = fields.put name (setBelow (fields.get? name) path v) := by
  cases path <;> rfl

theorem find?_cons (name : String) (path : List String) :
    find? (.object fields) (name :: path) = (fields.get? name).bind fun below => find? below path := rfl

theorem lookup_leaf (leaf : v.isObject = false) (name : String) (path : List String) :
    lookup v (name :: path) = .null := by
  rw [lookup_eq,find?,child?_leaf v leaf]
  rfl

/-- A table that stands in for whatever there is gives no more and no less along a path of names. -/
theorem find?_tableOf (old : Option Value) (path : List String) (filled : path ≠ []) :
    find? (.object (tableOf old)) path = old.bind fun below => find? below path := by
  obtain ⟨name,rest,rfl⟩ := List.exists_cons_of_ne_nil filled
  cases old with
  | none => rfl
  | some below =>
    cases below with
    | object inner => rfl
    | _ => rfl

theorem blocked_cons_iff (name : String) (path : List String) : Blocked (.object fields) (name :: path) ↔
    ∃ below, fields.get? name = some below ∧ Blocked below path := by
  constructor
  · intro blocked
    cases blocked with
    | here _ _ _ leaf => cases leaf
    | deeper _ below _ _ under blocked => exact ⟨below,under,blocked⟩
  · rintro ⟨below,under,blocked⟩
    exact .deeper _ below name path under blocked

theorem lacks_cons_iff (name : String) (path : List String) : Lacks (.object fields) (name :: path) ↔
    fields.get? name = none ∨ ∃ below, fields.get? name = some below ∧ Lacks below path := by
  constructor
  · intro lacks
    cases lacks with
    | here _ _ _ _ absent => exact .inl absent
    | deeper _ below _ _ under lacks => exact .inr ⟨below,under,lacks⟩
  · rintro (absent | ⟨below,under,lacks⟩)
    · exact .here _ name path rfl absent
    · exact .deeper _ below name path under lacks

/-- Two paths of which none leads through the other. -/
def Apart (p q : List String) : Prop := ¬ p <+: q ∧ ¬ q <+: p

instance (p q : List String) : Decidable (Apart p q) := inferInstanceAs (Decidable (_ ∧ _))

theorem apart_append (p q behind : List String) (apart : Apart p q) : Apart p (q ++ behind) := by
  constructor
  · intro along
    rcases List.prefix_or_prefix_of_prefix along (List.prefix_append q behind) with front | front
    · exact apart.1 front
    · exact apart.2 front
  · intro along
    exact apart.2 ((List.prefix_append q behind).trans along)

/-- Paths that part are gone along together up to where their names differ. -/
theorem apart_induct {motive : ∀ p q, Apart p q → Prop}
    (differ : ∀ name path first others, first ≠ name → ∀ apart, motive (name :: path) (first :: others) apart)
    (deeper : ∀ name next path second others (inner : Apart (next :: path) (second :: others)) apart,
      motive (next :: path) (second :: others) inner → motive (name :: next :: path) (name :: second :: others) apart)
    (p q : List String) (apart : Apart p q) : motive p q apart := by
  induction p generalizing q with
  | nil => exact absurd List.nil_prefix apart.1
  | cons name path ih =>
    cases q with
    | nil => exact absurd List.nil_prefix apart.2
    | cons first others =>
      by_cases same : first = name
      · subst same
        have inner : Apart path others := by simpa [Apart,List.cons_prefix_cons] using apart
        cases path with
        | nil => exact absurd List.nil_prefix inner.1
        | cons next path =>
          cases others with
          | nil => exact absurd List.nil_prefix inner.2
          | cons second others => exact deeper first next path second others inner apart (ih _ inner)
      · exact differ name path first others same apart

theorem find?_setAt_along (path behind : List String) (filled : path ≠ []) :
    find? (.object (setAt fields path v)) (path ++ behind) = find? v behind := by
  induction path generalizing fields with
  | nil => exact absurd rfl filled
  | cons name path ih =>
    rw [setAt_cons,List.cons_append,find?_cons,Table.get?_put_self,Option.bind_some]
    cases path with
    | nil => rfl
    | cons next path => exact ih _ (List.cons_ne_nil _ _)

theorem find?_setAt_apart (path other : List String) (apart : Apart path other) :
    find? (.object (setAt fields path v)) other = find? (.object fields) other := by
  induction path, other, apart using apart_induct generalizing fields with
  | differ name path first others different =>
    rw [setAt_cons,find?_cons,find?_cons,Table.get?_put_of_ne _ _ different]
  | deeper name next path second others _ _ ih =>
    rw [setAt_cons,find?_cons,find?_cons,Table.get?_put_self,Option.bind_some,setBelow,ih,
      find?_tableOf _ _ (List.cons_ne_nil second others)]

/-- In front of the end of a path stands the table that was there, with the value at the rest of the path. -/
theorem find?_setAt_front (front : List String) (name : String) (rest : List String) :
    find? (.object (setAt fields (front ++ name :: rest) v)) front =
      some (.object (setAt (tableOf (find? (.object fields) front)) (name :: rest) v)) := by
  induction front generalizing fields with
  | nil => rfl
  | cons first front ih =>
    rw [List.cons_append,setAt_cons,find?_cons,Table.get?_put_self,Option.bind_some,find?_cons]
    obtain ⟨next,more,split⟩ := List.exists_cons_of_ne_nil (List.append_ne_nil_of_right_ne_nil front
      (List.cons_ne_nil name rest))
    rw [split,setBelow,← split,ih]
    cases front with
    | nil => cases fields.get? first with
      | none => rfl
      | some below => cases below <;> rfl
    | cons second front => rw [find?_tableOf _ _ (List.cons_ne_nil second front)]

/-- Up to where two paths part, they lead through tables only. -/
def Clear (path other : List String) : Prop := ∀ front w, front <+: path → front <+: other →
  find? (.object fields) front = some w → w.isObject = true

/-- What stands before the end of a path that parts from another one is as it was, where the two lead through tables up
to there. -/
theorem blocked_setAt_iff (path other : List String) (apart : Apart path other) (clear : Clear fields path other) :
    Blocked (.object (setAt fields path v)) other ↔ Blocked (.object fields) other := by
  induction path, other, apart using apart_induct generalizing fields with
  | differ name path first others different =>
    rw [setAt_cons,blocked_cons_iff,blocked_cons_iff,Table.get?_put_of_ne _ _ different]
  | deeper name next path second others _ _ ih =>
    have clearBelow : Clear (tableOf (fields.get? name)) (next :: path) (second :: others) := by
      intro front w along along' found
      cases front with
      | nil => cases found; rfl
      | cons third front =>
        rw [find?_tableOf _ _ (List.cons_ne_nil _ _)] at found
        exact clear (name :: third :: front) w (List.cons_prefix_cons.mpr ⟨rfl,along⟩)
          (List.cons_prefix_cons.mpr ⟨rfl,along'⟩) found
    rw [setAt_cons,blocked_cons_iff,blocked_cons_iff,Table.get?_put_self]
    simp only [Option.some.injEq,exists_eq_left',setBelow]
    rw [ih _ clearBelow]
    cases under : fields.get? name with
    | none => simp [tableOf,blocked_cons_iff,Table.get?]
    | some below =>
      have table : below.isObject = true := clear [name] below (by simp) (by simp) (by rw [find?_cons,under]; rfl)
      obtain ⟨inner,rfl⟩ := (isObject_iff below).mp table
      simp [tableOf]

theorem lacks_setAt_nil (path other : List String) (apart : Apart path other) :
    Lacks (.object (setAt [] path v)) other := by
  induction path, other, apart using apart_induct with
  | differ name path first others different =>
    rw [setAt_cons,lacks_cons_iff]
    exact .inl (Table.get?_put_of_ne [] _ different)
  | deeper name next path second others _ _ ih =>
    rw [setAt_cons,lacks_cons_iff]
    exact .inr ⟨_,Table.get?_put_self [] name _,ih⟩

/-- Behind a value that was no table and stood in front of where two paths part, the other path leads nowhere. -/
theorem lacks_setAt (path other front : List String) (w : Value) (apart : Apart path other) (along : front <+: path)
    (along' : front <+: other) (found : find? (.object fields) front = some w) (leaf : w.isObject = false) :
    Lacks (.object (setAt fields path v)) other := by
  induction path, other, apart using apart_induct generalizing fields front with
  | differ name path first others different =>
    cases front with
    | nil => cases found; cases leaf
    | cons third front =>
      obtain ⟨rfl,_⟩ := List.cons_prefix_cons.mp along
      exact absurd (List.cons_prefix_cons.mp along').1.symm different
  | deeper name next path second others inner _ ih =>
    cases front with
    | nil => cases found; cases leaf
    | cons third front =>
      obtain ⟨rfl,goes⟩ := List.cons_prefix_cons.mp along
      obtain ⟨_,goes'⟩ := List.cons_prefix_cons.mp along'
      rw [setAt_cons,lacks_cons_iff]
      refine .inr ⟨_,Table.get?_put_self fields third _,?_⟩
      rw [setBelow]
      rw [find?_cons] at found
      cases front with
      | nil =>
        obtain ⟨below,under,same⟩ := Option.bind_eq_some_iff.mp found
        cases same
        have bare : tableOf (fields.get? third) = [] := by
          rw [under]
          cases w with
          | object inner => cases leaf
          | _ => rfl
        rw [bare]
        exact lacks_setAt_nil v _ _ inner
      | cons fourth front =>
        rw [← find?_tableOf _ _ (List.cons_ne_nil fourth front)] at found
        exact ih _ _ goes goes' found

theorem lookup_setAt_along (path behind : List String) (filled : path ≠ []) :
    lookup (.object (setAt fields path v)) (path ++ behind) = lookup v behind := by
  rw [lookup_eq,find?_setAt_along fields v path behind filled,← lookup_eq]

end Putting

end Pagewright.Settings
