import Pagewright.Proofs.Except
import Pagewright.Proofs.Settings.Same
import Pagewright.Proofs.Value
import Pagewright.Toml.Reader

/-! Values that a settings file can store: every table names each key once, and nothing is null. Such a table is written
as a whole, and read back as the same table; and whatever text a file holds, what is read from it is such a table. -/
namespace Pagewright.Settings

/-- A value that settings can hold: nothing in it is null, and its tables name each key once. -/
inductive Storable : Value → Prop
  | leaf (v : Value) : v.isNull = false → v.isList = false → v.isObject = false → Storable v
  | list (items : List Value) : (∀ v ∈ items, Storable v) → Storable (.list items)
  | table (fields : Table Value) : fields.keys.Nodup → (∀ entry ∈ fields, Storable entry.2) → Storable (.object fields)

section Storing

theorem Storable.once {v : Value} (storable : Storable v) : KeysOnce v := by
  induction storable with
  | leaf v _ _ leaf => exact .leaf v leaf
  | list items => exact .leaf _ rfl
  | table fields once _ ih =>
    exact .table once fun name below found => ih (name,below) (Table.mem_of_get? fields name below found)

theorem Storable.filled {v : Value} (storable : Storable v) : v.isNull = false := by
  cases storable with
  | leaf _ filled _ _ => exact filled
  | _ => rfl

theorem Storable.fields {fields : Table Value} (storable : Storable (.object fields)) :
    fields.keys.Nodup ∧ ∀ entry ∈ fields, Storable entry.2 := by
  cases storable with
  | leaf _ _ _ leaf => cases leaf
  | table _ once each => exact ⟨once,each⟩

theorem Storable.items {items : List Value} (storable : Storable (.list items)) : ∀ v ∈ items, Storable v := by
  cases storable with
  | leaf _ _ noList _ => cases noList
  | list _ each => exact each

theorem storable_empty : Storable (.object []) := .table [] List.nodup_nil fun _ member => by cases member

theorem storable_get? (fields : Table Value) (storable : Storable (.object fields)) (name : String) (v : Value)
    (found : fields.get? name = some v) : Storable v := storable.fields.2 _ (Table.mem_of_get? fields name v found)

theorem storable_put (fields : Table Value) (storable : Storable (.object fields)) (name : String) (v : Value)
    (proper : Storable v) : Storable (.object (fields.put name v)) := by
  refine .table _ (Table.nodup_put fields name _ storable.fields.1) fun entry member => ?_
  obtain rfl | old := Table.mem_put fields name _ entry member
  · exact proper
  · exact storable.fields.2 entry old

theorem storable_tableOf (fields : Table Value) (storable : Storable (.object fields)) (name : String) :
    Storable (.object (tableOf (fields.get? name))) := by
  cases found : fields.get? name with
  | none => exact storable_empty
  | some below =>
    cases below with
    | object inner => exact storable_get? fields storable name _ found
    | _ => exact storable_empty

theorem storable_setAt (fields : Table Value) (storable : Storable (.object fields)) (path : List String) (v : Value)
    (proper : Storable v) : Storable (.object (setAt fields path v)) := by
  induction path generalizing fields with
  | nil => exact storable
  | cons name path ih =>
    rw [setAt_cons]
    refine storable_put fields storable name _ ?_
    cases path with
    | nil => exact proper
    | cons next path => exact ih _ (storable_tableOf fields storable name)

end Storing

section Printing
open Toml

/-- A value that has a form after an equals sign and in arrays. -/
def Writes (v : Value) : Prop := ∀ depth, ∃ text, literal depth v = .ok text

theorem literals_ok (items : List Value) (each : ∀ v ∈ items, Writes v) (depth : Nat) :
    ∃ texts, literals depth items = .ok texts := by
  induction items with
  | nil => exact ⟨[],rfl⟩
  | cons v rest ih =>
    obtain ⟨here,later⟩ := List.forall_mem_cons.mp each
    obtain ⟨text,first⟩ := here depth
    obtain ⟨texts,others⟩ := ih later
    exact ⟨text :: texts,by simp only [literals,first,others,bind,Except.bind,pure,Except.pure]⟩

theorem inlineFields_ok (fields : Table Value) (each : ∀ entry ∈ fields, Writes entry.2) :
    ∃ texts, inlineFields fields = .ok texts := by
  induction fields with
  | nil => exact ⟨[],rfl⟩
  | cons entry rest ih =>
    obtain ⟨here,later⟩ := List.forall_mem_cons.mp each
    obtain ⟨text,first⟩ := here 0
    obtain ⟨texts,others⟩ := ih later
    exact ⟨_,by simp only [inlineFields,first,others,bind,Except.bind,pure,Except.pure]; rfl⟩

theorem Storable.writes {v : Value} (storable : Storable v) : Writes v := by
  induction storable with
  | leaf v filled noList noTable =>
    intro depth
    cases v with
    | null => cases filled
    | list => cases noList
    | object => cases noTable
    | _ => exact ⟨_,rfl⟩
  | list items _ ih =>
    intro depth
    cases items with
    | nil => exact ⟨_,rfl⟩
    | cons first rest =>
      obtain ⟨texts,written⟩ := literals_ok _ ih (depth + 1)
      exact ⟨_,by simp only [literal,written,bind,Except.bind]; rfl⟩
  | table fields _ _ ih =>
    intro depth
    obtain ⟨texts,written⟩ := inlineFields_ok fields ih
    exact ⟨_,by simp only [literal,written,bind,Except.bind]; rfl⟩

theorem fields?_mapM (items : List Value) (tables : List (Table Value)) (all : items.mapM Value.fields? = some tables) :
    items = tables.map Value.object := by
  induction items generalizing tables with
  | nil =>
    cases all
    rfl
  | cons v rest ih =>
    simp only [List.mapM_cons,Option.bind_eq_bind,Option.bind_eq_some_iff,Option.pure_def,Option.some.injEq] at all
    obtain ⟨fields,here,others,later,rfl⟩ := all
    cases v with
    | object own =>
      cases here
      rw [ih others later,List.map_cons]
    | _ => cases here

theorem tablesOf?_eq (items : List Value) (tables : List (Table Value)) (listed : tablesOf? (.list items) = some tables) :
    items = tables.map Value.object := by
  cases items with
  | nil => cases listed
  | cons first rest => exact fields?_mapM _ tables listed

theorem fitsLine_ok (tables : List (Table Value)) (each : ∀ fields ∈ tables, Writes (.object fields)) :
    ∃ fits, tables.allM fitsLine = .ok fits := by
  induction tables with
  | nil => exact ⟨true,rfl⟩
  | cons fields rest ih =>
    obtain ⟨here,later⟩ := List.forall_mem_cons.mp each
    obtain ⟨text,written⟩ := here 0
    obtain ⟨fits,others⟩ := ih later
    have line : ∃ b, fitsLine fields = .ok b := ⟨_,by simp only [fitsLine,written,bind,Except.bind]; rfl⟩
    obtain ⟨b,line⟩ := line
    cases b with
    | false => exact ⟨false,by simp only [List.allM,line,bind,Except.bind]; rfl⟩
    | true => exact ⟨fits,by simp only [List.allM,line,bind,Except.bind]; exact others⟩

/-- A table falls into entries that can be written and tables that can be stored and are less deep. -/
theorem partition_ok (fields : Table Value) (each : ∀ entry ∈ fields, Storable entry.2) : ∃ scalars tables,
    partition fields = .ok (scalars,tables) ∧ (∀ entry ∈ scalars, Writes entry.2) ∧ ∀ sub ∈ tables,
      Storable (.object sub.fields) ∧ (Value.object sub.fields).depth ≤ Value.depthOfFields fields := by
  induction fields with
  | nil => exact ⟨[],[],rfl,by simp,by simp⟩
  | cons entry rest ih =>
    obtain ⟨name,v⟩ := entry
    obtain ⟨here,later⟩ := List.forall_mem_cons.mp each
    obtain ⟨scalars,tables,split,writes,subs⟩ := ih later
    have deeper (sub : SubTable) (member : sub ∈ tables) : Storable (.object sub.fields) ∧
        (Value.object sub.fields).depth ≤ Value.depthOfFields ((name,v) :: rest) :=
      ⟨(subs sub member).1,(subs sub member).2.trans (Nat.le_max_right _ _)⟩
    have scalar (plain : partition ((name,v) :: rest) = .ok ((name,v) :: scalars,tables)) : ∃ scalars tables,
        partition ((name,v) :: rest) = .ok (scalars,tables) ∧ (∀ entry ∈ scalars, Writes entry.2) ∧ ∀ sub ∈ tables,
          Storable (.object sub.fields) ∧ (Value.object sub.fields).depth ≤ Value.depthOfFields ((name,v) :: rest) :=
      ⟨_,_,plain,List.forall_mem_cons.mpr ⟨here.writes,writes⟩,deeper⟩
    cases v with
    | object inner =>
      refine ⟨scalars,⟨name,inner,false⟩ :: tables,?_,writes,List.forall_mem_cons.mpr ⟨⟨here,?_⟩,deeper⟩⟩
      · simp only [partition,tablesOf?,split,bind,Except.bind,pure,Except.pure]
      · exact Nat.le_max_left _ _
    | list items =>
      cases listed : tablesOf? (.list items) with
      | none => exact scalar (by simp [partition,listed,split,bind,Except.bind,pure,Except.pure])
      | some found =>
        have same := tablesOf?_eq items found listed
        have stored (inner : Table Value) (member : inner ∈ found) : Storable (.object inner) ∧
            (Value.object inner).depth ≤ Value.depthOfFields ((name,.list items) :: rest) := by
          have inside : Value.object inner ∈ items := same ▸ List.mem_map_of_mem member
          refine ⟨here.items _ inside,(depth_item items _ inside).trans ?_⟩
          exact (Nat.le_succ _).trans (Nat.le_max_left _ _)
        obtain ⟨fits,answer⟩ := fitsLine_ok found fun inner member => (stored inner member).1.writes
        cases fits with
        | true => exact scalar (by
            simp only [partition,listed,answer,split,bind,Except.bind,pure,Except.pure,if_true,List.isEmpty_nil])
        | false =>
          cases found with
          | nil => cases answer
          | cons first others =>
            refine ⟨scalars,(first :: others).map (⟨name,·,true⟩) ++ tables,?_,writes,fun sub member => ?_⟩
            · simp only [partition,listed,answer,split,bind,Except.bind,pure,Except.pure,Bool.false_eq_true,if_false,
                List.isEmpty_cons]
            · obtain array | below := List.mem_append.mp member
              · obtain ⟨inner,among,rfl⟩ := List.mem_map.mp array
                exact stored inner among
              · exact deeper sub below
    | _ => exact scalar (by simp [partition,tablesOf?,split,bind,Except.bind,pure,Except.pure])

/-- Printing that goes through, whatever has been printed before. -/
def Prints {α : Type} (printing : Printing α) : Prop := ∀ printed, ∃ a text, printing.run.run printed = (.ok a,text)

theorem prints_pure {α : Type} (a : α) : Prints (pure a) := fun printed => ⟨a,printed,rfl⟩

theorem prints_emit (text : String) : Prints (emit text) := fun printed => ⟨(),printed ++ text,rfl⟩

theorem prints_lift {α : Type} (r : Except Fault α) (ok : ∃ a, r = .ok a) : Prints (liftM r : Printing α) := by
  obtain ⟨a,rfl⟩ := ok
  exact fun printed => ⟨a,printed,rfl⟩

theorem prints_bind {α β : Type} (printing : Printing α) (next : α → Printing β) (first : Prints printing)
    (rest : ∀ a, Prints (next a)) : Prints (printing >>= next) := by
  intro printed
  obtain ⟨a,text,ran⟩ := first printed
  rw [run_bind,ran]
  exact rest a text

theorem prints_ite {α : Type} (c : Prop) [Decidable c] (one two : Printing α) (first : Prints one) (second : Prints two) :
    Prints (if c then one else two) := by
  split
  · exact first
  · exact second

theorem prints_forM {α : Type} (items : List α) (f : α → Printing Unit) (each : ∀ a ∈ items, Prints (f a)) :
    Prints (items.forM f) := by
  induction items with
  | nil => exact prints_pure ()
  | cons a rest ih =>
    obtain ⟨here,later⟩ := List.forall_mem_cons.mp each
    show Prints (f a >>= fun _ => rest.forM f)
    exact prints_bind _ _ here fun _ => ih later

/-- A table that can be stored is printed with as much fuel as it is deep. -/
theorem printTable_prints (fuel : Nat) (name : String) (inArray : Bool) (fields : Table Value)
    (storable : Storable (.object fields)) (enough : (Value.object fields).depth ≤ fuel) :
    Prints (printTable fuel name inArray fields) := by
  induction fuel generalizing name inArray fields with
  | zero => exact absurd enough (by simp [Value.depth])
  | succ fuel ih =>
    obtain ⟨scalars,tables,split,writes,subs⟩ := partition_ok fields storable.fields.2
    unfold printTable
    have known : (liftM (partition fields) : Printing _) = pure (scalars,tables) := by rw [split]; rfl
    rw [known,pure_bind]
    dsimp only
    refine prints_bind _ _ (prints_emit _) fun _ => ?_
    refine prints_bind _ _ (prints_forM _ _ fun entry member => ?_) fun _ => ?_
    · exact prints_bind _ _ (prints_lift _ (writes entry member 0)) fun _ => prints_emit _
    · refine prints_forM _ _ ?_
      rintro ⟨sub,position⟩ member
      obtain ⟨stored,less⟩ := subs sub (List.fst_mem_of_mem_zipIdx member)
      rw [Value.depth] at enough
      have table (full : String) : Prints (printTable fuel full sub.inArray sub.fields) :=
        ih full sub.inArray sub.fields stored (less.trans (Nat.le_of_succ_le_succ enough))
      exact prints_ite _ _ _ (prints_bind _ _ (prints_emit _) fun _ => table _) (table _)

/-- A table that can be stored is printed as a whole. -/
theorem print_whole (fields : Table Value) (storable : Storable (.object fields)) :
    ∃ text, print fields = (text,none) := by
  obtain ⟨_,text,ran⟩ := printTable_prints _ "" false fields storable (Nat.le_refl _) ""
  refine ⟨text,?_⟩
  unfold print
  have same : (printTable (Value.object fields).depth "" false fields).run "" =
      (printTable (Value.object fields).depth "" false fields).run.run "" := rfl
  rw [same,ran]

end Printing

section Arranging
open Toml

theorem arrangedItems_eq (items : List Value) : arrangedItems items = items.map arranged := by
  induction items with
  | nil => rfl
  | cons v rest ih => rw [arrangedItems,ih,List.map_cons]

theorem arrangedFields_eq (fields : Table Value) : arrangedFields fields = fields.mapValues arranged := by
  induction fields with
  | nil => rfl
  | cons entry rest ih =>
    rw [arrangedFields,ih]
    rfl

theorem scalarsFirst_perm (fields : Table Value) : (scalarsFirst fields).Perm fields :=
  List.perm_append_comm.trans (List.filter_append_perm (standsBelow ·.2) fields)

theorem arranged_once (fields : Table Value) (once : fields.keys.Nodup) :
    (scalarsFirst (fields.mapValues arranged)).keys.Nodup := by
  have keys := (scalarsFirst_perm (fields.mapValues arranged)).map Prod.fst
  refine keys.nodup_iff.mpr ?_
  show (fields.mapValues arranged).keys.Nodup
  rwa [Table.keys_mapValues]

theorem arranged_leaf (v : Value) (noList : v.isList = false) (noTable : v.isObject = false) : arranged v = v := by
  cases v with
  | list => cases noList
  | object => cases noTable
  | _ => rfl

/-- A table is read back from its text as the same table. -/
theorem Storable.arranged_same {v : Value} (storable : Storable v) : Same (arranged v) v := by
  induction storable with
  | leaf v _ noList noTable =>
    rw [arranged_leaf v noList noTable]
    exact .refl v
  | list items _ ih =>
    rw [arranged]
    split
    · rw [arrangedItems_eq]
      refine .list _ _ (List.length_map _) fun i v w found found' => ?_
      rw [List.getElem?_map,found',Option.map_some] at found
      cases found
      exact ih w (List.mem_of_getElem? found')
    · exact .refl _
  | table fields once _ ih =>
    rw [arranged,arrangedFields_eq]
    refine same_of_fields _ _ fun name => ?_
    have once' : (scalarsFirst (fields.mapValues arranged)).keys.Nodup := arranged_once fields once
    rw [Table.get?_perm _ _ (scalarsFirst_perm _) once',Table.get?_mapValues]
    cases found : fields.get? name with
    | none => exact .none
    | some below => exact .some (ih (name,below) (Table.mem_of_get? fields name below found))

theorem Storable.arranged {v : Value} (storable : Storable v) : Storable (arranged v) := by
  induction storable with
  | leaf v filled noList noTable =>
    rw [arranged_leaf v noList noTable]
    exact .leaf v filled noList noTable
  | list items each ih =>
    rw [Toml.arranged]
    split
    · rw [arrangedItems_eq]
      refine .list _ fun v member => ?_
      obtain ⟨w,inside,rfl⟩ := List.mem_map.mp member
      exact ih w inside
    · exact .list items each
  | table fields once _ ih =>
    rw [Toml.arranged,arrangedFields_eq]
    refine .table _ (arranged_once fields once) fun entry member => ?_
    obtain ⟨old,inside,rfl⟩ := List.mem_map.mp ((scalarsFirst_perm _).mem_iff.mp member)
    exact ih old inside

end Arranging

section Reading
open Toml

theorem storable_nested (fields new : Table Value) (storable : Storable (.object fields)) (name : String)
    (made : Option (Table Value)) (proper : ∀ below, made = some below → Storable (.object below))
    (ok : (made.bind fun below => some (fields.put name (.object below))) = some new) : Storable (.object new) := by
  obtain ⟨below,given,same⟩ := Option.bind_eq_some_iff.mp ok
  cases same
  exact storable_put fields storable name _ (proper below given)

theorem storable_snoc (items : List Value) (each : ∀ v ∈ items, Storable v) (fields : Table Value)
    (storable : Storable (.object fields)) : Storable (.list (items ++ [.object fields])) := by
  refine .list _ fun v member => ?_
  rcases List.mem_append.mp member with old | new
  · exact each v old
  · rw [List.mem_singleton.mp new]
    exact storable

theorem insertAt_storable (fields : Table Value) (path : List String) (v : Value) (new : Table Value)
    (storable : Storable (.object fields)) (proper : Storable v) (ok : insertAt fields path v = some new) :
    Storable (.object new) := by
  induction path generalizing fields new with
  | nil => cases ok
  | cons name path ih =>
    cases path with
    | nil =>
      rw [insertAt] at ok
      split at ok
      · cases ok
      · cases ok
        exact storable_put fields storable name v proper
    | cons next path =>
      rw [insertAt] at ok
      · split at ok
        · exact storable_nested fields new storable name _ (fun below => ih [] below storable_empty) ok
        next inner found =>
          exact storable_nested fields new storable name _
            (fun below => ih inner below (storable_get? fields storable name _ found)) ok
        · cases ok
      · exact List.cons_ne_nil _ _

theorem changeAt_storable (change : Table Value → Option (Table Value)) (path : List String) (fields new : Table Value)
    (keeps : ∀ fields new, Storable (.object fields) → change fields = some new → Storable (.object new))
    (storable : Storable (.object fields)) (ok : changeAt change path fields = some new) : Storable (.object new) := by
  induction path generalizing fields new with
  | nil => exact keeps fields new storable ok
  | cons name path ih =>
    rw [changeAt] at ok
    split at ok
    · exact storable_nested fields new storable name _ (fun below => ih [] below storable_empty) ok
    next inner found =>
      exact storable_nested fields new storable name _
        (fun below => ih inner below (storable_get? fields storable name _ found)) ok
    next items found =>
      split at ok
      next last before reversed =>
        obtain ⟨below,made,same⟩ := Option.bind_eq_some_iff.mp ok
        cases same
        have all : ∀ v ∈ Value.object last :: before, Storable v := fun v member =>
          (storable_get? fields storable name _ found).items v (List.mem_reverse.mp (reversed ▸ member))
        obtain ⟨first,others⟩ := List.forall_mem_cons.mp all
        exact storable_put fields storable name _
          (storable_snoc _ (fun v member => others v (List.mem_reverse.mp member)) below (ih last below first made))
      · cases ok
    · cases ok

theorem appendTable_storable (name : String) (fields new : Table Value) (storable : Storable (.object fields))
    (ok : appendTable name fields = some new) : Storable (.object new) := by
  unfold appendTable at ok
  split at ok
  · cases ok
    exact storable_put fields storable name _ (storable_snoc [] (fun _ member => by cases member) _ storable_empty)
  next items found =>
    cases ok
    exact storable_put fields storable name _
      (storable_snoc items (storable_get? fields storable name _ found).items _ storable_empty)
  · cases ok

theorem scalar?_storable (word : List Char) (v : Value) (ok : scalar? word = some v) : Storable v := by
  unfold scalar? at ok
  split at ok
  · cases ok
    exact .leaf _ rfl rfl rfl
  split at ok
  · cases ok
    exact .leaf _ rfl rfl rfl
  split at ok
  all_goals
    obtain ⟨number,_,rfl⟩ := Option.map_eq_some_iff.mp ok
    exact .leaf _ rfl rfl rfl

/-- Values are read without nulls, and their tables name each key once. -/
structure ReadsStorable (fuel : Nat) : Prop where
  value : ∀ s v rest, readValue fuel s = some (v,rest) → Storable v
  items : ∀ acc s v rest, (∀ v ∈ acc, Storable v) → readItems fuel acc s = some (v,rest) → Storable v
  fields : ∀ acc s v rest, Storable (.object acc) → readFields fuel acc s = some (v,rest) → Storable v

theorem readsStorable (fuel : Nat) : ReadsStorable fuel := by
  induction fuel with
  | zero =>
    constructor
    case value => intro s v rest ok; cases ok
    case items => intro acc s v rest each ok; cases ok
    case fields => intro acc s v rest storable ok; cases ok
  | succ fuel ih =>
    constructor
    case value =>
      intro s v rest ok
      rw [readValue.eq_def] at ok
      split at ok
      · cases ok
      · obtain ⟨_,_,same⟩ := Option.bind_eq_some_iff.mp ok
        cases same
        exact .leaf _ rfl rfl rfl
      · obtain ⟨_,_,same⟩ := Option.bind_eq_some_iff.mp ok
        cases same
        exact .leaf _ rfl rfl rfl
      next started =>
        cases started
        exact ih.items _ _ _ _ (fun _ member => by cases member) ok
      next started =>
        cases started
        split at ok
        · cases ok
          exact storable_empty
        · exact ih.fields _ _ _ _ storable_empty ok
      · dsimp only at ok
        split at ok
        · cases ok
        · obtain ⟨_,scalar,same⟩ := Option.bind_eq_some_iff.mp ok
          cases same
          exact scalar?_storable _ _ scalar
    case items =>
      intro acc s v rest each ok
      rw [readItems] at ok
      have listed (items : List Value) (all : ∀ v ∈ items, Storable v) : Storable (.list items.reverse) :=
        .list _ fun v member => all v (List.mem_reverse.mp member)
      split at ok
      · cases ok
        exact listed acc each
      · obtain ⟨⟨first,more⟩,read,ok⟩ := Option.bind_eq_some_iff.mp ok
        have all : ∀ v ∈ first :: acc, Storable v := List.forall_mem_cons.mpr ⟨ih.value _ _ _ read,each⟩
        dsimp only at ok
        split at ok
        · exact ih.items _ _ _ _ all ok
        · cases ok
          exact listed _ all
        · cases ok
    case fields =>
      intro acc s v rest storable ok
      rw [readFields] at ok
      obtain ⟨⟨path,more⟩,_,ok⟩ := Option.bind_eq_some_iff.mp ok
      dsimp only at ok
      split at ok
      · obtain ⟨⟨first,more⟩,read,ok⟩ := Option.bind_eq_some_iff.mp ok
        obtain ⟨new,put,ok⟩ := Option.bind_eq_some_iff.mp ok
        have all := insertAt_storable _ _ _ _ storable (ih.value _ _ _ read) put
        dsimp only at ok
        split at ok
        · exact ih.fields _ _ _ _ all ok
        · cases ok
          exact all
        · cases ok
      · cases ok

theorem readEntries_storable (fuel : Nat) (current : List String) (root new : Table Value) (s : List Char)
    (storable : Storable (.object root)) (ok : readEntries fuel current root s = some new) :
    Storable (.object new) := by
  induction fuel generalizing current root s with
  | zero => cases ok
  | succ fuel ih =>
    rw [readEntries] at ok
    -- an array of tables gets one more, a table is made if it is missing, and an entry goes into the table at hand
    split at ok
    · cases ok
      exact storable
    · obtain ⟨⟨path,_⟩,_,ok⟩ := Option.bind_eq_some_iff.mp ok
      obtain ⟨_,_,ok⟩ := Option.bind_eq_some_iff.mp ok
      obtain ⟨_,_,ok⟩ := Option.bind_eq_some_iff.mp ok
      obtain ⟨name,_,ok⟩ := Option.bind_eq_some_iff.mp ok
      obtain ⟨more,changed,ok⟩ := Option.bind_eq_some_iff.mp ok
      exact ih _ _ _ (changeAt_storable _ _ _ _ (appendTable_storable name) storable changed) ok
    · obtain ⟨⟨path,_⟩,_,ok⟩ := Option.bind_eq_some_iff.mp ok
      obtain ⟨_,_,ok⟩ := Option.bind_eq_some_iff.mp ok
      obtain ⟨_,_,ok⟩ := Option.bind_eq_some_iff.mp ok
      obtain ⟨more,changed,ok⟩ := Option.bind_eq_some_iff.mp ok
      exact ih _ _ _ (changeAt_storable _ _ _ _ (fun fields new same ok => Option.some.inj ok ▸ same) storable changed) ok
    · obtain ⟨⟨path,_⟩,_,ok⟩ := Option.bind_eq_some_iff.mp ok
      dsimp only at ok
      split at ok
      · obtain ⟨⟨v,_⟩,read,ok⟩ := Option.bind_eq_some_iff.mp ok
        obtain ⟨_,_,ok⟩ := Option.bind_eq_some_iff.mp ok
        obtain ⟨more,changed,ok⟩ := Option.bind_eq_some_iff.mp ok
        have proper := (readsStorable fuel).value _ _ _ read
        exact ih _ _ _ (changeAt_storable _ _ _ _ (fun fields new storable =>
          insertAt_storable fields path v new storable proper) storable changed) ok
      · cases ok

/-- Any TOML text holds a table that can be stored. -/
theorem read?_storable (text : String) (fields : Table Value) (ok : read? text = some fields) :
    Storable (.object fields) :=
  readEntries_storable _ _ _ _ _ storable_empty ok

end Reading

end Pagewright.Settings
