import Pagewright.Failure

/-! Computations that may be refused: when a sequence of them goes through and what it gives, and what it can be
refused with. -/
namespace Pagewright

variable {ε α β : Type}

theorem except_bind_success (first : Except ε α) (next : α → Except ε β) (result : β)
    (ok : (first >>= next) = .ok result) : ∃ value, first = .ok value ∧ next value = .ok result := by
  cases first with
  | error refusal => cases ok
  | ok value => exact ⟨value,rfl,ok⟩

theorem except_mapM_cons_success (f : α → Except ε β) (item : α) (items : List α) (results : List β)
    (ok : (item :: items).mapM f = .ok results) :
    ∃ first rest, f item = .ok first ∧ items.mapM f = .ok rest ∧ results = first :: rest := by
  rw [List.mapM_cons] at ok
  obtain ⟨first,head,ok⟩ := except_bind_success _ _ _ ok
  obtain ⟨rest,tail,ok⟩ := except_bind_success _ _ _ ok
  exact ⟨first,rest,head,tail,(Except.ok.inj ok).symm⟩

theorem except_mapM_total (f : α → Except ε β) (items : List α)
    (total : ∀ item ∈ items, ∃ result, f item = .ok result) : ∃ results, items.mapM f = .ok results := by
  induction items with
  | nil => exact ⟨[],rfl⟩
  | cons item items ih =>
    obtain ⟨first,head⟩ := total item List.mem_cons_self
    obtain ⟨rest,tail⟩ := ih fun other member => total other (List.mem_cons_of_mem item member)
    refine ⟨first :: rest,?_⟩
    rw [List.mapM_cons,head,tail]
    rfl

theorem except_mapM_map_self (write : α → β) (read : β → Except ε α) (items : List α)
    (back : ∀ item ∈ items, read (write item) = .ok item) : (items.map write).mapM read = .ok items := by
  induction items with
  | nil => rfl
  | cons item items ih =>
    rw [List.map_cons,List.mapM_cons,back item List.mem_cons_self,
      ih fun other member => back other (List.mem_cons_of_mem item member)]
    rfl

theorem except_mapM_member (f : α → Except ε β) (items : List α) (results : List β)
    (ok : items.mapM f = .ok results) (result : β) (member : result ∈ results) :
    ∃ item ∈ items, f item = .ok result := by
  induction items generalizing results with
  | nil =>
    cases ok
    cases member
  | cons item items ih =>
    obtain ⟨first,rest,head,tail,rfl⟩ := except_mapM_cons_success f item items results ok
    obtain rfl | member := List.mem_cons.mp member
    · exact ⟨item,List.mem_cons_self,head⟩
    · obtain ⟨other,inside,found⟩ := ih rest tail member
      exact ⟨other,List.mem_cons_of_mem item inside,found⟩

theorem except_mapError_success {ε' : Type} (f : ε → ε') (r : Except ε α) (a : α)
    (ok : r.mapError f = .ok a) : r = .ok a := by
  cases r with
  | error refusal => cases ok
  | ok value => cases ok; rfl

theorem lift_success (r : Except Fault α) (a : α) (ok : (liftM r : Except Failure α) = .ok a) :
    r = .ok a := by
  cases r with
  | error fault => cases ok
  | ok value => cases ok; rfl

theorem run_get {σ : Type} (s : σ) : (MonadState.get : ExceptT ε (StateM σ) σ).run.run s = (.ok s,s) := rfl

/-- Work on a state goes on after a result and stops at a refusal, with the state as it was then. -/
theorem run_bind {σ : Type} (work : ExceptT ε (StateM σ) α) (next : α → ExceptT ε (StateM σ) β)
    (s : σ) : (work >>= next).run.run s =
      match work.run.run s with
      | (.ok a,s) => (next a).run.run s
      | (.error refusal,s) => (.error refusal,s) := by
  rw [ExceptT.run_bind,StateT.run_bind]
  rcases work.run.run s with ⟨_ | _,_⟩ <;> rfl

theorem run_bind_success {σ : Type} (work : ExceptT ε (StateM σ) α) (next : α → ExceptT ε (StateM σ) β)
    (s s' : σ) (b : β) (ok : (work >>= next).run.run s = (.ok b,s')) :
    ∃ a s₁, work.run.run s = (.ok a,s₁) ∧ (next a).run.run s₁ = (.ok b,s') := by
  rw [run_bind] at ok
  generalize work.run.run s = ran at ok
  obtain ⟨failure | a,s₁⟩ := ran
  · cases ok
  · exact ⟨a,s₁,rfl,ok⟩

section Refusals

variable {P : ε → Prop}

/-- All that a result can be refused with. -/
def RefusedBy (P : ε → Prop) (r : Except ε α) : Prop := ∀ refusal, r = .error refusal → P refusal

theorem refusedBy_ok (a : α) : RefusedBy P (.ok a : Except ε α) := fun _ refused => by cases refused

theorem refusedBy_error (refusal : ε) (holds : P refusal) : RefusedBy P (.error refusal : Except ε α) :=
  fun _ refused => by cases refused; exact holds

theorem refusedBy_bind (first : Except ε α) (next : α → Except ε β) (one : RefusedBy P first)
    (rest : ∀ a, RefusedBy P (next a)) : RefusedBy P (first >>= next) := by
  cases first with
  | error reason => exact refusedBy_error _ (one reason rfl)
  | ok a => exact rest a

theorem refusedBy_mapM (f : α → Except ε β) (items : List α) (each : ∀ item, RefusedBy P (f item)) :
    RefusedBy P (items.mapM f) := by
  induction items with
  | nil => exact refusedBy_ok []
  | cons item items ih =>
    rw [List.mapM_cons]
    exact refusedBy_bind _ _ (each item) fun first => refusedBy_bind _ _ ih fun rest => refusedBy_ok _

theorem answers_of_refusedBy (r : Except ε α) (never : RefusedBy (fun _ => False) r) : ∃ a, r = .ok a := by
  cases r with
  | error reason => exact (never reason rfl).elim
  | ok a => exact ⟨a,rfl⟩

theorem refusedBy_answers (r : Except ε α) (answers : ∃ a, r = .ok a) : RefusedBy P r := by
  obtain ⟨a,rfl⟩ := answers
  exact refusedBy_ok a

theorem refusedBy_flatMapM (f : α → Except ε (List β)) (items : List α) (each : ∀ item ∈ items, RefusedBy P (f item)) :
    RefusedBy P (items.flatMapM f) := by
  induction items with
  | nil => exact refusedBy_ok []
  | cons item items ih =>
    rw [List.flatMapM_cons]
    refine refusedBy_bind _ _ (each item List.mem_cons_self) fun first => refusedBy_bind _ _ ?_ fun rest => refusedBy_ok _
    exact ih fun other member => each other (List.mem_cons_of_mem item member)

theorem refusedBy_filterMapM (f : α → Except ε (Option β)) (items : List α) (each : ∀ item ∈ items, RefusedBy P (f item)) :
    RefusedBy P (items.filterMapM f) := by
  induction items with
  | nil => exact refusedBy_ok []
  | cons item items ih =>
    have later := ih fun other member => each other (List.mem_cons_of_mem item member)
    rw [List.filterMapM_cons]
    refine refusedBy_bind _ _ (each item List.mem_cons_self) fun first => ?_
    cases first with
    | none => exact later
    | some b => exact refusedBy_bind _ _ later fun rest => refusedBy_ok _

theorem refusedBy_anyM (f : α → Except ε Bool) (items : List α) (each : ∀ item ∈ items, RefusedBy P (f item)) :
    RefusedBy P (items.anyM f) := by
  induction items with
  | nil => exact refusedBy_ok false
  | cons item items ih =>
    rw [List.anyM]
    refine refusedBy_bind _ _ (each item List.mem_cons_self) fun holds => ?_
    cases holds with
    | false => exact ih fun other member => each other (List.mem_cons_of_mem item member)
    | true => exact refusedBy_ok true

theorem refusedBy_findM? {α : Type} (f : α → Except ε Bool) (items : List α)
    (each : ∀ item ∈ items, RefusedBy P (f item)) : RefusedBy P (items.findM? f) := by
  induction items with
  | nil => exact refusedBy_ok none
  | cons item items ih =>
    rw [List.findM?]
    refine refusedBy_bind _ _ (each item List.mem_cons_self) fun holds => ?_
    cases holds with
    | false => exact ih fun other member => each other (List.mem_cons_of_mem item member)
    | true => exact refusedBy_ok (some item)

theorem refusedBy_lift {P : Failure → Prop} (r : Except Fault α) (each : RefusedBy (fun fault => P (.fault fault)) r) :
    RefusedBy P (liftM r : Except Failure α) := by
  cases r with
  | error fault => exact refusedBy_error _ (each fault rfl)
  | ok a => exact refusedBy_ok a

end Refusals

end Pagewright
