import Pagewright.Fault
import Pagewright.Proofs.Decimal.Words
import Pagewright.Value.Display

/-! Values as texts, as whole numbers and in their depth. A value that counts as present has a text; an infinite number,
which has no whole part, is the one value that overflows; and what is inside a value is no deeper than the value. -/
namespace Pagewright

section Texts

theorem append_ne_empty (s t : String) (proper : t ≠ "") : s ++ t ≠ "" := fun empty =>
  proper (String.append_eq_empty_iff.mp empty).2

theorem Decimal.digits_ne_nil (layout : FloatLayout) (digits : List Char) (leading : Int) :
    layout.digits digits leading ≠ [] := by
  unfold FloatLayout.digits
  split
  · split <;> simp
  · split <;> simp

theorem Decimal.displayLayout_ne_empty (x : Float) : displayLayout.text x ≠ "" := by
  unfold FloatLayout.text
  cases Real64.ofFloat x with
  | notANumber => decide
  | infinite negative => cases negative <;> decide
  | finite negative mantissa exponent =>
    dsimp only
    split
    · exact append_ne_empty _ _ (by decide)
    · exact append_ne_empty _ _ fun empty =>
        digits_ne_nil displayLayout _ _ (String.ofList_eq_empty_iff.mp empty)

theorem toString_int_ne_empty (n : Int) : toString n ≠ "" := by
  cases n with
  | ofNat n => exact Nat.repr_ne_empty
  | negSucc n => exact append_ne_empty "-" _ Nat.repr_ne_empty

theorem Value.text_ne_empty (v : Value) (truthy : v.isTruthy = true) : v.text ≠ "" := by
  cases v with
  | null => cases truthy
  | bool b => cases truthy; decide
  | int n => exact toString_int_ne_empty n
  | float x => exact Decimal.displayLayout_ne_empty x
  | str s => simpa [isTruthy,text] using truthy
  | list items => exact append_ne_empty _ "]" (by decide)
  | object fields => exact append_ne_empty _ "\x7d" (by decide)

end Texts

section Depth

theorem depth_item (items : List Value) (item : Value) (member : item ∈ items) :
    item.depth ≤ Value.depthOfItems items := by
  induction items with
  | nil => cases member
  | cons first items ih =>
    rw [Value.depthOfItems]
    obtain rfl | member := List.mem_cons.mp member
    · exact Nat.le_max_left _ _
    · exact Nat.le_trans (ih member) (Nat.le_max_right _ _)

theorem depth_field (fields : Table Value) (name : String) (value : Value) (member : (name,value) ∈ fields) :
    value.depth ≤ Value.depthOfFields fields := by
  induction fields with
  | nil => cases member
  | cons first fields ih =>
    obtain ⟨other,given⟩ := first
    rw [Value.depthOfFields]
    obtain same | member := List.mem_cons.mp member
    · cases same
      exact Nat.le_max_left _ _
    · exact Nat.le_trans (ih member) (Nat.le_max_right _ _)

end Depth

section Overflow

variable {α β : Type}

/-- A result that is refused because a number is too large. -/
def Overflows (r : Except Fault α) : Prop := ∃ message, r = .error (.overflow message)

theorem overflows_ok (a : α) : ¬ Overflows (.ok a : Except Fault α) := by
  rintro ⟨_,refused⟩
  cases refused

theorem overflows_bind (first : Except Fault α) (next : α → Except Fault β) :
    Overflows (first >>= next) ↔ Overflows first ∨ ∃ a, first = .ok a ∧ Overflows (next a) := by
  cases first with
  | error fault => simp [Overflows,bind,Except.bind]
  | ok a => simp [Overflows,bind,Except.bind]

/-- Reading items in a row overflows at the first one that cannot be read, if it overflows at all. -/
theorem overflows_mapM (f : α → Except Fault β) (items : List α) : Overflows (items.mapM f) ↔
    ∃ earlier item later, items = earlier ++ item :: later ∧ (∀ a ∈ earlier, ∃ b, f a = .ok b) ∧ Overflows (f item) := by
  induction items with
  | nil => simp [Overflows,pure,Except.pure]
  | cons item items ih =>
    rw [List.mapM_cons,overflows_bind]
    constructor
    · rintro (here | ⟨b,read,rest⟩)
      · exact ⟨[],item,items,rfl,nofun,here⟩
      · rw [overflows_bind] at rest
        obtain rest | ⟨_,_,done⟩ := rest
        · obtain ⟨earlier,stop,later,rfl,before,refused⟩ := ih.mp rest
          exact ⟨item :: earlier,stop,later,rfl,List.forall_mem_cons.mpr ⟨⟨b,read⟩,before⟩,refused⟩
        · exact absurd done (overflows_ok _)
    · rintro ⟨earlier,stop,later,split,before,refused⟩
      cases earlier with
      | nil =>
        obtain ⟨rfl,rfl⟩ := List.cons.inj split
        exact .inl refused
      | cons first earlier =>
        obtain ⟨rfl,rfl⟩ := List.cons.inj split
        obtain ⟨⟨b,read⟩,before⟩ := List.forall_mem_cons.mp before
        exact .inr ⟨b,read,(overflows_bind _ _).mpr (.inl (ih.mpr ⟨earlier,stop,later,rfl,before,refused⟩))⟩

namespace Value

variable (v : Value)

/-- An infinite number, which has no whole part. -/
def Endless : Prop := ∃ x, v = .float x ∧ Decimal.wholePart x = .error .infinite

theorem items_overflows : ¬ Overflows v.items := by
  rintro ⟨_,refused⟩
  cases v <;> cases refused

theorem written_overflows : ¬ Overflows v.written := by
  rintro ⟨_,refused⟩
  unfold written at refused
  split at refused <;> cases refused

theorem member_overflows (key : String) : ¬ Overflows (v.member key) := by
  rintro ⟨_,refused⟩
  unfold member at refused
  split at refused
  · split at refused <;> cases refused
  · cases refused
  · cases refused
  · cases refused

theorem fieldsFor_overflows (operation : String) : ¬ Overflows (v.fieldsFor operation) := by
  rintro ⟨_,refused⟩
  cases v <;> cases refused

theorem fieldsFor_success (operation : String) (fields : Table Value) (ok : v.fieldsFor operation = .ok fields) :
    v = .object fields := by
  cases v with
  | object own => cases ok; rfl
  | _ => cases ok

theorem written_iff (text : String) : v.written = .ok text ↔ v.isWritable = true ∧ v.text = text := by
  unfold written
  split
  next writable => simp [writable]
  next long => simp [long]

theorem member_object (fields : Table Value) (key : String) (found : Value) :
    (Value.object fields).member key = .ok found ↔ fields.get? key = some found := by
  unfold member
  dsimp only
  cases fields.get? key <;> simp

theorem toInt_overflows : Overflows v.toInt ↔ v.Endless := by
  unfold Overflows Endless toInt
  cases v with
  | float x => cases whole : Decimal.wholePart x with
    | ok n => simp [whole]
    | error reason => cases reason <;> simp [whole]
  | str s => cases numeral : Decimal.readInt s.toList with
    | ok n => simp [numeral]
    | error reason => cases reason <;> simp [numeral]
  | _ => simp

theorem Endless.isTruthy (endless : v.Endless) : v.isTruthy = true := by
  obtain ⟨x,rfl,whole⟩ := endless
  unfold Decimal.wholePart at whole
  rw [Decimal.ofFloat_unpack] at whole
  have nonzero : (x == 0.0) = false := by
    show (x.toModel.unpack.compare (0.0 : Float).toModel.unpack == some .eq) = false
    cases unpacked : x.toModel.unpack with
    | infinity sign => cases sign <;> rfl
    | _ => rw [unpacked] at whole; cases whole
  rw [Value.isTruthy,nonzero,Bool.not_false]

end Value

end Overflow

end Pagewright
