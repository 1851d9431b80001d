/-!
Ordered tables: entries under text keys in the order of their first insertion. Putting a value under a
known key replaces it in place, so a table keeps at most one entry per key when it is built by `put`.
-/

namespace Pagewright

/-- Entries in insertion order. -/
abbrev Table (α : Type) := List (String × α)

namespace Table

variable {α β : Type}

/-- The value under a key. -/
def get? (t : Table α) (key : String) : Option α := List.lookup key t

/-- Whether a key has an entry. -/
def has (t : Table α) (key : String) : Bool := t.any fun entry => entry.1 == key

/-- A table with a value under a key: in place if the key is known, at the end otherwise. -/
def put (t : Table α) (key : String) (value : α) : Table α :=
  match t with
  | [] => [(key, value)]
  | entry :: rest => if entry.1 == key then (key, value) :: rest else entry :: put rest key value

/-- A table with an entry where the key has none yet. -/
def putNew (t : Table α) (key : String) (value : α) : Table α :=
  if has t key then t else t ++ [(key, value)]

/-- The entries of the second table put into the first. -/
def update (t changes : Table α) : Table α :=
  changes.foldl (fun acc entry => put acc entry.1 entry.2) t

/-- The table of a list of pairs; of equal keys the first gives the place and the last the value. -/
def ofPairs (pairs : List (String × α)) : Table α := update [] pairs

/-- The keys in order. -/
def keys (t : Table α) : List String := t.map (·.1)

/-- A function applied to every value. -/
def mapValues (f : α → β) (t : Table α) : Table β := t.map fun entry => (entry.1, f entry.2)

@[simp] theorem get?_nil (key : String) : get? ([] : Table α) key = none := rfl

theorem get?_put_self (t : Table α) (key : String) (value : α) :
    get? (put t key value) key = some value := by
  induction t with
  | nil => simp [put, get?]
  | cons entry rest ih =>
    obtain ⟨name, old⟩ := entry
    by_cases h : name = key
    · simp [put, h, get?]
    · have h' : (key == name) = false := by simp [Ne.symm h]
      simp only [get?] at ih
      simp [put, h, get?, List.lookup_cons, h', ih]

theorem get?_put_of_ne (t : Table α) {key other : String} (value : α) (h : other ≠ key) :
    get? (put t key value) other = get? t other := by
  induction t with
  | nil =>
    have h' : (other == key) = false := by simp [h]
    simp [put, get?, List.lookup_cons, h']
  | cons entry rest ih =>
    obtain ⟨name, old⟩ := entry
    by_cases e : name = key
    · have h' : (other == key) = false := by simp [h]
      simp [put, e, get?, List.lookup_cons, h']
    · simp only [get?] at ih
      simp only [put, beq_iff_eq, e, if_false, get?, List.lookup_cons]
      split <;> simp_all

end Table

end Pagewright
