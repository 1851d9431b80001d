import Pagewright.Detection.Signature
import Pagewright.Proofs.Except
import Pagewright.Proofs.Table
import Pagewright.Proofs.Value

/-! The entries of a signature table, each read for itself. An entry that is malformed is passed over, so what becomes
of an entry hangs on its own value. The one exception is a compatibility that is infinite, which ends the reading of
the whole table. -/
namespace Pagewright

namespace Detection

/-- A candidate whose compatibility is infinite; its slug is looked at before. -/
def Candidate.Endless (data : Value) : Prop := ∃ (fields : Table Value) (slug compatibility : Value),
  data = .object fields ∧ fields.get? "slug" = some slug ∧ slug.isWritable = true ∧
  fields.get? "compatibility" = some compatibility ∧ compatibility.Endless

theorem Candidate.read_overflows (data : Value) : Overflows (Candidate.read data) ↔ Endless data := by
  constructor
  · intro large
    obtain refused | ⟨slug,given,writes⟩ := (overflows_bind _ _).mp large
    · exact absurd refused (data.member_overflows _)
    obtain refused | ⟨text,wrote,looks⟩ := (overflows_bind _ _).mp writes
    · exact absurd refused slug.written_overflows
    obtain refused | ⟨fields,table,counts⟩ := (overflows_bind _ _).mp looks
    · exact absurd refused (data.fieldsFor_overflows _)
    dsimp only at counts
    obtain refused | ⟨n,_,lists⟩ := (overflows_bind _ _).mp counts
    · rw [Value.toInt_overflows] at refused
      obtain rfl := data.fieldsFor_success _ fields table
      have given := (Value.member_object fields _ slug).mp given
      cases found : fields.get? "compatibility" with
      | none =>
        rw [found] at refused
        obtain ⟨_,whole,_⟩ := refused
        cases whole
      | some compatibility =>
        rw [found] at refused
        exact ⟨fields,slug,compatibility,rfl,given,((slug.written_iff text).mp wrote).1,found,refused⟩
    · obtain refused | ⟨features,_,done⟩ := (overflows_bind _ _).mp lists
      · exact absurd refused (Value.items_overflows _)
      · exact absurd done (overflows_ok _)
  · rintro ⟨fields,slug,compatibility,rfl,given,writable,found,endless⟩
    refine (overflows_bind _ _).mpr (.inr ⟨slug,(Value.member_object fields _ slug).mpr given,?_⟩)
    refine (overflows_bind _ _).mpr (.inr ⟨slug.text,(slug.written_iff _).mpr ⟨writable,rfl⟩,?_⟩)
    refine (overflows_bind _ _).mpr (.inr ⟨fields,rfl,?_⟩)
    dsimp only
    rw [found]
    exact (overflows_bind _ _).mpr (.inl ((Value.toInt_overflows _).mpr endless))

theorem patternsOf_overflows (v : Value) : ¬ Overflows (patternsOf v) := by
  intro large
  obtain refused | ⟨items,_,writes⟩ := (overflows_bind _ _).mp large
  · exact absurd refused (Value.items_overflows _)
  · obtain ⟨_,item,_,_,_,refused⟩ := (overflows_mapM _ _).mp writes
    exact absurd refused item.written_overflows

/-- A field of an entry, absent ones being null. -/
def entryField (fields : Table Value) (name : String) : Value := (fields.get? name).getD .null

/-- An entry with a candidate whose compatibility is infinite, where its patterns and the candidates before can be
read. -/
def Endless (v : Value) : Prop := ∃ fields, v = .object fields ∧
  (∃ patterns, patternsOf (entryField fields "detector_patterns") = .ok patterns) ∧
  ∃ earlier c later, namedSolutions (entryField fields "recommended_solutions") = earlier ++ c :: later ∧
    (∀ other ∈ earlier, ∃ read, Candidate.read other = .ok read) ∧ Candidate.Endless c

theorem Signature.read_overflows (key : String) (fields : Table Value) :
    Overflows (Signature.read key fields) ↔ Endless (.object fields) := by
  constructor
  · intro large
    obtain refused | ⟨patterns,read,solves⟩ := (overflows_bind _ _).mp large
    · exact absurd refused (patternsOf_overflows _)
    obtain refused | ⟨solutions,_,done⟩ := (overflows_bind _ _).mp solves
    · obtain ⟨earlier,c,later,split,before,refused⟩ := (overflows_mapM _ _).mp refused
      exact ⟨fields,rfl,⟨patterns,read⟩,earlier,c,later,split,before,(Candidate.read_overflows c).mp refused⟩
    · exact absurd done (overflows_ok _)
  · rintro ⟨_,same,⟨patterns,read⟩,earlier,c,later,split,before,endless⟩
    cases same
    refine (overflows_bind _ _).mpr (.inr ⟨patterns,read,(overflows_bind _ _).mpr (.inl ?_)⟩)
    exact (overflows_mapM _ _).mpr ⟨earlier,c,later,split,before,(Candidate.read_overflows c).mpr endless⟩

/-- What an entry gives when it is read for itself: nothing where it is malformed. -/
def signatureOf (key : String) (v : Value) : Option Signature :=
  match v with
  | .object fields => (Signature.read key fields).toOption
  | _ => none

theorem signatureOf_some (key : String) (v : Value) (signature : Signature) (given : signatureOf key v = some signature) :
    ∃ fields, v = .object fields ∧ Signature.read key fields = .ok signature := by
  unfold signatureOf at given
  cases v with
  | object fields =>
    dsimp only at given
    cases read : Signature.read key fields with
    | error fault => rw [read] at given; cases given
    | ok own => rw [read] at given; cases given; exact ⟨fields,rfl,read⟩
  | _ => cases given

theorem readEntry_iff (key : String) (v : Value) (entry : Option Signature) :
    readEntry key v = .ok entry ↔ ¬ Endless v ∧ entry = signatureOf key v := by
  cases v with
  | object fields =>
    rw [← Signature.read_overflows key fields]
    unfold readEntry signatureOf
    dsimp only
    cases Signature.read key fields with
    | ok signature => simp [Overflows,Except.toOption,eq_comm]
    | error fault => cases fault <;> simp [Overflows,Except.toOption,eq_comm]
  | _ => simp [readEntry,signatureOf,Endless,eq_comm]

/-- The table of the entries that are well formed, each read for itself, in the order of the entries. -/
def signaturesOf (entries : Table Value) : Signatures :=
  entries.filterMap fun entry => (signatureOf entry.1 entry.2).map fun signature => (entry.1,signature)

theorem signaturesOf_cons (key : String) (v : Value) (entries : Table Value) : signaturesOf ((key,v) :: entries) =
    ((signatureOf key v).map fun signature => (key,signature)).toList ++ signaturesOf entries := by
  unfold signaturesOf
  rw [List.filterMap_cons]
  cases signatureOf key v <;> rfl

theorem readEntries_iff (entries : Table Value) (signatures : Signatures) : readEntries entries = .ok signatures ↔
    (∀ entry ∈ entries, ¬ Endless entry.2) ∧ signatures = signaturesOf entries := by
  induction entries generalizing signatures with
  | nil => simp [readEntries,signaturesOf,eq_comm]
  | cons first entries ih =>
    obtain ⟨key,v⟩ := first
    rw [List.forall_mem_cons]
    constructor
    · intro ok
      obtain ⟨entry,read,ok⟩ := except_bind_success _ _ _ ok
      obtain ⟨others,rest,ok⟩ := except_bind_success _ _ _ ok
      obtain ⟨finite,rfl⟩ := (readEntry_iff key v entry).mp read
      obtain ⟨later,rfl⟩ := (ih others).mp rest
      exact ⟨⟨finite,later⟩,(Except.ok.inj ok).symm.trans (signaturesOf_cons key v entries).symm⟩
    · rintro ⟨⟨finite,later⟩,rfl⟩
      rw [readEntries,(readEntry_iff key v _).mpr ⟨finite,rfl⟩,(ih _).mpr ⟨later,rfl⟩,signaturesOf_cons]
      rfl

/-- In a table with one entry for each key, a signature is that of the entry under its key. -/
theorem get?_signaturesOf (entries : Table Value) (once : entries.keys.Nodup) (key : String) :
    Table.get? (signaturesOf entries) key = (entries.get? key).bind (signatureOf key) := by
  induction entries with
  | nil => rfl
  | cons first entries ih =>
    obtain ⟨name,v⟩ := first
    obtain ⟨new,once⟩ := List.nodup_cons.mp once
    rw [signaturesOf_cons,Table.get?_cons]
    by_cases same : name = key
    · subst same
      rw [if_pos rfl]
      cases found : signatureOf name v with
      | none =>
        -- The key does not come again among the entries behind.
        have absent : Table.get? entries name = none := by
          cases later : Table.get? entries name with
          | none => rfl
          | some other => exact absurd ((Table.mem_keys_iff entries name).mpr ⟨other,later⟩) new
        have tail := ih once
        rw [absent] at tail
        exact tail.trans found.symm
      | some signature => exact (Table.get?_cons ..).trans ((if_pos rfl).trans found.symm)
    · rw [if_neg same]
      cases signatureOf name v with
      | none => exact ih once
      | some signature => exact (Table.get?_cons ..).trans ((if_neg same).trans (ih once))

theorem signaturesOf_keys (entries : Table Value) : (Table.keys (signaturesOf entries)).Sublist entries.keys := by
  induction entries with
  | nil => exact .slnil
  | cons first entries ih =>
    obtain ⟨key,v⟩ := first
    rw [signaturesOf_cons]
    cases signatureOf key v with
    | none => exact ih.cons key
    | some signature => exact ih.cons_cons key

/-- The entries of a decoded table. -/
def entriesOf (data : Value) : Table Value :=
  match data with
  | .object fields => match (Table.get? fields tableKey).getD .null with
    | .object entries => entries
    | _ => []
  | _ => []

theorem parseSignatures_eq (data : Value) : parseSignatures data = readEntries (entriesOf data) := by
  unfold parseSignatures entriesOf
  cases data with
  | object fields =>
    dsimp only
    cases (Table.get? fields tableKey).getD .null <;> rfl
  | _ => rfl

/-- How the entries of a table leave each other alone: the table is read, in the order of its entries, and another one
that holds the same under a key gives the same for it. -/
structure EntriesApart (data : Value) : Prop where
  returns : ∃ signatures, parseSignatures data = .ok signatures
  ordered : ∀ signatures, parseSignatures data = .ok signatures → signatures.keys.Sublist (entriesOf data).keys
  own : ∀ signatures, parseSignatures data = .ok signatures → (entriesOf data).keys.Nodup → ∀ key,
    signatures.get? key = ((entriesOf data).get? key).bind (signatureOf key)
  unchanged : ∀ signatures, parseSignatures data = .ok signatures → (entriesOf data).keys.Nodup →
    ∀ other others, parseSignatures other = .ok others → (entriesOf other).keys.Nodup → ∀ key,
      (entriesOf data).get? key = (entriesOf other).get? key → signatures.get? key = others.get? key

/-- Entries leave each other alone exactly where no compatibility among them is infinite. -/
theorem entriesApart_iff (data : Value) : EntriesApart data ↔ ∀ entry ∈ entriesOf data, ¬ Endless entry.2 := by
  have own (data : Value) (signatures : Signatures) (ok : parseSignatures data = .ok signatures)
      (once : (entriesOf data).keys.Nodup) (key : String) :
      signatures.get? key = ((entriesOf data).get? key).bind (signatureOf key) := by
    rw [parseSignatures_eq,readEntries_iff] at ok
    rw [ok.2,get?_signaturesOf _ once]
  constructor
  · intro apart
    obtain ⟨signatures,ok⟩ := apart.returns
    rw [parseSignatures_eq,readEntries_iff] at ok
    exact ok.1
  · intro finite
    refine ⟨⟨signaturesOf (entriesOf data),?_⟩,fun signatures ok => ?_,own data,?_⟩
    · rw [parseSignatures_eq,readEntries_iff]
      exact ⟨finite,rfl⟩
    · rw [parseSignatures_eq,readEntries_iff] at ok
      rw [ok.2]
      exact signaturesOf_keys _
    · intro signatures ok once other others ok' once' key same
      rw [own data signatures ok once,own other others ok' once',same]

/-- A table of two entries of which the first has an infinite compatibility. -/
def endlessTable : Value := .object [("functionality_mappings",.object [
  ("forms",.object [("recommended_solutions",.list [.object [("slug",.str "x"),("compatibility",.float (1.0 / 0.0))]])]),
  ("tabs",.object [("name",.str "Tabs")])])]

theorem endless_stops : ¬ ∃ signatures, parseSignatures endlessTable = .ok signatures := by
  rintro ⟨signatures,ok⟩
  cases ok

end Detection

end Pagewright
