import Pagewright.Proofs.Files.Refusals
import Pagewright.Proofs.Host.Media

/-! New files in numbered directories. Entries are counted by labels: one of decimal digits is a number; one of other
digits is taken for a number and is none, and while such an entry stands in the directory there is no next number. A new
file is put under the next number, so it takes no other file's place, and the refusal for a label that misleads is none
of the file system. -/
namespace Pagewright

theorem except_filterMapM_refused {ε α β : Type} (f : α → Except ε (Option β)) (items : List α) (item : α)
    (member : item ∈ items) (unanswered : ∀ answer, f item ≠ .ok answer) :
    ∃ other ∈ items, ∃ refusal, f other = .error refusal ∧ items.filterMapM f = .error refusal := by
  induction items with
  | nil => cases member
  | cons first rest ih =>
    rw [List.filterMapM_cons]
    cases head : f first with
    | error refusal => exact ⟨first,List.mem_cons_self,refusal,head,rfl⟩
    | ok answer =>
      have inRest : item ∈ rest := by
        refine (List.mem_cons.mp member).resolve_left fun same => ?_
        exact unanswered answer (same ▸ head)
      obtain ⟨other,later,refusal,refused,stops⟩ := ih inRest
      refine ⟨other,List.mem_cons_of_mem first later,refusal,refused,?_⟩
      rw [stops]
      cases answer <;> rfl

namespace Host
open DocumentDirectory (largest numberOf?)
open FileTree

/-- A label of digits that is no number: not all of the digits are decimal, or they are too many. -/
structure Misleading (label : String) : Prop where
  proper : label ≠ ""
  digits : ∀ c ∈ label.toList, Text.isDigitLike c = true
  noNumber : ¬ ((∀ c ∈ label.toList, Text.isDecimal c = true) ∧ label.toList.length ≤ Decimal.maxDigits)

theorem numberOf?_refused (label : String) (fault : Fault) (refused : numberOf? label = .error fault) :
    fault.isFile = false := by
  unfold numberOf? at refused
  split at refused
  · unfold Value.toInt at refused
    dsimp only at refused
    split at refused <;> cases refused <;> rfl
  · cases refused

theorem numberOf?_iff (label : String) : (∃ answer, numberOf? label = .ok answer) ↔ ¬ Misleading label := by
  by_cases digits : (!label.isEmpty && label.toList.all Text.isDigitLike) = true
  · have asked := digits
    rw [Bool.and_eq_true,Bool.not_eq_true',String.isEmpty_eq_false_iff,List.all_eq_true] at asked
    have proper : label.toList ≠ [] := fun none => asked.1 (String.toList_eq_nil_iff.mp none)
    have read := Decimal.readInt_digitLike label.toList proper asked.2
    have answered : (∃ answer, numberOf? label = .ok answer) ↔ ∃ n, Decimal.readInt label.toList = .ok n := by
      unfold numberOf?
      rw [if_pos digits]
      unfold Value.toInt
      dsimp only
      split
      next n ok => simp [ok,Functor.map,Except.map]
      next fault refused => simp [refused,Functor.map,Except.map]
      next refused => simp [refused,Functor.map,Except.map]
    rw [answered,read]
    exact ⟨fun number misleading => misleading.noNumber number,
      fun plain => by_contra fun noNumber => plain ⟨asked.1,asked.2,noNumber⟩⟩
  · have answered : numberOf? label = .ok none := by
      unfold numberOf?
      rw [if_neg digits]
    refine ⟨fun _ misleading => digits ?_,fun _ => ⟨none,answered⟩⟩
    rw [Bool.and_eq_true,Bool.not_eq_true',String.isEmpty_eq_false_iff,List.all_eq_true]
    exact ⟨misleading.proper,misleading.digits⟩

/-- The next number in a directory whose entries are counted by labels. -/
def nextLabelled (root : Path) (label : String → Option String) (t : FileTree) : Except Fault String := do
  let found ← t.children root
  let numbers ← (found.filterMap fun e => label e.1.name).filterMapM numberOf?
  return toString (largest numbers + 1)

section Numbering

variable (root : Path) (label : String → Option String) (t : FileTree)

/-- A label of an entry of the directory. -/
def Labels (text : String) : Prop :=
  ∃ name entry, t.find? (destination t.current root ++ [name]) = some entry ∧ label name = some text

variable {root t} (leads : t.LeadsToDirectory root)
include leads

theorem labels_listed : ∃ found, t.children root = .ok found ∧
    ∀ text, text ∈ found.filterMap (fun e => label e.1.name) ↔ Labels root label t text := by
  obtain ⟨found,listed⟩ := t.children_leads root leads
  have childName (name : String) : (root.child name).name = name := by simp [Path.child,Path.name]
  refine ⟨found,listed,fun text => ?_⟩
  rw [List.mem_filterMap]
  constructor
  · rintro ⟨e,member,labelled⟩
    obtain ⟨name,entry,path,standing⟩ := t.children_stands root found listed e member
    rw [path,childName] at labelled
    exact ⟨name,entry,standing,labelled⟩
  · rintro ⟨name,entry,standing,labelled⟩
    obtain ⟨found',listed',member⟩ := t.mem_children root leads name entry standing
    cases listed.symm.trans listed'
    exact ⟨_,member,by rw [childName]; exact labelled⟩

/-- There is a next number where no label misleads, and it is beyond the number of every label. -/
theorem nextLabelled_success (plain : ∀ text, Labels root label t text → ¬ Misleading text) :
    ∃ n : Nat, nextLabelled root label t = .ok (toString n) ∧
      ∀ text m, Labels root label t text → numberOf? text = .ok (some m) → m < n := by
  obtain ⟨found,listed,labels⟩ := labels_listed label leads
  obtain ⟨numbers,numbered⟩ := except_filterMapM_total numberOf? (found.filterMap fun e => label e.1.name)
    fun text member => (numberOf?_iff text).mpr (plain text ((labels text).mp member))
  have members := except_filterMapM_success _ _ _ numbered
  have natural := DocumentDirectory.largest_natural numbers fun m member => by
    obtain ⟨text,_,read⟩ := (members m).mp member
    exact DocumentDirectory.numberOf?_natural _ m read
  obtain ⟨n,same⟩ := Int.eq_ofNat_of_zero_le (show 0 ≤ largest numbers + 1 by omega)
  refine ⟨n,?_,fun text m labelled read => ?_⟩
  · unfold nextLabelled
    rw [listed]
    dsimp only [bind,Except.bind]
    rw [numbered]
    dsimp only
    rw [same]
    rfl
  · have bound := DocumentDirectory.le_largest numbers m ((members m).mpr ⟨text,(labels text).mpr labelled,read⟩)
    omega

theorem nextLabelled_refused (text : String) (labelled : Labels root label t text) (misleading : Misleading text) :
    ∃ fault, nextLabelled root label t = .error fault ∧ fault.isFile = false := by
  obtain ⟨found,listed,labels⟩ := labels_listed label leads
  obtain ⟨other,_,fault,refused,stops⟩ := except_filterMapM_refused numberOf? _ text ((labels text).mpr labelled)
    fun answer ok => (numberOf?_iff text).mp ⟨answer,ok⟩ misleading
  refine ⟨fault,?_,numberOf?_refused other fault refused⟩
  unfold nextLabelled
  rw [listed]
  dsimp only [bind,Except.bind]
  rw [stops]

end Numbering
end Host
end Pagewright

namespace Pagewright.Host
open FileTree
open DocumentDirectory (numberOf?)

/-- The names of new files in a directory whose entries are counted by labels. -/
structure Naming (label : String → Option String) where
  fileName : String → String
  component : ∀ n : Nat, Path.IsComponent (fileName (toString n)) ∧ fileName (toString n) ≠ ".."
  noNull : ∀ n : Nat, Char.ofNat 0 ∉ (fileName (toString n)).toList
  labelled : ∀ n : Nat, label (fileName (toString n)) = some (toString n)
  short : ∀ n : Nat, Fits (fileName (toString n)) → (Nat.toDigits 10 n).length ≤ Decimal.maxDigits

variable {label : String → Option String} (naming : Naming label) (root : Path) (content : Content) (t : FileTree)

/-- Files with a new one in the directory, and its number. -/
def deposit : Except Fault (String × FileTree) := do
  let made ← t.makeDirectories root
  let id ← nextLabelled root label made
  return (id,← made.write (root / naming.fileName id) content)

variable (label) in
/-- No label of the directory misleads, once the directory is there. -/
def Countable : Prop := ∀ made, t.makeDirectories root = .ok made → ∀ text, Labels root label made text → ¬ Misleading text

/-- One file more, under a number beyond all that there are, and everything else as before. -/
structure NewFile (id : String) (t' : FileTree) : Prop where
  number : ∃ n : Nat, id = toString n ∧ ∀ text m, Labels root label t text → numberOf? text = .ok (some m) → m < n
  fresh : t.find? (destination t.current root ++ [naming.fileName id]) = none
  located : t'.locate (root / naming.fileName id) = .ok (destination t.current root ++ [naming.fileName id])
  stands : t'.find? (destination t.current root ++ [naming.fileName id]) = some (.file content)
  kept : Spares nowhere t t'
  only : ∀ place old, t'.find? place = some (.file old) →
    t.find? place = some (.file old) ∨ place = destination t.current root ++ [naming.fileName id]

theorem destination_deposit (current : Place) (n : Nat) : destination current (root / naming.fileName (toString n)) =
    destination current root ++ [naming.fileName (toString n)] :=
  destination_name current root _ (naming.component n).1 (naming.component n).2

theorem labels_spared {t' : FileTree} (kept : Spares nowhere t t') (text : String) (labelled : Labels root label t text) :
    Labels root label t' text := by
  obtain ⟨name,entry,standing,labelled⟩ := labelled
  refine ⟨name,entry,?_,labelled⟩
  rw [kept.current]
  exact kept.stands _ _ id standing

variable (label) in
/-- Where the directory stands, its own labels count. -/
theorem countable_standing (leads : t.LeadsToDirectory root) :
    Countable label root t ↔ ∀ text, Labels root label t text → ¬ Misleading text := by
  have same : t.makeDirectories root = .ok t := makeDirectoriesWithin_standing t root.parts.length root leads
  constructor
  · exact fun countable => countable t same
  · intro plain made making
    cases same.symm.trans making
    exact plain

section Numbering

variable {made : FileTree} (n : Nat)

/-- Nothing stands yet under a number beyond all that there are. -/
theorem free_beyond (beyond : ∀ text m, Labels root label made text → numberOf? text = .ok (some m) → m < n)
    (fits : Fits (naming.fileName (toString n))) :
    made.find? (destination made.current root ++ [naming.fileName (toString n)]) = none := by
  cases taken : made.find? (destination made.current root ++ [naming.fileName (toString n)]) with
  | none => rfl
  | some entry =>
    have read := DocumentDirectory.numberOf?_toString n (naming.short n fits)
    exact absurd (beyond _ n ⟨_,entry,taken,naming.labelled n⟩ read) (lt_irrefl _)

/-- The file under a new number has a label that is a number. -/
theorem countable_put (leads : made.LeadsToDirectory root) (fits : Fits (naming.fileName (toString n)))
    (free : made.find? (destination made.current root ++ [naming.fileName (toString n)]) = none)
    (plain : ∀ text, Labels root label made text → ¬ Misleading text) : Countable label root
      (made.put (destination made.current root ++ [naming.fileName (toString n)]) (.file content)) := by
  have proper : destination made.current root ++ [naming.fileName (toString n)] ≠ [] := by simp
  have later := leads_put made root _ (.file content) proper (by rw [free]; simp) leads
  refine (countable_standing label root _ later).mpr ?_
  rintro text ⟨name,entry,stands,labelled⟩
  have current : (made.put (destination made.current root ++ [naming.fileName (toString n)]) (.file content)).current =
      made.current := rfl
  rw [current,find?_put _ _ _ _ proper] at stands
  split at stands
  next same =>
    rw [child_inj _ _ _ same,naming.labelled n] at labelled
    cases labelled
    exact (numberOf?_iff _).mp ⟨_,DocumentDirectory.numberOf?_toString n (naming.short n fits)⟩
  next => exact plain text ⟨name,entry,stands,labelled⟩

end Numbering

section Made

variable {made : FileTree} (making : t.makeDirectories root = .ok made)
include making

/-- What is written under the next number is a new file, and leaves a directory without misleading labels. -/
theorem newFile_of_write (n : Nat) (plain : ∀ text, Labels root label made text → ¬ Misleading text)
    (beyond : ∀ text m, Labels root label made text → numberOf? text = .ok (some m) → m < n) (t' : FileTree)
    (writing : made.write (root / naming.fileName (toString n)) content = .ok t') :
    NewFile naming root content t (toString n) t' ∧ Countable label root t' := by
  obtain ⟨opened,leads⟩ := makeDirectories_success _ _ _ making
  have spares := makeDirectories_spares t made root making
  obtain ⟨located,standing⟩ := write_leads made t' _ _ writing
  obtain ⟨found,_,rfl⟩ := write_success made t' _ _ writing
  have fits : Fits (naming.fileName (toString n)) := by
    refine (locate_place made _ _ found).2 _ ?_
    rw [Path.append_name root _ (naming.component n).1]
    simp
  have free := free_beyond naming root n beyond fits
  rw [destination_deposit naming root made.current n] at located standing ⊢
  refine ⟨?_,countable_put naming root content n leads fits free plain⟩
  -- Making the directory adds no file, so a place that is free once it is made was free before.
  rw [opened.current] at located standing free ⊢
  have put (other : Place) := find?_put made _ other (.file content)
    (show destination t.current root ++ [naming.fileName (toString n)] ≠ [] by simp)
  constructor
  case number => exact ⟨n,rfl,fun text m labelled => beyond text m (labels_spared root t spares text labelled)⟩
  case fresh =>
    cases taken : t.find? (destination t.current root ++ [naming.fileName (toString n)]) with
    | none => rfl
    | some entry => cases free.symm.trans (spares.stands _ _ id taken)
  case located => exact located
  case stands => exact standing
  case kept =>
    refine spares.trans ⟨rfl,fun other entry _ stands => ?_⟩
    rw [put,if_neg]
    · exact stands
    · rintro rfl
      cases free.symm.trans stands
  case only =>
    intro other old stands
    rw [put] at stands
    split at stands
    next same => exact .inr same
    next => exact .inl ((opened.files other old stands).resolve_right id)

theorem deposit_made : deposit naming root content t = do
    let id ← nextLabelled root label made
    return (id,← made.write (root / naming.fileName id) content) := by
  unfold deposit
  rw [making]
  rfl

theorem deposit_misled (text : String) (labelled : Labels root label made text) (misleading : Misleading text) :
    ∃ fault, deposit naming root content t = .error fault ∧ fault.isFile = false := by
  obtain ⟨fault,refused,none⟩ := nextLabelled_refused label (makeDirectories_success _ _ _ making).2 text labelled misleading
  refine ⟨fault,?_,none⟩
  rw [deposit_made naming root content t making,refused]
  rfl

end Made

variable (clean : NoNull root)
include clean

/-- In a directory without misleading labels, only the file system refuses a new file. -/
theorem deposit_cases (countable : Countable label root t) :
    (∃ fault, deposit naming root content t = .error fault ∧ fault.isFile = true) ∨
    ∃ id t', deposit naming root content t = .ok (id,t') ∧ NewFile naming root content t id t' ∧
      Countable label root t' := by
  cases making : t.makeDirectories root with
  | error fault =>
    refine .inl ⟨fault,?_,makeDirectories_refused t clean fault making⟩
    unfold deposit
    rw [making]
    rfl
  | ok made =>
    have leads := (makeDirectories_success _ _ _ making).2
    obtain ⟨n,next,beyond⟩ := nextLabelled_success label leads (countable made making)
    rw [deposit_made naming root content t making,next]
    cases writing : made.write (root / naming.fileName (toString n)) content with
    | error fault =>
      have path : NoNull (root / naming.fileName (toString n)) := by
        rw [Path.append_name root _ (naming.component n).1]
        exact clean.child _ (naming.noNull n)
      refine .inl ⟨fault,?_,write_refused made path content fault writing⟩
      dsimp only [bind,Except.bind]
      rw [writing]
    | ok t' =>
      refine .inr ⟨toString n,t',?_,newFile_of_write naming root content t making n (countable made making) beyond t' writing⟩
      dsimp only [bind,Except.bind]
      rw [writing]
      rfl

/-- A new file is refused by the file system only, exactly where no label misleads. -/
theorem countable_iff : Countable label root t ↔
    ∀ fault, deposit naming root content t = .error fault → fault.isFile = true := by
  constructor
  · intro countable fault refused
    obtain ⟨other,refused',file⟩ | ⟨id,t',ok,_⟩ := deposit_cases naming root content t clean countable
    · cases refused.symm.trans refused'
      exact file
    · cases refused.symm.trans ok
  · intro files made making text labelled misleading
    obtain ⟨fault,refused,none⟩ := deposit_misled naming root content t making text labelled misleading
    cases none.symm.trans (files fault refused)

end Pagewright.Host
