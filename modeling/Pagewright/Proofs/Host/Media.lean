import Pagewright.Proofs.Files.Survival
import Pagewright.Proofs.Host.Directories

/-! A media directory that holds only its own files. The next file gets the next number, so that its name is
new, and every file that is there already stays as it is. -/
namespace Pagewright
open FileTree

theorem except_filterMapM_total {ε α β : Type} (f : α → Except ε (Option β)) (items : List α)
    (total : ∀ item ∈ items, ∃ result, f item = .ok result) : ∃ results, items.filterMapM f = .ok results := by
  induction items with
  | nil => exact ⟨[],rfl⟩
  | cons item items ih =>
    obtain ⟨first,one⟩ := total item List.mem_cons_self
    obtain ⟨rest,more⟩ := ih fun other member => total other (List.mem_cons_of_mem item member)
    rw [List.filterMapM_cons,one]
    cases first with
    | none => exact ⟨rest,more⟩
    | some b => exact ⟨b :: rest,by show (do return b :: (← items.filterMapM f)) = _; rw [more]; rfl⟩

namespace Host.MediaDirectory
open DocumentDirectory (largest numberOf?)

theorem fileName_chars (n : Nat) (rest : String) :
    (toString n ++ "-" ++ rest).toList = Nat.toDigits 10 n ++ '-' :: rest.toList := by
  rw [String.toList_append,String.toList_append,Nat.toString_eq_repr,Nat.toList_repr]
  simp

theorem fileName_clean (n : Nat) (name : String) (clean : Char.ofNat 0 ∉ (Path.ofText name).name.toList) :
    Char.ofNat 0 ∉ (fileName (toString n) name).toList := by
  intro null
  rw [fileName,fileName_chars] at null
  rcases List.mem_append.mp null with digit | rest
  · exact absurd (Nat.isDigit_of_mem_toDigits (by decide) (by decide) digit) (by decide)
  · exact clean ((List.mem_cons.mp rest).resolve_left (by decide))

theorem leadingPart_number (n : Nat) (rest : String) : leadingPart (toString n ++ "-" ++ rest) = toString n := by
  have digits : ∀ c ∈ Nat.toDigits 10 n, (c != '-') = true := by
    intro c member
    have digit := Nat.isDigit_of_mem_toDigits (by decide) (by decide) member
    simp only [bne_iff_ne,ne_eq]
    rintro rfl
    exact absurd digit (by decide)
  rw [leadingPart,fileName_chars,List.takeWhile_append_of_pos digits,List.takeWhile_cons_of_neg (by decide),
    List.append_nil,Nat.toString_eq_repr,← Nat.toList_repr,String.ofList_toList]

theorem number_inj (n m : Nat) (rest more : String) (same : toString n ++ "-" ++ rest = toString m ++ "-" ++ more) :
    n = m := by
  have leading := congrArg leadingPart same
  rw [leadingPart_number,leadingPart_number] at leading
  have digits := congrArg String.toList leading
  rw [Nat.toString_eq_repr,Nat.toString_eq_repr,Nat.toList_repr,Nat.toList_repr] at digits
  rw [← Nat.ofDigitChars_toDigits (b := 10) (n := n) (by decide) (by decide),digits]
  exact Nat.ofDigitChars_toDigits (by decide) (by decide)

theorem numberOf?_own (n : Nat) (rest : String) (fits : Fits (toString n ++ "-" ++ rest)) :
    numberOf? (leadingPart (toString n ++ "-" ++ rest)) = .ok (some n) := by
  rw [leadingPart_number]
  refine DocumentDirectory.numberOf?_toString n ?_
  have bytes := Decimal.length_le_utf8ByteSize (toString n ++ "-" ++ rest).toList
  rw [String.ofList_toList,fileName_chars,List.length_append] at bytes
  unfold Fits maxName at fits
  unfold Decimal.maxDigits
  omega

variable (d : MediaDirectory) (t : FileTree)

/-- A media directory that holds only its own files, or is still to be made, with the number of the next file. -/
structure Tidy (next : Nat) : Prop where
  noFile : ∀ content, t.find? (destination t.current d.root) ≠ some (.file content)
  own : ∀ name entry, t.find? (destination t.current d.root ++ [name]) = some entry →
    ∃ n rest content, n < next ∧ name = toString n ++ "-" ++ rest ∧ entry = .file content
  last : next = 1 ∨ ∃ n rest entry, n + 1 = next ∧
    t.find? (destination t.current d.root ++ [toString n ++ "-" ++ rest]) = some entry

theorem foldl_max_mem (numbers : List Int) (first : Int) :
    numbers.foldl max first = first ∨ numbers.foldl max first ∈ numbers := by
  induction numbers generalizing first with
  | nil => exact .inl rfl
  | cons number numbers ih =>
    rw [List.foldl_cons]
    rcases ih (max first number) with same | member
    · rcases max_choice first number with left | right
      · exact .inl (same.trans left)
      · exact .inr (by rw [same,right]; exact List.mem_cons_self)
    · exact .inr (List.mem_cons_of_mem _ member)

theorem largest_cases (numbers : List Int) : largest numbers = 0 ∨ largest numbers ∈ numbers := by
  cases numbers with
  | nil => exact .inl rfl
  | cons first rest =>
    rcases foldl_max_mem rest first with same | member
    · exact .inr (List.mem_cons.mpr (.inl same))
    · exact .inr (List.mem_cons_of_mem _ member)

variable {d t} {next : Nat}

theorem Tidy.positive (tidy : d.Tidy t next) : 0 < next := by
  rcases tidy.last with one | ⟨n,_,_,same,_⟩ <;> omega

/-- The number of the next file is the successor of the largest one. -/
theorem Tidy.nextId (tidy : d.Tidy t next) (wellFormed : t.WellFormed) (leads : t.LeadsToDirectory d.root) :
    d.nextId t = .ok (toString next) := by
  obtain ⟨found,listed⟩ := t.children_leads d.root leads
  have number (name : String) (e : Path × Pagewright.Entry) (path : e.1 = d.root.child name) : e.1.name = name := by
    rw [path]
    simp [Path.child,Path.name]
  have numbered (e : Path × Pagewright.Entry) (member : e ∈ found) :
      ∃ n : Nat, n < next ∧ numberOf? (leadingPart e.1.name) = .ok (some n) := by
    obtain ⟨name,entry,path,standing⟩ := t.children_stands d.root found listed e member
    obtain ⟨n,rest,content,below,rfl,_⟩ := tidy.own name entry standing
    exact ⟨n,below,by rw [number _ e path]; exact numberOf?_own n rest (wellFormed _ _ _ standing).2⟩
  obtain ⟨numbers,all⟩ := except_filterMapM_total (fun e : Path × Pagewright.Entry => numberOf? (leadingPart e.1.name))
    found fun e member => by
      obtain ⟨n,_,read⟩ := numbered e member
      exact ⟨_,read⟩
  have members := except_filterMapM_success _ _ _ all
  have bounded : ∀ m ∈ numbers, 0 ≤ m ∧ m < next := by
    intro m member
    obtain ⟨e,inside,read⟩ := (members m).mp member
    obtain ⟨n,below,read'⟩ := numbered e inside
    rw [read'] at read
    cases read
    omega
  have upper : largest numbers < next := by
    have positive := tidy.positive
    rcases largest_cases numbers with none | member
    · omega
    · exact (bounded _ member).2
  have lower : (next : Int) ≤ largest numbers + 1 := by
    rcases tidy.last with one | ⟨n,rest,entry,same,standing⟩
    · have natural := DocumentDirectory.largest_natural numbers fun m member => (bounded m member).1
      omega
    · obtain ⟨found',listed',member⟩ := t.mem_children d.root leads _ entry standing
      cases listed.symm.trans listed'
      have read := numberOf?_own n rest (wellFormed _ _ _ standing).2
      rw [← number (toString n ++ "-" ++ rest) (d.root.child _,entry) rfl] at read
      have bound := DocumentDirectory.le_largest numbers n ((members n).mpr ⟨_,member,read⟩)
      omega
  have shown : d.nextId t = .ok (toString (largest numbers + 1)) := by
    unfold MediaDirectory.nextId
    rw [listed]
    show (found.filterMapM (fun e : Path × Pagewright.Entry => numberOf? (leadingPart e.1.name)) >>= fun numbers =>
      Except.ok (toString (largest numbers + 1))) = _
    rw [all]
    rfl
  have most : largest numbers + 1 = (next : Int) := by omega
  rw [shown,most]
  rfl

/-- Nothing stands yet where the next file goes. -/
theorem Tidy.free (tidy : d.Tidy t next) (name : String) :
    t.find? (destination t.current d.root ++ [fileName (toString next) name]) = none := by
  cases standing : t.find? (destination t.current d.root ++ [fileName (toString next) name]) with
  | none => rfl
  | some entry =>
    obtain ⟨n,rest,_,below,same,_⟩ := tidy.own _ entry standing
    have number : next = n := number_inj next n (Path.ofText name).name rest same
    omega

variable (d t)

/-- A tree with one more file in the directory, and otherwise as it was. -/
structure Added (next : Nat) (name : String) (content : Content) (t' : FileTree) : Prop where
  wellFormed : t'.WellFormed
  spares : Spares nowhere t t'
  root : t'.find? (destination t.current d.root) = some .directory
  elsewhere : ∀ place, place ≠ destination t.current d.root →
    t'.find? place = if place = destination t.current d.root ++ [fileName (toString next) name] then
      some (.file content) else t.find? place

variable {d t} in
theorem Tidy.later {t' : FileTree} {name : String} {content : Content} (tidy : d.Tidy t next)
    (added : d.Added t next name content t') : d.Tidy t' (next + 1) where
  noFile other standing := by
    rw [added.spares.current,added.root] at standing
    cases standing
  own other entry standing := by
    rw [added.spares.current,added.elsewhere _ (by simp)] at standing
    split at standing
    next same =>
      cases standing
      exact ⟨next,(Path.ofText name).name,content,Nat.lt_succ_self _,child_inj _ _ _ same,rfl⟩
    next =>
      obtain ⟨n,rest,old,below,same,file⟩ := tidy.own other entry standing
      exact ⟨n,rest,old,Nat.lt_succ_of_lt below,same,file⟩
  last := by
    refine .inr ⟨next,(Path.ofText name).name,.file content,rfl,?_⟩
    rw [added.spares.current,added.elsewhere _ (by simp)]
    exact if_pos rfl

variable {d t} in
theorem Tidy.unchanged {t' : FileTree} (tidy : d.Tidy t next) (current : t'.current = t.current)
    (same : ∀ place, destination t.current d.root <+: place → t'.find? place = t.find? place) : d.Tidy t' next where
  noFile := by
    rw [current,same _ (List.prefix_refl _)]
    exact tidy.noFile
  own name := by
    rw [current,same _ (List.prefix_append _ _)]
    exact tidy.own name
  last := by
    rw [current]
    refine tidy.last.imp_right ?_
    rintro ⟨n,rest,entry,next,standing⟩
    exact ⟨n,rest,entry,next,(same _ (List.prefix_append _ _)).trans standing⟩

section Adding

variable {d t} (data : Path) (below : d = .below data) (tidy : d.Tidy t next) (wellFormed : t.WellFormed)
  (leads : t.LeadsToDirectory data)
include below tidy wellFormed leads

/-- The directory of a tidy library can be opened: it stands, or is made. -/
theorem Tidy.opens : ∃ made, t.makeDirectories d.root = .ok made ∧ made.WellFormed ∧ Spares nowhere t made ∧
    made.LeadsToDirectory d.root ∧ d.Tidy made next ∧
    ∀ place, place ≠ destination t.current d.root → made.find? place = t.find? place := by
  have root : d.root = data.child "media" := by
    rw [below]
    exact Path.append_name data "media" (by decide)
  have plain : Plain "media" := ⟨by decide,by decide,by decide⟩
  have media : destination t.current d.root = destination t.current data ++ ["media"] := by
    rw [root]
    exact destination_child _ data "media" plain
  have noFile := tidy.noFile
  rw [media] at noFile
  have made : ∃ made, t.makeDirectories d.root = .ok made ∧ ∀ place, place ≠ destination t.current d.root →
      made.find? place = t.find? place := by
    rw [media,root]
    rcases t.makeDirectories_child data leads "media" plain noFile with ⟨_,same⟩ | ⟨_,put⟩
    · exact ⟨t,same,fun _ _ => rfl⟩
    · exact ⟨_,put,fun place different => find?_put_of_ne t _ different⟩
  obtain ⟨made,making,same⟩ := made
  obtain ⟨opened,leads'⟩ := makeDirectories_success _ _ _ making
  refine ⟨made,making,opened.wellFormed wellFormed,makeDirectories_spares t made _ making,leads',?_,same⟩
  have inside (name : String) : made.find? (destination t.current d.root ++ [name]) =
      t.find? (destination t.current d.root ++ [name]) := same _ (by simp)
  constructor
  case noFile =>
    intro other stands
    cases leads'.2.symm.trans stands
  case own =>
    intro name entry stands
    rw [opened.current,inside] at stands
    exact tidy.own name entry stands
  case last =>
    rw [opened.current]
    simp only [inside]
    exact tidy.last

section Copying

variable (file : Path) (content : Content) (located : t.locate file = .ok (destination t.current file))
  (standing : t.find? (destination t.current file) = some (.file content)) (name : String)
include located standing

/-- A copy into a library that holds only its own files is one write in the opened directory, under the next number. -/
theorem Tidy.copies : ∃ made, made.WellFormed ∧ Spares nowhere t made ∧ made.LeadsToDirectory d.root ∧
    d.Tidy made next ∧ (∀ place, place ≠ destination t.current d.root → made.find? place = t.find? place) ∧
    d.copy file (.str name) t = made.write ⟨d.root.slashes,d.root.parts ++ [fileName (toString next) name]⟩ content >>=
      fun files => .ok (toString next,files) := by
  obtain ⟨made,making,wellFormed',spares,leads',tidy',same⟩ := tidy.opens data below wellFormed leads
  have target : d.root / fileName (toString next) name = _ :=
    Path.append_name d.root _ (fileName_component next name).1
  have reading : made.read file = .ok content := by
    refine read_standing made file _ content (locate_spared t made spares file _ (fun _ _ => id) located) ?_
    exact spares.stands _ _ id standing
  refine ⟨made,wellFormed',spares,leads',tidy',same,?_⟩
  unfold MediaDirectory.copy
  rw [making]
  show (do
    let id ← d.nextId made
    return (id,← made.copy file (← d.placeOf id (.str name)))) = _
  rw [tidy'.nextId wellFormed' leads']
  show (do return (toString next,← made.copy file (d.root / fileName (toString next) name))) = _
  rw [target,FileTree.copy,reading]
  rfl

/-- A file whose name fits is added to a library that holds only its own files. -/
theorem Tidy.add (clean : Char.ofNat 0 ∉ (Path.ofText name).name.toList) (fits : Fits (fileName (toString next) name)) :
    ∃ t', d.add file (.str name) t = (.ok (toString next),t') ∧ d.Added t next name content t' := by
  obtain ⟨made,wellFormed',spares,leads',tidy',same,copying⟩ :=
    tidy.copies data below wellFormed leads file content located standing name
  have plain : Plain (fileName (toString next) name) :=
    ⟨(fileName_component next name).2,fileName_clean next name clean,fits⟩
  have free := tidy'.free name
  rw [write_free made _ _ content (locate_child made d.root _ leads' plain) (by rw [free]; simp)] at copying
  refine ⟨made.put (destination made.current d.root ++ [fileName (toString next) name]) (.file content),?_,?_⟩
  · unfold MediaDirectory.add
    rw [isFile_standing t file _ content located standing]
    dsimp only
    rw [copying]
    rfl
  · have directory := leads'.2
    rw [spares.current] at directory free ⊢
    have stays := spares_put_free made _ (.file content) free
    constructor
    case wellFormed => exact wellFormed_put made wellFormed' _ _ _ directory fits (by rw [free]; simp)
    case spares => exact spares.trans stays
    case root => exact stays.stands _ _ id directory
    case elsewhere =>
      intro place different
      rw [find?_put _ _ _ _ (by simp),same place different]

/-- A file whose name does not fit is refused. -/
theorem Tidy.refuses (clean : Char.ofNat 0 ∉ (Path.ofText name).name.toList)
    (long : ¬ Fits (fileName (toString next) name)) :
    ∃ failure, failure.isReported = true ∧ d.add file (.str name) t = (.error failure,t) := by
  obtain ⟨made,_,_,leads',_,_,copying⟩ := tidy.copies data below wellFormed leads file content located standing name
  rw [FileTree.write,locate_long made d.root _ leads' (fileName_clean next name clean) long] at copying
  refine ⟨.collaborator s!"Could not import '{name}'" "directory" (some (.file .nameTooLong
    (Path.text ⟨d.root.slashes,d.root.parts ++ [fileName (toString next) name]⟩))) [],rfl,?_⟩
  unfold MediaDirectory.add
  rw [isFile_standing t file _ content located standing]
  dsimp only
  rw [copying]
  rfl

end Copying

end Adding

end Host.MediaDirectory

end Pagewright
