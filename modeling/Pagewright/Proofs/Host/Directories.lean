import Mathlib.Data.String.Basic
import Pagewright.Host.DocumentStore
import Pagewright.Host.Site
import Pagewright.Proofs.Decimal.Numerals
import Pagewright.Proofs.Except
import Pagewright.Proofs.Files.Progress
import Pagewright.Proofs.Files.Texts

/-! Directories of documents and of media files. No file name has a negative number, and the number after the largest one
is in no name yet. So a new file gets a name that no file of the directory has, and nothing else is written. -/
namespace Pagewright.Decimal

theorem length_le_utf8ByteSize (s : List Char) : s.length ≤ (String.ofList s).utf8ByteSize := by
  rw [String.utf8ByteSize_ofList]
  induction s with
  | nil => simp
  | cons c s ih =>
    have some := c.utf8Size_pos
    simp only [List.length_cons,String.utf8Len_cons]
    omega

/-- Characters of one byte each count as bytes. -/
theorem utf8ByteSize_single (s : List Char) (single : ∀ c ∈ s, c.utf8Size = 1) :
    (String.ofList s).utf8ByteSize = s.length := by
  rw [String.utf8ByteSize_ofList]
  induction s with
  | nil => rfl
  | cons c s ih =>
    rw [String.utf8Len_cons,ih fun other member => single other (List.mem_cons_of_mem c member),
      single c List.mem_cons_self]
    rfl

theorem utf8ByteSize_digits (s : List Char) (digits : ∀ c ∈ s, c.isDigit = true) :
    (String.ofList s).utf8ByteSize = s.length := by
  refine utf8ByteSize_single s fun c member => ?_
  have digit := digits c member
  unfold Char.isDigit at digit
  simp only [Bool.and_eq_true,decide_eq_true_eq,ge_iff_le] at digit
  rw [Char.utf8Size_eq_one_iff]
  exact UInt32.le_trans digit.2 (by decide)

end Pagewright.Decimal

namespace Pagewright.Host.DocumentDirectory

theorem numberOf?_toString (n : Nat) (short : (Nat.toDigits 10 n).length ≤ Decimal.maxDigits) :
    numberOf? (toString n) = .ok (some n) := by
  have chars : (toString n).toList = Nat.toDigits 10 n := by
    rw [Nat.toString_eq_repr,Nat.toList_repr]
  have proper : (toString n).isEmpty = false := by
    rw [String.isEmpty_eq_false_iff]
    intro empty
    rw [empty] at chars
    exact Nat.toDigits_ne_nil chars.symm
  have digits : (Nat.toDigits 10 n).all Text.isDigitLike = true := by
    rw [List.all_eq_true]
    intro c member
    exact Decimal.digitLike_of_digit c (Nat.isDigit_of_mem_toDigits (by decide) (by decide) member)
  unfold numberOf?
  rw [proper,chars,digits]
  simp only [Value.toInt,chars,Decimal.readInt_toDigits n short]
  rfl

theorem numberOf?_natural (text : String) (n : Int) (ok : numberOf? text = .ok (some n)) : 0 ≤ n := by
  unfold numberOf? at ok
  split at ok
  next digits =>
    have unsigned : '-' ∉ text.toList := by
      intro member
      simp only [Bool.and_eq_true,List.all_eq_true] at digits
      exact absurd (digits.2 '-' member) (by decide)
    simp only [Value.toInt] at ok
    split at ok
    next m read =>
      cases ok
      exact Decimal.readInt_unsigned _ _ unsigned read
    · cases ok
    · cases ok
  next => cases ok

theorem le_foldl_max (numbers : List Int) (first : Int) :
    first ≤ numbers.foldl max first ∧ ∀ n ∈ numbers, n ≤ numbers.foldl max first := by
  induction numbers generalizing first with
  | nil => exact ⟨le_refl _,fun _ member => nomatch member⟩
  | cons number numbers ih =>
    obtain ⟨start,rest⟩ := ih (max first number)
    refine ⟨(le_max_left _ _).trans start,fun n member => ?_⟩
    obtain rfl | member := List.mem_cons.mp member
    · exact (le_max_right _ _).trans start
    · exact rest n member

theorem le_largest (numbers : List Int) (n : Int) (member : n ∈ numbers) : n ≤ largest numbers := by
  cases numbers with
  | nil => cases member
  | cons first rest =>
    obtain rfl | member := List.mem_cons.mp member
    · exact (le_foldl_max rest n).1
    · exact (le_foldl_max rest first).2 n member

theorem largest_natural (numbers : List Int) (natural : ∀ n ∈ numbers, 0 ≤ n) : 0 ≤ largest numbers := by
  cases numbers with
  | nil => exact le_refl 0
  | cons first rest => exact (natural first List.mem_cons_self).trans (le_foldl_max rest first).1

end Pagewright.Host.DocumentDirectory

namespace Pagewright

theorem except_filterMapM_success {ε α β : Type} (f : α → Except ε (Option β)) (items : List α)
    (results : List β) (ok : items.filterMapM f = .ok results) (b : β) :
    b ∈ results ↔ ∃ item ∈ items, f item = .ok (some b) := by
  induction items generalizing results with
  | nil =>
    cases ok
    simp
  | cons item items ih =>
    rw [List.filterMapM_cons] at ok
    obtain ⟨first,head,ok⟩ := except_bind_success _ _ _ ok
    cases first with
    | none =>
      rw [ih results ok]
      simp [head]
    | some first =>
      obtain ⟨rest,tail,ok⟩ := except_bind_success _ _ _ ok
      cases ok
      rw [List.mem_cons,ih rest tail]
      simp [head,eq_comm]

/-- A name is split at its last dot. -/
theorem Path.splitName_dot (name : String) (stem ending : List Char)
    (chars : name.toList = stem ++ '.' :: ending) (some : stem ≠ []) (more : ending ≠ [])
    (noDot : '.' ∉ ending) : splitName name = (String.ofList stem,String.ofList ('.' :: ending)) := by
  have reversed : name.toList.reverse = ending.reverse ++ '.' :: stem.reverse := by
    rw [chars]
    simp
  have plain : ∀ c ∈ ending.reverse, (c != '.') = true := by
    intro c member
    rw [List.mem_reverse] at member
    simp only [bne_iff_ne,ne_eq]
    rintro rfl
    exact noDot member
  have last : name.toList.reverse.takeWhile (· != '.') = ending.reverse := by
    rw [reversed,List.takeWhile_append_of_pos plain]
    simp
  have rest : name.toList.reverse.dropWhile (· != '.') = '.' :: stem.reverse := by
    rw [reversed,List.dropWhile_append_of_pos plain]
    simp
  simp only [splitName,last,rest]
  simp [some,more]

namespace FileTree

variable (t : FileTree)

theorem destination_name (current : Place) (p : Path) (name : String) (component : Path.IsComponent name)
    (noDots : name ≠ "..") : destination current (p / name) = destination current p ++ [name] := by
  rw [Path.append_name p name component,destination_append]
  exact enter_name _ _ noDots

/-- What stands in a directory is among its children. -/
theorem mem_children (p : Path) (leads : t.LeadsToDirectory p) (name : String) (entry : Entry)
    (standing : t.find? (destination t.current p ++ [name]) = some entry) :
    ∃ found, t.children p = .ok found ∧ (p.child name,entry) ∈ found := by
  have listed : t.entries.lookup (destination t.current p ++ [name]) = some entry := by
    simpa [find?] using standing
  obtain ⟨before,after,split,_⟩ := List.lookup_eq_some_iff.mp listed
  refine ⟨_,by simp only [children,leads.1,leads.2,bind,Except.bind]; rfl,?_⟩
  refine List.mem_map.mpr ⟨(destination t.current p ++ [name],entry),?_,by simp⟩
  simp [childrenAt,split]

end FileTree

open FileTree

namespace Host.DocumentDirectory

variable (d : DocumentDirectory) (t t' : FileTree)

theorem number_component (n : Nat) (ending : String) (whole : '/' ∉ ending.toList) :
    Path.IsComponent (toString n ++ ending) ∧ toString n ++ ending ≠ ".." := by
  have chars : (toString n).toList = Nat.toDigits 10 n := by
    rw [Nat.toString_eq_repr,Nat.toList_repr]
  have digits : ∀ c ∈ Nat.toDigits 10 n, c.isDigit = true :=
    fun c member => Nat.isDigit_of_mem_toDigits (by decide) (by decide) member
  have starts : ∃ c rest, (toString n ++ ending).toList = c :: rest ∧ c.isDigit = true := by
    rw [String.toList_append,chars]
    cases all : Nat.toDigits 10 n with
    | nil => exact absurd all Nat.toDigits_ne_nil
    | cons c rest => exact ⟨c,_,rfl,digits c (all ▸ List.mem_cons_self)⟩
  obtain ⟨c,rest,start,digit⟩ := starts
  have other (text : String) (first : text.toList.head?.any Char.isDigit = false) :
      toString n ++ ending ≠ text := by
    rintro rfl
    rw [start] at first
    cases digit.symm.trans first
  refine ⟨⟨?_,other "" rfl,other "." rfl⟩,other ".." rfl⟩
  rw [String.toList_append,chars,List.mem_append,not_or]
  exact ⟨fun member => absurd (digits '/' member) (by decide),whole⟩

/-- The name of the file of a document. -/
def fileName (id : String) : String := id ++ ".json"

theorem stem_fileName (p : Path) (n : Nat) : (p.child (fileName (toString n))).stem = toString n := by
  have some : (toString n).toList ≠ [] := by
    rw [Nat.toString_eq_repr,Nat.toList_repr]
    exact Nat.toDigits_ne_nil
  have name : (p.child (fileName (toString n))).name = toString n ++ ".json" := by
    simp [Path.child,Path.name,fileName]
  have split := Path.splitName_dot (toString n ++ ".json") (toString n).toList "json".toList
    String.toList_append some (by decide) (by decide)
  rw [Path.stem,name,split,String.ofList_toList]

theorem largest_beyond (found : List Path) (numbers : List Int)
    (ok : found.filterMapM (fun path => numberOf? path.stem) = .ok numbers) :
    ∃ n : Nat, largest numbers + 1 = n ∧
      ∀ path ∈ found, ∀ m : Int, numberOf? path.stem = .ok (some m) → m < n := by
  have natural := largest_natural numbers fun m member => by
    obtain ⟨path,_,read⟩ := (except_filterMapM_success _ _ _ ok m).mp member
    exact numberOf?_natural _ m read
  refine ⟨(largest numbers + 1).toNat,by omega,fun path member m read => ?_⟩
  have bound := le_largest numbers m ((except_filterMapM_success _ _ _ ok m).mpr ⟨path,member,read⟩)
  omega

/-- A new number is larger than that of any document there is. -/
theorem nextId_beyond (leads : t.LeadsToDirectory d.root) (id : String) (ok : d.nextId t = .ok id) :
    ∃ n : Nat, id = toString n ∧ ∀ (m : Nat) entry,
      t.find? (destination t.current d.root ++ [fileName (toString m)]) = some entry →
      (Nat.toDigits 10 m).length ≤ Decimal.maxDigits → m < n := by
  obtain ⟨found,ending,ok⟩ := except_bind_success _ _ _ ok
  obtain ⟨numbers,numbered,ok⟩ := except_bind_success _ _ _ ok
  cases ok
  obtain ⟨n,next,beyond⟩ := largest_beyond found numbers numbered
  refine ⟨n,by rw [next]; rfl,fun m entry standing short => ?_⟩
  obtain ⟨children,listed,member⟩ := mem_children t d.root leads _ entry standing
  have path : d.root.child (fileName (toString m)) ∈ found := by
    unfold childrenEnding at ending
    rw [isDirectory_leads t d.root leads,listed] at ending
    cases ending
    refine List.mem_filter.mpr ⟨List.mem_map.mpr ⟨_,member,rfl⟩,?_⟩
    have name : (d.root.child (fileName (toString m))).name = toString m ++ ".json" := by
      simp [Path.child,Path.name,fileName]
    rw [name,← String.endsWith_toSlice,String.Slice.endsWith_string_iff]
    simp
  have read : numberOf? (d.root.child (fileName (toString m))).stem = .ok (some (m : Int)) := by
    rw [stem_fileName]
    exact numberOf?_toString m short
  exact_mod_cast beyond _ path m read

theorem short_of_fits (n : Nat) (fits : Fits (fileName (toString n))) :
    (Nat.toDigits 10 n).length ≤ Decimal.maxDigits := by
  have chars : String.ofList (Nat.toDigits 10 n) = toString n := by
    rw [Nat.toString_eq_repr,← Nat.toList_repr,String.ofList_toList]
  have bytes := Decimal.length_le_utf8ByteSize (Nat.toDigits 10 n)
  have within : (toString n).utf8ByteSize + ".json".utf8ByteSize ≤ maxName := by
    rw [← String.utf8ByteSize_append]
    exact fits
  rw [chars] at bytes
  have bounds : maxName ≤ Decimal.maxDigits := by decide
  omega

/-- A document stands in its file, in its stored form. -/
structure Holds (id : String) (document : NewDocument) : Prop where
  numbered : ∃ n : Nat, id = toString n
  fits : Fits (fileName id)
  standing : t.contentAt? (destination t.current d.root ++ [fileName id]) =
    some (.document (.json (.indented 2)) (d.stored document))

theorem destination_fileOf (current : Place) (n : Nat) :
    destination current (d.fileOf (toString n)) = destination current d.root ++ [fileName (toString n)] := by
  obtain ⟨component,noDots⟩ := number_component n ".json" (by decide)
  exact destination_name current d.root _ component noDots

theorem write_success (document : NewDocument) (id : String) (ok : d.write document t = .ok (id,t')) :
    ∃ made, t.makeDirectories d.root = .ok made ∧ d.nextId made = .ok id ∧
      made.write (d.fileOf id) (.document (.json (.indented 2)) (d.stored document)) = .ok t' := by
  obtain ⟨made,making,ok⟩ := except_bind_success _ _ _ ok
  obtain ⟨next,numbered,ok⟩ := except_bind_success _ _ _ ok
  obtain ⟨written,writing,ok⟩ := except_bind_success _ _ _ ok
  cases ok
  exact ⟨made,making,numbered,writing⟩

/-- A new document is held, and all others still are. -/
theorem write_holds (document : NewDocument) (id : String) (ok : d.write document t = .ok (id,t')) :
    d.Holds t' id document ∧ ∀ other old, d.Holds t other old → d.Holds t' other old := by
  obtain ⟨made,making,numbered,writing⟩ := d.write_success t t' document id ok
  obtain ⟨opened,leads⟩ := makeDirectories_success _ _ _ making
  obtain ⟨n,rfl,beyond⟩ := d.nextId_beyond made leads id numbered
  obtain ⟨component,noDots⟩ := number_component n ".json" (by decide)
  obtain ⟨located,standing⟩ := write_leads made t' _ _ writing
  have changes := write_changes made t' _ _ (by
    rw [fileOf,Path.append_name _ _ component]
    simp) writing
  rw [destination_fileOf] at standing changes
  have fits : Fits (fileName (toString n)) := by
    refine (locate_place _ _ _ located).2 _ ?_
    rw [fileOf,Path.append_name _ _ component]
    simp [fileName]
  refine ⟨⟨⟨n,rfl⟩,fits,?_⟩,fun other old held => ?_⟩
  · rw [contentAt?_eq_some,changes.current]
    exact standing
  · obtain ⟨m,rfl⟩ := held.numbered
    have before : made.contentAt? (destination made.current d.root ++ [fileName (toString m)]) =
        some (.document (.json (.indented 2)) (d.stored old)) := by
      rw [contentAt?_kept opened _ (fun never => never) (fun never => never),opened.current]
      exact held.standing
    have less := beyond m _ ((contentAt?_eq_some _ _ _).mp before) (short_of_fits m held.fits)
    refine ⟨⟨m,rfl⟩,held.fits,?_⟩
    rw [changes.current,contentAt?_kept changes _ ?_ (fun never => never)]
    · exact before
    · intro same
      have names := child_inj _ _ _ same
      have digits : toString m = toString n := by
        simpa [fileName] using names
      have numbers := congrArg (fun text => Nat.ofDigitChars 10 text.toList 0) digits
      simp [Nat.toString_eq_repr] at numbers
      omega

theorem create_keeps (document : NewDocument) (other : String) (old : NewDocument) (held : d.Holds t other old) :
    d.Holds (d.create document t).2 other old := by
  unfold create
  split
  next id files ok => exact (d.write_holds t files document id ok).2 other old held
  next => exact held

theorem create_holds (document : NewDocument) (id : String) (ok : d.create document t = (.ok id,t')) :
    d.Holds t' id document := by
  unfold create at ok
  split at ok
  next id' files written =>
    cases ok
    exact (d.write_holds t t' document id written).1
  next => cases ok

/-- A document is still held where nothing is written or lost in the directory. -/
theorem holds_later {written made lost : Place → Prop} (changes : Changes written made lost t t')
    (unwritten : ∀ name, ¬ written (destination t.current d.root ++ [name]))
    (unlost : ∀ name, ¬ lost (destination t.current d.root ++ [name])) (id : String)
    (document : NewDocument) (held : d.Holds t id document) : d.Holds t' id document := by
  refine ⟨held.numbered,held.fits,?_⟩
  rw [changes.current,contentAt?_kept changes _ (unwritten _) (unlost _)]
  exact held.standing

theorem onSite_create {ρ : Type} (document : NewDocument) (site : Site ρ) :
    (d.onSite ρ).create document site =
      ((d.create document site.files).1,site.withFiles (d.create document site.files).2) := rfl

end Host.DocumentDirectory

namespace Host.MediaDirectory

variable (d : MediaDirectory) (t t' : FileTree)

theorem copy_success (file : Path) (name : Value) (id : String) (ok : d.copy file name t = .ok (id,t')) :
    ∃ made target, t.makeDirectories d.root = .ok made ∧ d.nextId made = .ok id ∧
      d.placeOf id name = .ok target ∧ made.copy file target = .ok t' := by
  obtain ⟨made,making,ok⟩ := except_bind_success _ _ _ ok
  obtain ⟨next,numbered,ok⟩ := except_bind_success _ _ _ ok
  obtain ⟨target,named,ok⟩ := except_bind_success _ _ _ ok
  obtain ⟨copied,copying,ok⟩ := except_bind_success _ _ _ ok
  cases ok
  exact ⟨made,target,making,numbered,named,copying⟩

theorem slash_name (text : String) : '/' ∉ (Path.ofText text).name.toList := by
  unfold Path.name
  cases last : (Path.ofText text).parts.getLast? with
  | none => exact List.not_mem_nil
  | some part => exact ((Path.written_ofText text).parts part (List.mem_of_getLast? last)).1

theorem nextId_number (id : String) (ok : d.nextId t = .ok id) : ∃ n : Nat, id = toString n := by
  obtain ⟨found,_,ok⟩ := except_bind_success _ _ _ ok
  obtain ⟨numbers,numbered,ok⟩ := except_bind_success _ _ _ ok
  cases ok
  have natural := DocumentDirectory.largest_natural numbers fun m member => by
    obtain ⟨path,_,read⟩ := (except_filterMapM_success _ _ _ numbered m).mp member
    exact DocumentDirectory.numberOf?_natural _ m read
  refine ⟨(DocumentDirectory.largest numbers + 1).toNat,?_⟩
  obtain ⟨n,same⟩ := Int.eq_ofNat_of_zero_le (show 0 ≤ DocumentDirectory.largest numbers + 1 by omega)
  rw [same]
  rfl

/-- The name under which a file is kept. -/
def fileName (id text : String) : String := id ++ "-" ++ (Path.ofText text).name

theorem fileName_component (n : Nat) (text : String) :
    Path.IsComponent (fileName (toString n) text) ∧ fileName (toString n) text ≠ ".." := by
  have whole : '/' ∉ ("-" ++ (Path.ofText text).name).toList := by
    rw [String.toList_append,List.mem_append,not_or]
    exact ⟨by decide,slash_name text⟩
  have component := DocumentDirectory.number_component n ("-" ++ (Path.ofText text).name) whole
  rwa [← String.append_assoc] at component

/-- Adding a file writes one file of the directory at most. -/
theorem add_changes (file : Path) (name : Value) :
    Changes (fun place => ∃ name, place = destination t.current d.root ++ [name]) (OnPath t.current d.root)
      nowhere t (d.add file name t).2 := by
  unfold add
  split
  · exact Changes.refl t
  · exact Changes.refl t
  · split
    next id files copied =>
      obtain ⟨made,target,making,numbered,named,copying⟩ := d.copy_success t files file name id copied
      obtain ⟨opened,_⟩ := makeDirectories_success _ _ _ making
      obtain ⟨n,rfl⟩ := d.nextId_number made id numbered
      obtain ⟨content,_,writing⟩ := FileTree.copy_success made files _ _ copying
      unfold placeOf at named
      split at named
      next text =>
        cases named
        obtain ⟨component,noDots⟩ := fileName_component n text
        have changes := write_changes made files _ content (by
          show (d.root / fileName (toString n) text).parts ≠ []
          rw [Path.append_name _ _ component]
          simp) writing
        have place := destination_name made.current d.root _ component noDots
        rw [opened.current] at place
        rw [fileName] at place
        rw [opened.current,place] at changes
        refine (opened.weaken (fun _ => False.elim) (fun _ => id) (fun _ => id)).trans
          (changes.weaken ?_ (fun _ => False.elim) (fun _ => id))
        rintro place rfl
        exact ⟨_,rfl⟩
      next => cases named
    next => exact Changes.refl t

theorem onSite_add {ρ : Type} (file : Path) (name : Value) (site : Site ρ) :
    (d.onSite ρ).add file name site =
      ((d.add file name site.files).1,site.withFiles (d.add file name site.files).2) := rfl

end Host.MediaDirectory

end Pagewright
