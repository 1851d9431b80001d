import Pagewright.Proofs.Host.Deposits

/-! Stores in directories. Documents and media files are both put under the next number, so a call adds one file or
changes nothing, as long as no name in the directory passes for a number. -/
namespace Pagewright

theorem except_filterMapM_map {ε α β γ : Type} (g : α → β) (f : β → Except ε (Option γ)) (items : List α) :
    (items.map g).filterMapM f = items.filterMapM fun item => f (g item) := by
  induction items with
  | nil => rfl
  | cons item items ih =>
    rw [List.map_cons,List.filterMapM_cons,List.filterMapM_cons,ih]

namespace Host
open FileTree
open DocumentDirectory (numberOf?)

section Calls

/-- The answer of a store: a refusal of the file system in words of its own, another fault as it is. -/
def answer (message collaborator : String) (t : FileTree) :
    Except Fault (String × FileTree) → Except Failure String × FileTree
  | .ok (id,files) => (.ok id,files)
  | .error fault => (.error (if fault.isFile then .collaborator message collaborator (some fault) [] else .fault fault),t)

variable {label : String → Option String} (naming : Naming label) (root : Path) (collaborator : String)

/-- A call of a store is refused in its name and changes nothing, or adds one file. -/
structure Keeps (call : FileTree → Except Failure String × FileTree) (given : Content → Prop) (t : FileTree) : Prop where
  refused : ∀ failure t', call t = (.error failure,t') →
    t' = t ∧ ∃ message cause, failure = .collaborator message collaborator cause []
  added : ∀ id t', call t = (.ok id,t') → ∃ content, given content ∧ NewFile naming root content t id t'

variable {collaborator} (call : FileTree → Except Failure String × FileTree) (t : FileTree)

theorem keeps_refused (given : Content → Prop) (message : String) (cause : Option Fault)
    (ran : call t = (.error (.collaborator message collaborator cause []),t)) :
    Keeps naming root collaborator call given t := by
  constructor
  · intro failure t' ran'
    cases ran.symm.trans ran'
    exact ⟨rfl,message,cause,rfl⟩
  · intro id t' ran'
    cases ran.symm.trans ran'

variable (message : String) (content : Content)
  (same : call t = answer message collaborator t (deposit naming root content t)) (clean : NoNull root)
include same clean

theorem keeps_deposit (given : Content → Prop) (is : given content) (countable : Countable label root t) :
    Keeps naming root collaborator call given t ∧ Countable label root (call t).2 := by
  obtain ⟨fault,refused,file⟩ | ⟨id,t',ok,new,later⟩ := deposit_cases naming root content t clean countable
  · have ran : call t = (.error (.collaborator message collaborator (some fault) []),t) := by
      rw [same,refused]
      exact congrArg (fun failure => (Except.error failure,t)) (if_pos file)
    rw [ran]
    exact ⟨keeps_refused naming root call t given message (some fault) ran,countable⟩
  · have ran : call t = (.ok id,t') := by
      rw [same,ok]
      rfl
    rw [ran]
    refine ⟨⟨fun failure other ran' => ?_,fun id' other ran' => ?_⟩,later⟩
    · cases ran.symm.trans ran'
    · cases ran.symm.trans ran'
      exact ⟨content,is,new⟩

/-- A call that keeps all files was not misled. -/
theorem countable_of_keeps (given : Content → Prop) (keeps : Keeps naming root collaborator call given t) :
    Countable label root t := by
  refine (countable_iff naming root content t clean).mpr fun fault refused => ?_
  have ran : call t = (.error (if fault.isFile then .collaborator message collaborator (some fault) []
      else .fault fault),t) := by
    rw [same,refused]
    rfl
  obtain ⟨_,words,cause,reported⟩ := keeps.refused _ _ ran
  by_contra none
  rw [if_neg none] at reported
  cases reported

end Calls

section Runs

variable {ρ : Type} (call : ρ → FileTree → Except Failure String × FileTree) (keeps : ρ → FileTree → Prop)

/-- Calls one after another. -/
def runCalls (requests : List ρ) (t : FileTree) : FileTree := requests.foldl (fun t request => (call request t).2) t

/-- Every call of a run keeps the files that it finds. -/
def KeepsAll : List ρ → FileTree → Prop
  | [],_ => True
  | request :: rest,t => keeps request t ∧ KeepsAll rest (call request t).2

theorem keepsAll_of_step (invariant : FileTree → Prop)
    (step : ∀ request t, invariant t → keeps request t ∧ invariant (call request t).2) (requests : List ρ) (t : FileTree)
    (start : invariant t) : KeepsAll call keeps requests t := by
  induction requests generalizing t with
  | nil => trivial
  | cons request rest ih =>
    obtain ⟨kept,next⟩ := step request t start
    exact ⟨kept,ih _ next⟩

theorem runCalls_spares (invariant : FileTree → Prop)
    (step : ∀ request t, invariant t → Spares nowhere t (call request t).2 ∧ invariant (call request t).2)
    (requests : List ρ) (t : FileTree) (start : invariant t) : Spares nowhere t (runCalls call requests t) := by
  induction requests generalizing t with
  | nil => exact .refl t
  | cons request rest ih =>
    obtain ⟨spares,next⟩ := step request t start
    exact spares.trans (ih _ next)

end Runs

theorem Keeps.spares {label : String → Option String} {naming : Naming label} {root : Path} {collaborator : String}
    {call : FileTree → Except Failure String × FileTree} {given : Content → Prop} {t : FileTree}
    (keeps : Keeps naming root collaborator call given t) : Spares nowhere t (call t).2 := by
  rcases ran : call t with ⟨failure | id,t'⟩
  · rw [(keeps.refused failure t' ran).1]
    exact .refl t
  · obtain ⟨_,_,new⟩ := keeps.added id t' ran
    exact new.kept

namespace DocumentDirectory

def labelOf (name : String) : Option String := if name.endsWith ".json" then some (Path.splitName name).1 else none

theorem number_clean (n : Nat) (ending : String) (clean : Char.ofNat 0 ∉ ending.toList) :
    Char.ofNat 0 ∉ (toString n ++ ending).toList := by
  rw [String.toList_append,Nat.toString_eq_repr,Nat.toList_repr,List.mem_append,not_or]
  exact ⟨fun digit => absurd (Nat.isDigit_of_mem_toDigits (by decide) (by decide) digit) (by decide),clean⟩

def naming : Naming labelOf where
  fileName := fileName
  component n := number_component n ".json" (by decide)
  noNull n := number_clean n ".json" (by decide)
  labelled n := by
    have stem := stem_fileName ⟨0,[]⟩ n
    have ends : (fileName (toString n)).endsWith ".json" = true := by
      rw [fileName,← String.endsWith_toSlice,String.Slice.endsWith_string_iff]
      simp
    unfold labelOf
    rw [if_pos ends]
    simpa [Path.stem,Path.child,Path.name] using stem
  short := short_of_fits

variable (d : DocumentDirectory) (t : FileTree)

theorem nextId_labelled (leads : t.LeadsToDirectory d.root) : d.nextId t = nextLabelled d.root labelOf t := by
  obtain ⟨found,listed⟩ := t.children_leads d.root leads
  have labels (found : List (Path × Entry)) : (found.filterMap fun e => labelOf e.1.name) =
      ((found.map (·.1)).filter fun child => child.name.endsWith ".json").map Path.stem := by
    induction found with
    | nil => rfl
    | cons e found ih =>
      rw [List.filterMap_cons,List.map_cons,List.filter_cons,ih]
      unfold labelOf
      split <;> simp_all [Path.stem]
  unfold nextId nextLabelled childrenEnding
  rw [isDirectory_leads t d.root leads,listed]
  dsimp only [bind,Except.bind,pure,Except.pure]
  rw [labels,except_filterMapM_map]
  rfl

/-- What a document is written as. -/
def contentOf (document : NewDocument) : Content := .document (.json (.indented 2)) (d.stored document)

theorem write_deposit (document : NewDocument) :
    d.write document t = deposit naming d.root (d.contentOf document) t := by
  unfold write deposit
  cases making : t.makeDirectories d.root with
  | error fault => rfl
  | ok made =>
    dsimp only [bind,Except.bind]
    rw [d.nextId_labelled made (makeDirectories_success _ _ _ making).2]
    rfl

theorem create_answer (document : NewDocument) : d.create document t =
    answer s!"Could not write document '{document.title.text}'" "json" t
      (deposit naming d.root (d.contentOf document) t) := by
  rw [← d.write_deposit]
  unfold create answer
  rcases d.write document t with fault | ⟨id,files⟩ <;> rfl

/-- The document that is read back has what was given. -/
def Returns (files : FileTree) (id : String) (document : NewDocument) : Prop :=
  ∃ fields : Table Value, d.read files id = .ok (.object fields) ∧ fields.get? "title" = some document.title ∧
    fields.get? "type" = some document.type ∧ fields.get? "status" = some (.str document.status) ∧
    fields.get? "content" = some (.list document.content) ∧
    (document.pageSettings ≠ [] → fields.get? "page_settings" = some (.object document.pageSettings))

/-- A new document is read back, as long as everything stands. -/
theorem returns_new (document : NewDocument) (id : String) (t' later : FileTree)
    (new : NewFile naming d.root (d.contentOf document) t id t') (spares : Spares nowhere t' later) :
    d.Returns later id document := by
  have located : later.locate (d.fileOf id) = .ok (destination t.current d.root ++ [fileName id]) :=
    locate_spared t' later spares _ _ (fun _ _ never => never) new.located
  have stands := spares.stands _ _ (fun never => never) new.stands
  have read : d.read later id = .ok (d.stored document) := by
    unfold DocumentDirectory.read
    dsimp only
    rw [isFile_standing later _ _ _ located stands,read_standing later _ _ _ located stands]
    rfl
  refine ⟨_,read,rfl,rfl,rfl,rfl,fun some => ?_⟩
  have settings : document.pageSettings.isEmpty = false := by simpa using some
  rw [settings]
  rfl

/-- A document is refused, or added and read back, right away and after any more documents. -/
structure KeepsFiles (document : NewDocument) (t : FileTree) : Prop where
  keeps : Keeps naming d.root "json" (d.create document) (· = d.contentOf document) t
  returns : ∀ id t', d.create document t = (.ok id,t') →
    ∀ more, d.Returns (runCalls d.create more t') id document

variable (clean : NoNull d.root)
include clean

theorem create_keeps_files (document : NewDocument) (countable : Countable labelOf d.root t) :
    d.KeepsFiles document t ∧ Countable labelOf d.root (d.create document t).2 := by
  have step (document : NewDocument) (t : FileTree) := keeps_deposit naming d.root (d.create document) t _
    (d.contentOf document) (d.create_answer t document) clean (· = d.contentOf document) rfl
  obtain ⟨keeps,next⟩ := step document t countable
  refine ⟨⟨keeps,fun id t' ran more => ?_⟩,next⟩
  obtain ⟨_,rfl,new⟩ := keeps.added id t' ran
  -- Later calls leave all files as they are, so what is read back now is read back after them.
  rw [ran] at next
  refine d.returns_new t document id t' _ new ?_
  refine runCalls_spares d.create (Countable labelOf d.root) (fun other s start => ?_) more t' next
  obtain ⟨kept,after⟩ := step other s start
  exact ⟨kept.spares,after⟩

theorem keepsFiles_iff : (∀ documents, KeepsAll d.create d.KeepsFiles documents t) ↔ Countable labelOf d.root t := by
  constructor
  · intro all
    let document : NewDocument := ⟨.null,[],.null,[],""⟩
    exact countable_of_keeps naming d.root (d.create document) t _ _ (d.create_answer t document) clean _
      (all [document]).1.keeps
  · exact fun countable documents => keepsAll_of_step d.create d.KeepsFiles (Countable labelOf d.root)
      (fun document s start => d.create_keeps_files s clean document start) documents t countable

end DocumentDirectory

namespace MediaDirectory

def labelOf (name : String) : Option String := some (leadingPart name)

/-- A file to be added under a name: the path can be looked up, and the name can be one of a file. -/
structure Request where
  file : Path
  name : String
  fits : ∀ part ∈ file.parts, Fits part
  clean : Char.ofNat 0 ∉ (Path.ofText name).name.toList

def naming (request : Request) : Naming labelOf where
  fileName id := fileName id request.name
  component n := fileName_component n request.name
  noNull n := fileName_clean n request.name request.clean
  labelled n := congrArg some (leadingPart_number n (Path.ofText request.name).name)
  short n fits := by
    have bytes := Decimal.length_le_utf8ByteSize (toString n ++ "-" ++ (Path.ofText request.name).name).toList
    rw [String.ofList_toList,fileName_chars,List.length_append] at bytes
    unfold Fits maxName fileName at fits
    unfold Decimal.maxDigits
    omega

variable (d : MediaDirectory) (t : FileTree) (request : Request)

theorem nextId_labelled : d.nextId t = nextLabelled d.root labelOf t := by
  unfold nextId nextLabelled
  cases t.children d.root with
  | error fault => rfl
  | ok found =>
    have labels : (found.filterMap fun e => labelOf e.1.name) = found.map fun e => leadingPart e.1.name :=
      congrFun List.filterMap_eq_map found
    dsimp only [bind,Except.bind]
    rw [labels,except_filterMapM_map]

theorem copy_deposit (content : Content) (read : t.read request.file = .ok content) :
    d.copy request.file (.str request.name) t = deposit (naming request) d.root content t := by
  unfold copy deposit
  cases making : t.makeDirectories d.root with
  | error fault => rfl
  | ok made =>
    have spares := makeDirectories_spares t made d.root making
    -- The source is read once the directory is there, and is still the same file.
    have still : made.read request.file = .ok content :=
      read_standing made _ _ content (locate_spared t made spares _ _ (fun _ _ => id) (t.read_located _ content read))
        (spares.stands _ _ id (t.read_stands _ content read))
    dsimp only [bind,Except.bind]
    rw [d.nextId_labelled made]
    cases nextLabelled d.root labelOf made with
    | error fault => rfl
    | ok id =>
      unfold FileTree.copy
      dsimp only [placeOf,bind,Except.bind]
      rw [still]
      rfl

def addRequest (request : Request) : FileTree → Except Failure String × FileTree := d.add request.file (.str request.name)

theorem add_answer (content : Content) (read : t.read request.file = .ok content) : d.addRequest request t =
    answer s!"Could not import '{request.name}'" "directory" t (deposit (naming request) d.root content t) := by
  rw [← d.copy_deposit t request content read]
  unfold addRequest add answer
  rw [t.isFile_read _ content read]
  dsimp only
  rcases d.copy request.file (.str request.name) t with fault | ⟨id,files⟩ <;> rfl

/-- A file is not there, or refused, or added. -/
def KeepsFiles (t : FileTree) : Prop := Keeps (naming request) d.root "directory" (d.addRequest request)
  (fun content => t.read request.file = .ok content) t

variable (clean : NoNull d.root)
include clean

theorem add_keeps_files
    (countable : (∃ content, t.read request.file = .ok content) → Countable labelOf d.root t) :
    d.KeepsFiles request t ∧
      ((d.addRequest request t).2 = t ∨ Countable labelOf d.root (d.addRequest request t).2) := by
  obtain absent | ⟨content,read⟩ := t.isFile_answers request.file request.fits
  · have ran : d.addRequest request t =
        (.error (.collaborator s!"Media file not found: {request.file.text}" "directory" none []),t) := by
      unfold addRequest add
      rw [absent]
    rw [ran]
    exact ⟨keeps_refused _ _ _ t _ _ none ran,.inl rfl⟩
  · obtain ⟨keeps,next⟩ := keeps_deposit (naming request) d.root (d.addRequest request) t _ content
      (d.add_answer t request content read) clean (fun content => t.read request.file = .ok content) read
      (countable ⟨content,read⟩)
    exact ⟨keeps,.inr next⟩

/-- Files are kept wherever none can be added or no label misleads. -/
theorem keepsFiles_iff : (∀ requests, KeepsAll d.addRequest d.KeepsFiles requests t) ↔
    ((∃ (request : Request) (content : Content), t.read request.file = .ok content) → Countable labelOf d.root t) := by
  constructor
  · rintro all ⟨request,content,read⟩
    exact countable_of_keeps (naming request) d.root (d.addRequest request) t _ content
      (d.add_answer t request content read) clean _ (all [request]).1
  · intro stocked requests
    refine keepsAll_of_step d.addRequest d.KeepsFiles
      (fun s => (∃ (request : Request) (content : Content), s.read request.file = .ok content) →
        Countable labelOf d.root s) (fun request s start => ?_) requests t stocked
    obtain ⟨keeps,same | next⟩ := d.add_keeps_files s request clean fun there => start ⟨request,there⟩
    · rw [same]
      exact ⟨keeps,start⟩
    · exact ⟨keeps,fun _ => next⟩

end MediaDirectory

section Samples

def homePage : NewDocument := ⟨.str "Home",[],.str "page",[],"publish"⟩

/-- Files under numbers and other names. -/
def mixedTree : FileTree :=
  ⟨[(["documents"],.directory),(["documents","7.json"],.file (.ofText "x")),(["documents","draft.json"],.file (.ofText "x")),
    (["media"],.directory),(["media","3-logo.png"],.file (.ofText "x"))],[]⟩

def superscriptTree : FileTree := ⟨[(["documents"],.directory),(["documents","².json"],.file (.ofText "x"))],[]⟩

def rootDocuments : DocumentDirectory := ⟨⟨1,["documents"]⟩,""⟩

def rootMedia : MediaDirectory := ⟨⟨1,["media"]⟩⟩

theorem root_leads (t : FileTree) (name : String) (plain : Plain name) (standing : t.find? [name] = some .directory) :
    t.LeadsToDirectory ⟨1,[name]⟩ := by
  have place : destination t.current ⟨1,[name]⟩ = [name] := destination_child t.current ⟨1,[]⟩ name plain
  refine ⟨?_,?_⟩
  · rw [place]
    exact t.locate_child ⟨1,[]⟩ name ⟨rfl,rfl⟩ plain
  · rw [place]
    exact standing

theorem labels_entries (t : FileTree) (root : Path) (label : String → Option String) (text : String)
    (labelled : Labels root label t text) :
    ∃ e ∈ t.entries, ∃ name, e.1 = destination t.current root ++ [name] ∧ label name = some text := by
  obtain ⟨name,entry,standing,labelled⟩ := labelled
  have listed : t.entries.lookup (destination t.current root ++ [name]) = some entry := by simpa [find?] using standing
  obtain ⟨before,after,split,_⟩ := List.lookup_eq_some_iff.mp listed
  exact ⟨(destination t.current root ++ [name],entry),by rw [split]; simp,name,rfl,labelled⟩

theorem mixed_documents : Countable DocumentDirectory.labelOf rootDocuments.root mixedTree := by
  refine (countable_standing _ _ mixedTree (root_leads mixedTree "documents" ⟨by decide,by decide,by decide⟩ rfl)).mpr ?_
  intro text labelled
  obtain ⟨e,member,name,place,labelled⟩ := labels_entries _ _ _ _ labelled
  have named : name = "7.json" ∨ name = "draft.json" := by
    simp only [mixedTree,List.mem_cons,List.not_mem_nil,or_false] at member
    have here : e.1 = ["documents"] ++ [name] := place
    rcases member with rfl | rfl | rfl | rfl | rfl <;> simp at here <;> simp [here]
  unfold DocumentDirectory.labelOf at labelled
  split at labelled
  · cases labelled
    rcases named with rfl | rfl
    · exact fun misleading => misleading.noNumber ⟨List.all_eq_true.mp (by decide),by decide⟩
    · exact fun misleading => absurd (List.all_eq_true.mpr misleading.digits) (by decide)
  · cases labelled

theorem mixed_media : Countable MediaDirectory.labelOf rootMedia.root mixedTree := by
  refine (countable_standing _ _ mixedTree (root_leads mixedTree "media" ⟨by decide,by decide,by decide⟩ rfl)).mpr ?_
  intro text labelled
  obtain ⟨e,member,name,place,labelled⟩ := labels_entries _ _ _ _ labelled
  have named : name = "3-logo.png" := by
    simp only [mixedTree,List.mem_cons,List.not_mem_nil,or_false] at member
    have here : e.1 = ["media"] ++ [name] := place
    rcases member with rfl | rfl | rfl | rfl | rfl <;> simp at here
    exact here.symm
  cases named
  cases labelled
  exact fun misleading => misleading.noNumber ⟨List.all_eq_true.mp (by decide),by decide⟩

end Samples

end Host
end Pagewright
