import Pagewright.Proofs.Cache.Memory
import Pagewright.Proofs.Shapes

/-! Asking for an entry whose file holds anything. Reading the file fails in ways that count as an absent entry,
and in four others that the cache does not expect. -/
namespace Pagewright.Cache
open FileTree

/-- The failures of reading an entry that asking for it passes on. -/
inductive Missed : Failure → Prop where
  | depth (container : String) : Missed (.fault (.notJson (.depth container)))
  | noAttribute (text : String) : Missed (.fault (.noAttribute text))
  | overflow (text : String) : Missed (.fault (.overflow text))
  | table (key : String) :
    Missed (.malformedInput .grammar "package.json" (.stated s!"'{key}' must be an object"))

def Expected (failure : Failure) : Prop := Store.isUnreadable failure = true ∨ Missed failure

theorem expected_of_shape (fault : Fault) (shape : fault.isShape = true) : Expected (.fault fault) := by
  cases fault with
  | noAttribute text => exact .inr (.noAttribute text)
  | overflow text => exact .inr (.overflow text)
  | wrongType | missingKey | badValue => exact .inl rfl
  | _ => cases shape

theorem lift_expected {α : Type} (r : Except Fault α) (shape : ByShape r) :
    RefusedBy Expected (liftM r : Except Failure α) :=
  refusedBy_lift r fun fault refused => expected_of_shape fault (shape fault refused)

theorem manifest_expected (data : Value) : RefusedBy Expected (Project.Manifest.read data "package.json") :=
  Project.Manifest.read_refused data _ expected_of_shape fun key => .inr (.table key)

theorem project_expected (data : Value) : RefusedBy Expected (Project.read data) := by
  have field (key : String) (default : Value) := lift_expected _ (data.findD_byShape key default)
  have sources (key : String) := lift_expected _
    (Project.readListed_byShape data key Project.SourceFile.read Project.SourceFile.read_byShape)
  unfold Project.read
  refine refusedBy_bind _ _ (field _ _) fun root => refusedBy_bind _ _ (field _ _) fun _ => ?_
  refine refusedBy_bind _ _ (field _ _) fun _ => refusedBy_bind _ _ (sources _) fun _ => ?_
  refine refusedBy_bind _ _ (sources _) fun _ => refusedBy_bind _ _ (field _ _) fun manifest => ?_
  refine refusedBy_bind _ _ (manifest_expected manifest) fun _ => refusedBy_bind _ _ (field _ _) fun assets => ?_
  refine refusedBy_bind _ _ (lift_expected _ (Project.Assets.read_byShape assets)) fun _ => ?_
  refine refusedBy_bind _ _ (field _ _) fun build => ?_
  refine refusedBy_bind _ _ (lift_expected _ (Project.BuildInfo.read_byShape build)) fun _ => ?_
  refine refusedBy_bind _ _ (field _ _) fun details => ?_
  refine refusedBy_bind _ _ (lift_expected _ (Project.Description.read_byShape details)) fun _ => ?_
  exact refusedBy_bind _ _ (lift_expected _ (Project.readPath?_byShape root)) fun _ => refusedBy_ok _

theorem entry_expected (data : Value) : RefusedBy Expected (Entry.read data) := by
  have member (key : String) := lift_expected _ (data.member_byShape key)
  unfold Entry.read
  refine refusedBy_bind _ _ (member _) fun _ => refusedBy_bind _ _ (member _) fun time => ?_
  refine refusedBy_bind _ _ (lift_expected _ time.toFloat_byShape) fun _ => ?_
  refine refusedBy_bind _ _ (member _) fun project => refusedBy_bind _ _ (project_expected project) fun _ => ?_
  refine refusedBy_bind _ _ (lift_expected _ (data.findD_byShape _ _)) fun _ => ?_
  refine refusedBy_bind _ _ (lift_expected _ (Value.fieldsFor_byShape _ _)) fun table => ?_
  refine refusedBy_bind _ _ (refusedBy_mapM _ table fun item => ?_) fun _ => refusedBy_ok _
  exact refusedBy_bind _ _ (lift_expected _ (Detection.read_byShape item.2)) fun _ => refusedBy_ok _

/-- Bytes that are no JSON are refused in expected ways. -/
theorem json_expected (content : Content) : RefusedBy (fun fault => Expected (.fault fault)) content.json := by
  have decoded : RefusedBy (fun fault => Expected (.fault fault)) (Content.decode content.data) := by
    unfold Content.decode
    split
    · exact refusedBy_ok _
    · split
      · exact refusedBy_ok _
      · exact refusedBy_error _ (.inl rfl)
  have parsed (text : String) : RefusedBy (fun fault => Expected (.fault fault)) (Content.jsonOf false text) := by
    unfold Content.jsonOf
    cases Json.read text false with
    | ok v => exact refusedBy_ok v
    | error fault =>
      refine refusedBy_error _ ?_
      cases fault with
      | depth container => exact .inr (.depth container)
      | _ => exact .inl rfl
  unfold Content.json
  split
  · exact refusedBy_ok _
  · exact refusedBy_bind _ _ decoded parsed

theorem decoded_expected (content : Content) : RefusedBy Expected (decoded content) :=
  refusedBy_bind _ _ (refusedBy_lift _ (json_expected content)) entry_expected

namespace Store

variable (s : Store) (user : String) (now : Float) (w : Workspace)

/-- Asking gives an entry, or gives none and leaves nothing of it. -/
def Handled : Prop := (∃ entry, ((s.showing now).get user).result w = .ok (some entry)) ∨
  ((s.showing now).get user).result w = .ok none ∧ s.Erased user (((s.showing now).get user).after w).files

section Standing

variable (content : Content) (found : w.files.read (s.fileOf user) = .ok content)
include found

theorem get_failing (failure : Failure) (failed : decoded content = .error failure) : (s.get user).run.run w =
    (if isUnreadable failure then do
      s.delete user
      return none
    else throw failure : Work (Option Entry)).run.run w := by
  have read : readEntry w.files (s.fileOf user) = .error failure := by
    unfold readEntry
    rw [found]
    exact failed
  rw [s.get_read user w content found,read]

theorem handled_unreadable (failure : Failure) (failed : decoded content = .error failure)
    (unreadable : isUnreadable failure = true) : s.Handled user now w := by
  obtain ⟨w',ran,erased⟩ := (s.showing now).delete_read user w content found
  have course := (s.showing now).get_failing user w content found failure failed
  rw [if_pos unreadable,ran] at course
  unfold Handled Work.result Work.after
  rw [course]
  exact .inr ⟨rfl,s.erased_showing user now _ erased⟩

theorem get_missed (failure : Failure) (failed : decoded content = .error failure) (missed : Missed failure) :
    ((s.showing now).get user).run.run w = (.error failure,w) := by
  rw [(s.showing now).get_failing user w content found failure failed]
  cases missed <;> rfl

theorem handled_read (limit : Int) (lifetime : s.lifetime = .int limit) (entry : Entry)
    (back : decoded content = .ok entry) : s.Handled user now w := by
  obtain ⟨data,_,read⟩ := except_bind_success _ _ _ back
  obtain ⟨_,⟨created,time⟩,_⟩ := read_parts data entry read
  have holds : s.Holds user (some (created,entry)) w.files := ⟨⟨content,found,back⟩,time⟩
  unfold Handled Work.result Work.after
  cases late : exceeds (now - created) limit with
  | false =>
    rw [s.get_intime user w now created entry limit lifetime holds late]
    exact .inl ⟨entry,rfl⟩
  | true =>
    obtain ⟨w',ran,erased⟩ := s.get_expired user w now created entry limit lifetime holds late
    rw [ran]
    exact .inr ⟨rfl,erased⟩

/-- Whatever the file of a user holds, asking gives an entry or removes what is left of it, except where reading
nests too deep, or fails for an attribute, for a number beyond all bounds or for a table of dependencies. Such a
failure is passed on, and everything stays. -/
theorem handled_iff (limit : Int) (lifetime : s.lifetime = .int limit) :
    (s.Handled user now w ↔ ∀ failure, decoded content = .error failure → ¬ Missed failure) ∧
      ∀ failure, decoded content = .error failure → Missed failure →
        ((s.showing now).get user).run.run w = (.error failure,w) := by
  have raised := s.get_missed user now w content found
  refine ⟨⟨fun handled failure failed missed => ?_,fun reads => ?_⟩,raised⟩
  · unfold Handled Work.result at handled
    rw [raised failure failed missed] at handled
    rcases handled with ⟨entry,never⟩ | ⟨never,_⟩ <;> cases never
  · cases outcome : decoded content with
    | ok entry => exact s.handled_read user now w content found limit lifetime entry outcome
    | error failure =>
      have unreadable := (decoded_expected content failure outcome).resolve_right (reads failure outcome)
      exact s.handled_unreadable user now w content found failure outcome unreadable

end Standing

end Store

section Files

/-- The cache of the root with a file for alice. -/
def aliceWorkspace (content : Content) : Workspace :=
  .start ⟨[(["cache"],.directory),(["cache","alice.json"],.file content)],[]⟩ [] ⟨1,["tmp"]⟩ 0.0

theorem alice_read (content : Content) :
    (aliceWorkspace content).files.read (hourStore.fileOf "alice") = .ok content := by
  simp only [FileTree.read,locate_chars]
  rfl

def brokenContent : Content := .document (.json .spaced) (.list [.int 1])

theorem broken_handled : (aliceWorkspace brokenContent).files.read (hourStore.fileOf "alice") = .ok brokenContent ∧
    hourStore.lifetime = .int 3600 ∧ hourStore.Handled "alice" 0.0 (aliceWorkspace brokenContent) := by
  refine ⟨alice_read _,rfl,?_⟩
  refine (Store.handled_iff hourStore "alice" 0.0 _ brokenContent (alice_read _) 3600 rfl).1.mpr ?_
  intro failure failed missed
  cases failed
  cases missed

/-- An entry whose dependencies are a list. -/
def listedContent : Content := .document (.json .spaced) (.object [("user",.str "alice"),("created_at",.float 1000.0),
  ("project",.object [("manifest",.object [("dependencies",.list [.int 1])])])])

theorem listed_raised : ∃ failure, ((hourStore.showing 0.0).get "alice").run.run (aliceWorkspace listedContent) =
    (.error failure,aliceWorkspace listedContent) ∧ ¬ hourStore.Handled "alice" 0.0 (aliceWorkspace listedContent) := by
  have raised := hourStore.get_missed "alice" 0.0 (aliceWorkspace listedContent) listedContent (alice_read _) _ rfl
    (.table "dependencies")
  refine ⟨_,raised,?_⟩
  unfold Store.Handled Work.result
  rw [raised]
  rintro (⟨entry,never⟩ | ⟨never,_⟩) <;> cases never

end Files

end Pagewright.Cache
