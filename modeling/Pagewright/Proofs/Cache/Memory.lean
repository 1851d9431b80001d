import Pagewright.Proofs.Cache.Persistence
import Pagewright.Proofs.Cache.Staging

/-! What the cache answers one user over time. The entry that counts is the one stored last, until it is deleted or
asked for too late; each step of the cache agrees with this rule, so all of its answers do. -/
namespace Pagewright.Cache
open FileTree

/-- A project and detections as an analysis produces them. -/
structure Built (project : Project) (detections : Table Detection) : Prop where
  project : ∃ files root, root.Written ∧ Project.analyzeDirectory files root = .ok project
  detections : ∃ files root searched data signatures, Project.analyzeDirectory files root = .ok searched ∧
    Detection.parseSignatures data = .ok signatures ∧ Detection.detect signatures searched = .ok detections

theorem Built.persistent {project : Project} {detections : Table Detection} (built : Built project detections) :
    project.Persistent ∧ ∀ entry ∈ detections, entry.2.Persistent := by
  obtain ⟨⟨files,root,written,analyzed⟩,others,other,searched,data,signatures,found,parsed,detected⟩ := built
  refine ⟨(Project.analyzeDirectory_success files root project analyzed).persistent written,?_⟩
  obtain ⟨all,given,evidence⟩ := Detection.detect_analyzed others other searched
    (Project.analyzeDirectory_success others other searched found) signatures
    (Detection.parseSignatures_persistent data signatures parsed)
  cases given.symm.trans detected
  exact evidence

theorem length_userKey (user : String) : (userKey user).utf8ByteSize = user.length := by
  have single : ∀ c ∈ (userKey user).toList, c.utf8Size = 1 := by
    intro c member
    have plain := mem_userKey user c member
    simp only [isPlainChar,Bool.or_eq_true,Bool.and_eq_true,decide_eq_true_eq,beq_iff_eq] at plain
    rw [Char.utf8Size_eq_one_iff]
    rcases plain with ((((upper | lower) | digit) | rfl) | rfl) | rfl
    · exact UInt32.le_trans upper.2 (by decide)
    · exact UInt32.le_trans lower.2 (by decide)
    · exact UInt32.le_trans digit.2 (by decide)
    all_goals decide
  rw [← String.ofList_toList (s := userKey user),Decimal.utf8ByteSize_single _ single]
  simp [userKey,String.length_toList]

theorem fits_fileName (user : String) : Fits (fileName user) ↔ user.length ≤ 250 := by
  unfold Fits fileName
  rw [String.utf8ByteSize_append,length_userKey]
  show _ + 5 ≤ 255 ↔ _
  omega

/-- What happens to the entry of a user: it is stored at a time, asked for at a time, or deleted. -/
inductive Event where
  | put (created : Float) (entry : Entry)
  | get (now : Float)
  | delete

section Rule

variable (limit : Int)

/-- The entry that counts after an event, with the time at which it was stored. -/
def Event.recall (held : Option (Float × Entry)) : Event → Option (Float × Entry)
  | .put created entry => some (created,entry)
  | .get now => held.filter fun e => !Store.exceeds (now - e.1) limit
  | .delete => none

theorem recall_intime (now created : Float) (entry : Entry) (intime : Store.exceeds (now - created) limit = false) :
    Event.recall limit (some (created,entry)) (.get now) = some (created,entry) := by
  simp [Event.recall,intime]

theorem recall_late (now created : Float) (entry : Entry) (late : Store.exceeds (now - created) limit = true) :
    Event.recall limit (some (created,entry)) (.get now) = none := by
  simp [Event.recall,late]

def recalled (events : List Event) : Option (Float × Entry) := events.foldl (Event.recall limit) none

/-- An entry was stored, and since then it was asked for in time, and nothing else. -/
def Counts (events : List Event) (created : Float) (entry : Entry) : Prop :=
  ∃ before after, events = before ++ .put created entry :: after ∧
    ∀ event ∈ after, ∃ now, event = .get now ∧ Store.exceeds (now - created) limit = false

theorem recalled_snoc (events : List Event) (event : Event) :
    recalled limit (events ++ [event]) = event.recall limit (recalled limit events) := by
  unfold recalled
  rw [List.foldl_append]
  rfl

theorem counts_snoc (events : List Event) (event : Event) (created : Float) (entry : Entry) :
    Counts limit (events ++ [event]) created entry ↔ event = .put created entry ∨
      (∃ now, event = .get now ∧ Store.exceeds (now - created) limit = false) ∧ Counts limit events created entry := by
  constructor
  · rintro ⟨before,after,split,since⟩
    cases after using List.reverseRecOn with
    | nil => exact .inl (List.singleton_inj.mp (List.append_inj_right' split rfl))
    | append_singleton after last =>
      rw [← List.cons_append,← List.append_assoc] at split
      obtain ⟨rfl,same⟩ := List.append_inj' split rfl
      obtain rfl := List.singleton_inj.mp same
      exact .inr ⟨since _ (by simp),before,after,rfl,fun event member => since event (List.mem_append_left _ member)⟩
  · rintro (rfl | ⟨intime,before,after,rfl,since⟩)
    · exact ⟨events,[],rfl,fun _ member => by cases member⟩
    · refine ⟨before,after ++ [event],by simp,fun other member => ?_⟩
      rcases List.mem_append.mp member with old | new
      · exact since other old
      · exact List.mem_singleton.mp new ▸ intime

/-- The rule, step by step and at once. -/
theorem recalled_eq_some_iff (events : List Event) (created : Float) (entry : Entry) :
    recalled limit events = some (created,entry) ↔ Counts limit events created entry := by
  induction events using List.reverseRecOn with
  | nil => exact ⟨nofun,fun ⟨_,_,split,_⟩ => by simp at split⟩
  | append_singleton events event ih =>
    rw [recalled_snoc,counts_snoc,← ih]
    cases event with
    | put => simp [Event.recall]
    | get now => simp [Event.recall,and_comm]
    | delete => simp [Event.recall]

/-- Nothing counts before the next entry is stored, once nothing does. -/
theorem recalled_none (events more : List Event) (forgotten : recalled limit events = none)
    (noPut : ∀ created entry, .put created entry ∉ more) : recalled limit (events ++ more) = none := by
  induction more using List.reverseRecOn with
  | nil => rw [List.append_nil]; exact forgotten
  | append_singleton more event ih =>
    rw [← List.append_assoc,recalled_snoc,ih fun created entry member => noPut created entry (List.mem_append_left _ member)]
    cases event with
    | put created entry => exact absurd (List.mem_append_right _ (List.mem_singleton_self _)) (noPut created entry)
    | get => rfl
    | delete => rfl

end Rule

/-- The entry that the content of a file holds. -/
def decoded (content : Content) : Except Failure Entry := do
  let data ← content.json
  Entry.read data

namespace Store

variable (s : Store) (user : String)

/-- The cache while its clock shows a time. -/
def showing (time : Float) : Store := s.clocked (.showing (.float time))

theorem fileOf_showing (time : Float) : (s.showing time).fileOf user = s.fileOf user := rfl

theorem imagesOf_showing (time : Float) : (s.showing time).imagesOf user = s.imagesOf user := rfl

/-- An event takes place; what is stored is what an analysis produced, and storing returned. -/
inductive Occurs : Event → Workspace → Workspace → Prop where
  | put (created : Float) (project : Project) (detections : Table Detection) (entry : Entry) (w w' : Workspace)
    (built : Built project detections)
    (returned : ((s.showing created).put user project detections).run.run w = (.ok entry,w')) :
    Occurs (.put created entry) w w'
  | get (now : Float) (w : Workspace) : Occurs (.get now) w (((s.showing now).get user).after w)
  | delete (w : Workspace) : Occurs .delete w ((s.delete user).after w)

/-- Events that took place one after another. -/
inductive History (w : Workspace) : List Event → Workspace → Prop where
  | start : History w [] w
  | next (events : List Event) (event : Event) (w₁ w₂ : Workspace) (past : History w events w₁)
    (occurs : s.Occurs user event w₁ w₂) : History w (events ++ [event]) w₂

/-- What stands in the place of the entry of a user, given what counts. -/
def Holds (held : Option (Float × Entry)) (t : FileTree) : Prop :=
  match held with
  | none => t.isFile (s.fileOf user) = .ok false
  | some (created,entry) => (∃ content, t.read (s.fileOf user) = .ok content ∧ decoded content = .ok entry) ∧
      entry.created = .float created

theorem holds_none (t : FileTree) : s.Holds user none t ↔ t.isFile (s.fileOf user) = .ok false := Iff.rfl

theorem holds_showing (time : Float) (held : Option (Float × Entry)) (t : FileTree)
    (holds : s.Holds user held t) : (s.showing time).Holds user held t := by
  unfold Holds at holds ⊢
  rw [fileOf_showing]
  exact holds

/-- Nothing is left of what was stored for a user: no entry, and no image in the place of the images. -/
structure Erased (t : FileTree) : Prop where
  entry : t.isFile (s.fileOf user) = .ok false
  images : ∀ name content, name ≠ ".." → t.read ((s.imagesOf user).child name) ≠ .ok content

theorem erased_showing (time : Float) (t : FileTree) (erased : (s.showing time).Erased user t) : s.Erased user t := by
  obtain ⟨entry,images⟩ := erased
  rw [fileOf_showing] at entry
  simp only [imagesOf_showing] at images
  exact ⟨entry,images⟩

variable (w w' : Workspace)

section Storing

variable (created : Float) (project : Project) (detections : Table Detection) (entry : Entry)

theorem stage_persistent (persistent : project.Persistent) (staged : Project)
    (ok : (s.stage user project).run.run w = (.ok staged,w')) : staged.Persistent := by
  obtain ⟨_,w₁,_,ok⟩ := run_bind_success _ _ _ _ _ ok
  obtain ⟨images,w₂,_,ok⟩ := run_bind_success _ _ _ _ _ ok
  cases ok
  exact ⟨persistent.named,persistent.rooted⟩

theorem put_entry (built : Built project detections)
    (ok : ((s.showing created).put user project detections).run.run w = (.ok entry,w')) :
    decoded (.document (.json .spaced) entry.toValue) = .ok entry ∧ entry.created = .float created := by
  obtain ⟨persistent,evidence⟩ := built.persistent
  obtain ⟨_,w₁,_,ok⟩ := run_bind_success _ _ _ _ _ ok
  obtain ⟨staged,w₂,staging,ok⟩ := run_bind_success _ _ _ _ _ ok
  obtain ⟨now,w₃,reading,ok⟩ := run_bind_success _ _ _ _ _ ok
  obtain ⟨_,w₄,_,ok⟩ := run_bind_success _ _ _ _ _ ok
  cases ok
  cases reading
  have kept := (s.showing created).stage_persistent user w₁ w₂ project persistent staged staging
  exact ⟨Entry.read_toValue _ created staged detections kept evidence,rfl⟩

theorem put_holds (built : Built project detections)
    (ok : ((s.showing created).put user project detections).run.run w = (.ok entry,w')) :
    s.Holds user (some (created,entry)) w'.files := by
  obtain ⟨opened,w₁,_,_,written⟩ := (s.showing created).put_course user w w' project
    (s.clocked_clockOnly _) detections entry ok
  rw [fileOf_showing] at written
  obtain ⟨located,standing⟩ := write_leads _ _ _ _ written
  obtain ⟨back,time⟩ := s.put_entry user w w' created project detections entry built ok
  exact ⟨⟨_,read_standing _ _ _ _ located standing,back⟩,time⟩

end Storing

/-- An entry whose file has an impossible name is not absent: asking for it fails. -/
theorem get_refused (leads : w.files.LeadsToDirectory s.directory) (long : ¬ Fits (fileName user)) (now : Float) :
    ((s.showing now).get user).result w = .error (.fault (.file .nameTooLong (s.fileOf user).text)) := by
  have located := w.files.locate_long s.directory (fileName user) leads (null_fileName user) long
  rw [← s.fileOf_eq] at located
  have refused : w.files.isFile (s.fileOf user) = .error (.file .nameTooLong (s.fileOf user).text) := by
    unfold isFile look
    rw [located]
    rfl
  unfold Work.result get
  rw [fileOf_showing,run_bind,Work.ask_run,refused]
  rfl

theorem unlink_read (t : FileTree) (p : Path) (content : Content) (ok : t.read p = .ok content) :
    t.unlink p = .ok (t.removeWhere (· == destination t.current p)) :=
  unlink_file t p _ content (read_located t p content ok) (read_stands t p content ok)

/-- Deleting fails and leaves everything, or takes the entry and the images away. -/
theorem delete_cases : (∃ failure, (s.delete user).run.run w = (.error failure,w) ∧
      ∃ fault, w.files.unlink (s.fileOf user) = .error fault) ∨
    ∃ files, w.files.unlink (s.fileOf user) = .ok files ∧
      (s.delete user).run.run w = (.ok (),{ w with files := files.removeTree (s.imagesOf user) }) := by
  unfold delete
  cases removed : w.files.unlink (s.fileOf user) with
  | error fault =>
    refine .inl ⟨.fault fault,?_,fault,rfl⟩
    rw [run_bind,Work.change_refused (·.unlink _) _ fault removed]
  | ok files =>
    refine .inr ⟨files,rfl,?_⟩
    rw [run_bind,Work.change_run (·.unlink _) _ files removed]
    rfl

theorem erased_removed (t files : FileTree) (removed : t.unlink (s.fileOf user) = .ok files) :
    s.Erased user (files.removeTree (s.imagesOf user)) :=
  ⟨isFile_thinned files _ (thinned_removeTree files _) _ (unlink_gone t files _ removed),
    fun name content proper => read_removed files _ name content proper⟩

/-- Where there is an entry, deleting goes through. -/
theorem delete_read (content : Content) (found : w.files.read (s.fileOf user) = .ok content) :
    ∃ w', (do s.delete user; return none : Work (Option Entry)).run.run w = (.ok none,w') ∧ s.Erased user w'.files := by
  rcases s.delete_cases user w with ⟨_,_,fault,refused⟩ | ⟨files,removed,ran⟩
  · cases refused.symm.trans (unlink_read _ _ _ found)
  · rw [run_bind,ran]
    refine ⟨_,rfl,?_⟩
    dsimp only
    exact s.erased_removed user _ files removed

theorem delete_holds (held : Option (Float × Entry)) (holds : s.Holds user held w.files) :
    s.Holds user none ((s.delete user).after w).files := by
  unfold Work.after
  rcases s.delete_cases user w with ⟨failure,ran,fault,refused⟩ | ⟨files,removed,ran⟩
  · rw [ran]
    cases held with
    | none => exact holds
    | some e =>
      obtain ⟨⟨content,found,_⟩,_⟩ := holds
      cases refused.symm.trans (unlink_read _ _ _ found)
  · rw [ran]
    dsimp only
    exact (s.holds_none user _).mpr (s.erased_removed user _ files removed).entry

section Asking

variable (now created : Float) (entry : Entry) (limit : Int) (lifetime : s.lifetime = .int limit)
  (holds : s.Holds user (some (created,entry)) w.files)
include lifetime holds

theorem get_course (clock : s.clock = pure (.float now)) : (s.get user).run.run w =
    (if exceeds (now - created) limit then do
      s.delete user
      return none
    else return some entry : Work (Option Entry)).run.run w := by
  obtain ⟨⟨content,found,back⟩,time⟩ := holds
  have read : readEntry w.files (s.fileOf user) = .ok entry := by
    unfold readEntry
    rw [found]
    exact back
  have expiry : isExpired (.float now) s.lifetime entry.created = .ok (exceeds (now - created) limit) := by
    rw [lifetime,time]
    rfl
  rw [s.get_read user w content found,read]
  dsimp only
  rw [clock,run_bind]
  show (Work.ofExcept _ >>= _).run.run w = _
  rw [expiry]
  rfl

theorem get_intime (intime : exceeds (now - created) limit = false) :
    ((s.showing now).get user).run.run w = (.ok (some entry),w) := by
  rw [(s.showing now).get_course user w now created entry limit lifetime
    (s.holds_showing user now _ _ holds) rfl,intime]
  rfl

theorem get_expired (late : exceeds (now - created) limit = true) :
    ∃ w', ((s.showing now).get user).run.run w = (.ok none,w') ∧ s.Erased user w'.files := by
  rw [(s.showing now).get_course user w now created entry limit lifetime
    (s.holds_showing user now _ _ holds) rfl,late,if_pos rfl]
  obtain ⟨⟨content,found,_⟩,_⟩ := holds
  obtain ⟨w',ran,erased⟩ := (s.showing now).delete_read user w content found
  exact ⟨w',ran,s.erased_showing user now _ erased⟩

end Asking

variable (limit : Int) (lifetime : s.lifetime = .int limit)
include lifetime

theorem get_holds (now : Float) (held : Option (Float × Entry)) (holds : s.Holds user held w.files) :
    s.Holds user (Event.recall limit held (.get now)) (((s.showing now).get user).after w).files := by
  unfold Work.after
  cases held with
  | none =>
    rw [(s.showing now).get_absent user w holds]
    exact holds
  | some e =>
    obtain ⟨created,entry⟩ := e
    cases late : exceeds (now - created) limit with
    | false =>
      rw [s.get_intime user w now created entry limit lifetime holds late]
      rw [recall_intime limit now created entry late]
      exact holds
    | true =>
      obtain ⟨w',ran,erased⟩ := s.get_expired user w now created entry limit lifetime holds late
      rw [ran]
      rw [recall_late limit now created entry late]
      exact erased.entry

theorem get_answers (now : Float) (held : Option (Float × Entry)) (holds : s.Holds user held w.files) :
    ((s.showing now).get user).result w = .ok ((Event.recall limit held (.get now)).map (·.2)) := by
  unfold Work.result
  cases held with
  | none =>
    rw [(s.showing now).get_absent user w holds]
    rfl
  | some e =>
    obtain ⟨created,entry⟩ := e
    cases late : exceeds (now - created) limit with
    | false =>
      rw [s.get_intime user w now created entry limit lifetime holds late,recall_intime limit now created entry late]
      rfl
    | true =>
      obtain ⟨w',ran,_⟩ := s.get_expired user w now created entry limit lifetime holds late
      rw [ran,recall_late limit now created entry late]
      rfl

theorem occurs_holds (event : Event) (held : Option (Float × Entry)) (occurs : s.Occurs user event w w')
    (holds : s.Holds user held w.files) : s.Holds user (event.recall limit held) w'.files := by
  cases occurs with
  | put created project detections entry _ _ built returned =>
    exact s.put_holds user w w' created project detections entry built returned
  | get now => exact s.get_holds user w limit lifetime now held holds
  | delete => exact s.delete_holds user w held holds

/-- After every history stands in the place of the entry what counts by the rule. -/
theorem history_holds (absent : w.files.isFile (s.fileOf user) = .ok false) (events : List Event)
    (past : s.History user w events w') : s.Holds user (recalled limit events) w'.files := by
  induction past with
  | start => exact absent
  | next events event w₁ w₂ _ occurs ih =>
    rw [recalled_snoc]
    exact s.occurs_holds user w₁ w₂ limit lifetime event _ occurs ih

end Store

/-- What a user can rely on in a cache that keeps entries for a number of seconds. -/
structure Remembers (s : Store) (user : String) (limit : Int) (w : Workspace) : Prop where
  answers : ∀ events w' now, s.History user w events w' → ∃ answer,
    ((s.showing now).get user).result w' = .ok answer ∧ ∀ entry, answer = some entry ↔
      ∃ created, Counts limit events created entry ∧ Store.exceeds (now - created) limit = false
  forgets : ∀ events w' now created entry, s.History user w events w' → Counts limit events created entry →
    Store.exceeds (now - created) limit = true → s.Erased user (((s.showing now).get user).after w').files
  silent : ∀ events w' late created entry more, Counts limit events created entry →
    Store.exceeds (late - created) limit = true → s.History user w (events ++ .get late :: more) w' →
    (∀ created entry, Event.put created entry ∉ more) → ∀ now, ((s.showing now).get user).result w' = .ok none

section Promise

variable (s : Store) (user : String) (limit : Int) (w : Workspace) (lifetime : s.lifetime = .int limit)
include lifetime

theorem remembers_of_absent (absent : w.files.isFile (s.fileOf user) = .ok false) : Remembers s user limit w := by
  have holds (events : List Event) (w' : Workspace) (past : s.History user w events w') :=
    s.history_holds user w w' limit lifetime absent events past
  constructor
  case answers =>
    intro events w' now past
    refine ⟨_,s.get_answers user w' limit lifetime now _ (holds events w' past),fun entry => ?_⟩
    rw [← recalled_snoc,Option.map_eq_some_iff]
    constructor
    · rintro ⟨⟨created,_⟩,counts,rfl⟩
      rw [recalled_eq_some_iff,counts_snoc] at counts
      obtain ⟨⟨_,same,intime⟩,counts⟩ := counts.resolve_left nofun
      cases same
      exact ⟨created,counts,intime⟩
    · rintro ⟨created,counts,intime⟩
      refine ⟨(created,entry),?_,rfl⟩
      rw [recalled_eq_some_iff,counts_snoc]
      exact .inr ⟨⟨now,rfl,intime⟩,counts⟩
  case forgets =>
    intro events w' now created entry past counts late
    have held := holds events w' past
    rw [(recalled_eq_some_iff limit events created entry).mpr counts] at held
    obtain ⟨left,ran,erased⟩ := s.get_expired user w' now created entry limit lifetime held late
    unfold Work.after
    rw [ran]
    exact erased
  case silent =>
    intro events w' late created entry more counts expired past noPut now
    have forgotten : recalled limit (events ++ [.get late]) = none := by
      rw [recalled_snoc,(recalled_eq_some_iff limit events created entry).mpr counts]
      exact recall_late limit late created entry expired
    have held := holds _ w' past
    rw [List.append_cons,recalled_none limit _ more forgotten noPut] at held
    exact s.get_answers user w' limit lifetime now none held

/-- The cache answers as it should unless the file of the user would have a name that no directory holds: in a
directory that stands, then, exactly for the ids of at most 250 characters. -/
theorem remembers_iff (possible : ∀ part ∈ s.directory.parts, Fits part)
    (fresh : w.files.isFile (s.fileOf user) ≠ .ok true) :
    Remembers s user limit w ↔ (w.files.LeadsToDirectory s.directory → user.length ≤ 250) := by
  rw [← fits_fileName]
  constructor
  · -- Asking before anything has happened fails already.
    intro remembers leads
    by_contra long
    obtain ⟨answer,given,_⟩ := remembers.answers [] w 0.0 .start
    rw [s.get_refused user w leads long 0.0] at given
    cases given
  · intro short
    cases looked : w.files.isFile (s.fileOf user) with
    | ok present =>
      cases present with
      | false => exact remembers_of_absent s user limit w lifetime looked
      | true => exact absurd looked fresh
    | error fault =>
      rw [s.fileOf_eq] at looked
      obtain ⟨leads,long⟩ := w.files.isFile_refused _ _ possible fault looked
      exact absurd (short leads) long

end Promise

section Hour

/-- A cache of the root that keeps entries for an hour. -/
def hourStore : Store := { rootStore with lifetime := .int 3600 }

def hourWorkspace : Workspace := .start (openedTree default) [] ⟨1,["tmp"]⟩ 0.0

theorem hour_possible : ∀ part ∈ hourStore.directory.parts, Fits part := by decide

theorem alice_absent : hourWorkspace.files.isFile (hourStore.fileOf "alice") = .ok false := by
  simp only [isFile,look,locate_chars]
  rfl

theorem oddProject_built : ∃ detections, Built oddProject detections := by
  have written : (Path.ofText "/site").Written := Path.written_ofText _
  obtain ⟨detections,detected,_⟩ := Detection.detect_analyzed oddSite _ oddProject
    (Project.analyzeDirectory_success _ _ _ analyzeDirectory_oddSite) [] fun _ member => by cases member
  exact ⟨detections,⟨oddSite,_,written,analyzeDirectory_oddSite⟩,
    ⟨oddSite,_,oddProject,.null,[],analyzeDirectory_oddSite,rfl,detected⟩⟩

/-- Something can be stored for alice. -/
theorem alice_history : ∃ entry w', hourStore.History "alice" hourWorkspace [.put 0.0 entry] w' := by
  obtain ⟨detections,built⟩ := oddProject_built
  have opens : hourWorkspace.files.makeDirectories (hourStore.showing 0.0).directory = .ok hourWorkspace.files :=
    makeDirectoriesWithin_standing _ _ _ (cache_leads default)
  have cleared : hourWorkspace.files.removeTree ((hourStore.showing 0.0).imagesOf "alice") = hourWorkspace.files :=
    clear_opened default "alice"
  have stages : ((hourStore.showing 0.0).stage "alice" oddProject).run.run hourWorkspace =
      (.ok oddProject,hourWorkspace) := by
    unfold Store.stage
    rw [run_bind,Work.modify_run]
    dsimp only
    rw [cleared]
    rfl
  have located := locate_child hourWorkspace.files hourStore.directory (fileName "alice") (cache_leads default)
    (plain_fileName "alice" (by decide))
  rw [← Store.fileOf_eq] at located
  have returned := (hourStore.showing 0.0).put_stored "alice" hourWorkspace oddProject oddProject detections
    hourWorkspace hourWorkspace hourWorkspace.files _ (.float 0.0) opens stages rfl
    (write_free _ _ _ _ located nofun)
  exact ⟨_,_,.next [] _ _ _ .start (.put _ _ _ _ _ _ built returned)⟩

theorem remembers_alice : hourStore.lifetime = .int 3600 ∧ (∀ part ∈ hourStore.directory.parts, Fits part) ∧
    hourWorkspace.files.isFile (hourStore.fileOf "alice") ≠ .ok true ∧
    (∃ entry w', hourStore.History "alice" hourWorkspace [.put 0.0 entry] w') ∧
    Remembers hourStore "alice" 3600 hourWorkspace := by
  have fresh : hourWorkspace.files.isFile (hourStore.fileOf "alice") ≠ .ok true := by
    rw [alice_absent]
    nofun
  exact ⟨rfl,hour_possible,fresh,alice_history,
    (remembers_iff hourStore "alice" 3600 hourWorkspace rfl hour_possible fresh).mpr fun _ => by decide⟩

@[irreducible]
def longId : String := String.ofList (List.replicate 251 'u')

/-- Asking for an entry that was never stored fails for a long id. -/
theorem lookup_refused : ((hourStore.showing 0.0).get longId).result hourWorkspace =
      .error (.fault (.file .nameTooLong (hourStore.fileOf longId).text)) ∧
    ¬ Remembers hourStore longId 3600 hourWorkspace := by
  have length : longId.length = 251 := by
    unfold longId
    rw [String.length_ofList,List.length_replicate]
  have long : ¬ Fits (fileName longId) := by
    rw [fits_fileName,length]
    decide
  have refused := hourStore.get_refused longId hourWorkspace (cache_leads default) long 0.0
  refine ⟨refused,fun remembers => ?_⟩
  obtain ⟨answer,given,_⟩ := remembers.answers [] hourWorkspace 0.0 .start
  cases refused.symm.trans given

end Hour

end Pagewright.Cache
