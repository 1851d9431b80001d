import Pagewright.Proofs.Files.Refusals
import Pagewright.Proofs.Files.Survival
import Pagewright.Proofs.Files.Texts
import Pagewright.Proofs.Settings
import Pagewright.Proofs.Settings.Stored

/-! Changing a setting of the user. A value put at a path is found there, other paths are left as they are, and values can
be put in any order. So a change of the user's file changes no other setting, but for those behind a value that stands
where the new setting needs a table; and the new value is the setting, unless another layer says something about it. -/
namespace Pagewright.Settings
open FileTree

section Places

/-- The directory of the user's settings file. -/
def userDirectory (home : Path) : Path := home / ".config" / "l2wp"

theorem userDirectory_eq (home : Path) : userDirectory home = ⟨home.slashes,home.parts ++ [".config","l2wp"]⟩ := by
  show (⟨home.slashes,(home.parts ++ [".config"]) ++ ["l2wp"]⟩ : Path) = _
  rw [List.append_assoc]
  rfl

theorem userPath_eq (home : Path) :
    userPath home = ⟨(userDirectory home).slashes,(userDirectory home).parts ++ ["config.toml"]⟩ := rfl

theorem userPath_parent (home : Path) : (userPath home).parent = userDirectory home := by
  rw [userPath_eq,Path.parent,List.dropLast_concat]

theorem plain_config : Plain "config.toml" := ⟨by decide,by decide,by decide⟩

theorem plain_project : Plain ".l2wp.toml" := ⟨by decide,by decide,by decide⟩

variable (t t' : FileTree)

/-- Where the settings file of the user is. -/
def userPlace (home : Path) : Place := destination t.current (userPath home)

/-- Where the settings file of the working directory is. -/
def projectPlace : Place := destination t.current (projectPath t)

theorem userPlace_eq (home : Path) : userPlace t home = destination t.current (userDirectory home) ++ ["config.toml"] :=
  destination_child _ _ _ plain_config

theorem projectPlace_eq : projectPlace t = destination t.current t.currentPath ++ [".l2wp.toml"] :=
  destination_child _ _ _ plain_project

theorem places_differ (home : Path) : projectPlace t ≠ userPlace t home := by
  rw [userPlace_eq,projectPlace_eq]
  intro same
  exact absurd (List.cons.inj (List.append_inj' same rfl).2).1 (by decide)

theorem project_located (working : t.LeadsToDirectory t.currentPath) :
    t.locate (projectPath t) = .ok (projectPlace t) := by
  rw [projectPlace_eq]
  exact locate_child t t.currentPath _ working plain_project

section Unmoved

variable {t t'} (current : t'.current = t.current)
include current

theorem currentPath_same : t'.currentPath = t.currentPath := by
  unfold currentPath
  rw [current]

theorem projectPath_same : projectPath t' = projectPath t := by
  unfold projectPath
  rw [currentPath_same current]

theorem projectPlace_same : projectPlace t' = projectPlace t := by
  unfold projectPlace
  rw [current,projectPath_same current]

theorem userPlace_same (home : Path) : userPlace t' home = userPlace t home := by
  unfold userPlace
  rw [current]

end Unmoved

end Places

section Reading

variable (t t' : FileTree) (p : Path) (place : Place)

theorem readFile_located (located : t.locate p = .ok place) :
    readFile t p = (t.contentAt? place).elim (.ok []) Content.toml := by
  unfold readFile isFile look FileTree.read contentAt?
  rw [located]
  cases standing : t.find? place with
  | none => simp [bind,Except.bind,pure,Except.pure,standing]
  | some entry => cases entry <;> simp [bind,Except.bind,pure,Except.pure,standing,Entry.isFile]

variable (data : Table Value) (ok : readFile t p = .ok data)
include ok

theorem readFile_lost (fault : Fault) (lost : t.locate p = .error fault) : data = [] := by
  obtain ⟨there,asked,ok⟩ := except_bind_success _ _ _ ok
  cases there with
  | false => cases ok; rfl
  | true =>
    obtain ⟨content,read⟩ := isFile_success t p asked
    rw [read_located t p content read] at lost
    cases lost

/-- Nothing is read where no file stands, nor from an earlier tree with the same files. -/
theorem readFile_absent (more : ∀ place, t.locate p = .ok place → t'.locate p = .ok place)
    (located : t'.locate p = .ok place) (same : t'.contentAt? place = t.contentAt? place)
    (absent : t'.contentAt? place = none) : readFile t' p = .ok data := by
  rw [readFile_located t' p place located,absent]
  cases found : t.locate p with
  | error fault =>
    rw [readFile_lost t p data ok fault found]
    rfl
  | ok there =>
    cases (more there found).symm.trans located
    rwa [readFile_located t p place found,← same,absent] at ok

end Reading

section Storing

/-- A tree after directories have been made for the settings file of the user. -/
structure Prepared (home : Path) (t t' : FileTree) : Prop where
  current : t'.current = t.current
  contents : ∀ place, t'.contentAt? place = t.contentAt? place
  more : ∀ p place, t.locate p = .ok place → t'.locate p = .ok place
  working : t'.LeadsToDirectory t'.currentPath
  user : t'.locate (userPath home) = .ok (userPlace t home)
  project : readFile t' (projectPath t') = readFile t (projectPath t)

theorem prepared (home : Path) (t t' : FileTree) (working : t.LeadsToDirectory t.currentPath)
    (ok : t.makeDirectories (userDirectory home) = .ok t') : Prepared home t t' := by
  obtain ⟨changes,leads⟩ := makeDirectories_success t t' _ ok
  have spares := makeDirectories_spares t t' _ ok
  have contents (place : Place) : t'.contentAt? place = t.contentAt? place := contentAt?_kept changes place id id
  have more (p : Path) (place : Place) (found : t.locate p = .ok place) : t'.locate p = .ok place :=
    locate_spared t t' spares p place (fun _ _ => id) found
  have project := project_located t working
  constructor
  case current => exact changes.current
  case contents => exact contents
  case more => exact more
  case working =>
    rw [currentPath_same changes.current]
    exact leads_spared t t' spares _ (fun _ _ => id) working
  case user =>
    rw [← userPlace_same changes.current,userPlace_eq]
    exact locate_child t' (userDirectory home) _ leads plain_config
  case project =>
    rw [projectPath_same changes.current,readFile_located t' _ _ (more _ _ project),readFile_located t _ _ project,contents]

/-- A tree after the settings file of the user has been written. -/
structure Written (home : Path) (content : Content) (t t' : FileTree) : Prop where
  contents : ∀ place, t'.contentAt? place = if place = userPlace t home then some content else t.contentAt? place
  working : t'.LeadsToDirectory t'.currentPath
  user : readFile t' (userPath home) = content.toml
  project : readFile t' (projectPath t') = readFile t (projectPath t)

variable {home : Path} {t t' : FileTree} (ready : Prepared home t t') (content : Content)
include ready

/-- A file that cannot be written is a directory, so that nothing has been lost. -/
theorem Prepared.refused (fault : Fault) (refused : t'.write (userPath home) content = .error fault)
    (user : Table Value) (ok : readFile t (userPath home) = .ok user) : readFile t' (userPath home) = .ok user := by
  refine readFile_absent t t' _ _ user ok (ready.more _) ready.user (ready.contents _) ?_
  have blocked : t'.find? (userPlace t home) = some .directory := by
    by_contra free
    rw [write_free t' _ _ content ready.user free] at refused
    cases refused
  unfold contentAt?
  rw [blocked]

theorem Prepared.written (t'' : FileTree) (ok : t'.write (userPath home) content = .ok t'') :
    Written home content t t'' := by
  have changes := write_changes t' t'' _ content (by rw [userPath_eq]; simp) ok
  have spares := write_spares t' t'' _ content ok
  obtain ⟨located,stands⟩ := write_leads t' t'' _ content ok
  have free := (write_success t' t'' _ content ok).2.1
  have place : destination t'.current (userPath home) = userPlace t home := userPlace_same ready.current home
  rw [place] at changes spares located stands free
  have current : t''.current = t.current := changes.current.trans ready.current
  have contents (place : Place) :
      t''.contentAt? place = if place = userPlace t home then some content else t.contentAt? place := by
    split
    next here => rw [here]; exact (contentAt?_eq_some _ _ _).mpr stands
    next elsewhere => rw [contentAt?_kept changes place elsewhere id,ready.contents]
  have working : t''.LeadsToDirectory t''.currentPath := by
    rw [currentPath_same changes.current]
    refine leads_spared t' t'' spares _ (fun other onPath here => ?_) ready.working
    -- the file has not come up on the way to the working directory
    exact free (here ▸ onPath_stands t' _ ready.working other onPath)
  constructor
  case contents => exact contents
  case working => exact working
  case user =>
    rw [readFile_located t'' _ _ located,contents,if_pos rfl]
    rfl
  case project =>
    have before := ready.project
    rw [readFile_located t' _ _ (project_located t' ready.working),projectPlace_same ready.current,ready.contents] at before
    rw [← before,readFile_located t'' _ _ (project_located t'' working),projectPlace_same current,contents,
      if_neg (places_differ t home)]

end Storing

section Running

variable (w : Workspace)

/-- How a settings file is written: as a whole, or not at all, where its directory cannot be made or it is one. -/
inductive Attempt (file : Path) (data : Table Value) : Prop
  | done (made files : FileTree) : w.files.makeDirectories file.parent = .ok made →
      made.write file (.document .toml (.object data)) = .ok files →
      (writeFile file data).run.run w = (.ok (),{ w with files }) → Attempt file data
  | unprepared (fault : Fault) : w.files.makeDirectories file.parent = .error fault →
      (writeFile file data).run.run w = (.error (.fault fault),w) → Attempt file data
  | refused (made : FileTree) (fault : Fault) : w.files.makeDirectories file.parent = .ok made →
      made.write file (.document .toml (.object data)) = .error fault →
      (writeFile file data).run.run w = (.error (.fault fault),{ w with files := made }) → Attempt file data

theorem writeFile_cases (file : Path) (data : Table Value) (storable : Storable (.object data)) : Attempt w file data := by
  obtain ⟨text,whole⟩ := print_whole data storable
  cases making : w.files.makeDirectories file.parent with
  | error fault =>
    refine .unprepared fault making ?_
    unfold writeFile
    rw [run_bind,Work.change_refused _ w fault making]
  | ok made =>
    have first := Work.change_run (·.makeDirectories file.parent) w made making
    cases writing : made.write file (.document .toml (.object data)) with
    | error fault =>
      refine .refused made fault making writing ?_
      unfold writeFile
      rw [run_bind,first,whole]
      exact Work.change_refused (·.write file _) { w with files := made } fault writing
    | ok files =>
      refine .done made files making writing ?_
      unfold writeFile
      rw [run_bind,first,whole]
      exact Work.change_run (·.write file _) { w with files := made } files writing

/-- A value without a text ends the writing, and what was written before it is the file. -/
theorem writeFile_torn (file : Path) (data : Table Value) (text : String) (fault : Fault)
    (torn : Toml.print data = (text,some fault)) (made files : FileTree)
    (making : w.files.makeDirectories file.parent = .ok made) (writing : made.write file (.ofText text) = .ok files) :
    (writeFile file data).run.run w = (.error (.fault fault),{ w with files }) := by
  unfold writeFile
  rw [run_bind,Work.change_run _ w made making,torn]
  dsimp only
  rw [run_bind,Work.change_run (·.write file _) { w with files := made } files writing]
  rfl

theorem setUser_run (home : Path) (user project : Table Value) (layers : Layers w home user project) (key : String)
    (v : Value) : (setUser key v).run.run w =
      (writeFile (userPath home) (set user key v) >>= fun _ => reset).run.run w := by
  unfold setUser
  rw [run_bind,userFile_run home layers.found]
  dsimp only
  rw [run_bind,Work.ask_run,layers.user]
  rfl

end Running

section Soundness

/-- Documents that were written as settings hold values that settings can hold. -/
def Sound (t : FileTree) : Prop := ∀ place v, t.contentAt? place = some (.document .toml v) → Storable v

theorem toml_storable (content : Content) (sound : ∀ v, content = .document .toml v → Storable v) (data : Table Value)
    (ok : content.toml = .ok data) : Storable (.object data) := by
  unfold Content.toml at ok
  split at ok
  next v =>
    cases ok
    have storable := (sound v rfl).arranged
    cases arranged : Toml.arranged v with
    | object fields =>
      rw [arranged] at storable
      exact storable
    | _ => exact storable_empty
  · obtain ⟨text,_,same⟩ := except_bind_success _ _ _ ok
    cases same
    cases read : Toml.read? text with
    | none => exact storable_empty
    | some fields => exact read?_storable text fields read

theorem toml_empty : (Content.ofText "").toml = .ok [] := by
  have valid : String.fromUTF8? "".toUTF8 = some "" := by
    unfold String.fromUTF8?
    exact dif_pos "".isValidUTF8
  simp only [Content.ofText,Content.toml,Content.data,Content.decode,valid]
  rfl

/-- Whatever is read from a settings file can be stored again. -/
theorem readFile_storable (t : FileTree) (sound : Sound t) (p : Path) (data : Table Value) (ok : readFile t p = .ok data) :
    Storable (.object data) := by
  cases found : t.locate p with
  | error fault =>
    rw [readFile_lost t p data ok fault found]
    exact storable_empty
  | ok place =>
    rw [readFile_located t p place found] at ok
    cases stands : t.contentAt? place with
    | none =>
      rw [stands] at ok
      cases ok
      exact storable_empty
    | some content =>
      rw [stands] at ok
      exact toml_storable content (fun v same => sound place v (same ▸ stands)) data ok

end Soundness

section Serving

/-- Settings that can be read and changed: the working directory is there, and both settings files can be read. -/
structure Serves (w : Workspace) (home : Path) (user project : Table Value) : Prop where
  working : w.files.LeadsToDirectory w.files.currentPath
  layers : Layers w home user project
  sound : Sound w.files

/-- The file of the user is there, or it can be made below the home directory. -/
def Writable (t : FileTree) (home : Path) : Prop :=
  t.isFile (userPath home) = .ok true ∨ t.LeadsToDirectory home ∧
    (∀ front, front <+: [".config","l2wp"] → ∀ content,
      t.find? (destination t.current home ++ front) ≠ some (.file content)) ∧
    t.find? (userPlace t home) ≠ some .directory

theorem userPlace_home (t : FileTree) (home : Path) :
    userPlace t home = destination t.current home ++ [".config","l2wp","config.toml"] := by
  have below : destination t.current (userDirectory home) = destination t.current home ++ [".config","l2wp"] := by
    rw [userDirectory_eq,destination_append]
    exact foldl_enter_names _ _ (by decide)
  rw [userPlace_eq,below,List.append_assoc]
  rfl

theorem userPlace_off (t : FileTree) (home : Path) (leads : t.LeadsToDirectory home)
    (free : t.find? (userPlace t home) ≠ some .directory) :
    ¬ OnPath t.current (userDirectory home) (userPlace t home) := by
  rintro ⟨start,along,place⟩
  rw [userDirectory_eq] at along place
  dsimp only at along place
  have split : home.parts ++ [".config","l2wp"] = (home.parts ++ [".config"]) ++ ["l2wp"] := by
    rw [List.append_assoc]
    rfl
  -- what is further down than the home directory lies above the file, and all else are directories
  have lower (names : List String) (dots : ".." ∉ names) (few : names.length < 3)
      (whole : start = home.parts ++ names) : False := by
    rw [whole,destination_append,foldl_enter_names _ _ dots,userPlace_home] at place
    have length := congrArg List.length place
    simp only [List.length_append,List.length_cons,List.length_nil] at length
    omega
  rw [split,List.prefix_concat_iff,List.prefix_concat_iff] at along
  obtain whole | whole | above := along
  · exact lower [".config","l2wp"] (by decide) (by decide) (by rw [whole,split])
  · exact lower [".config"] (by decide) (by decide) whole
  · exact free (place ▸ onPath_stands t home leads _ ⟨start,above,rfl⟩)

theorem writable_success (t : FileTree) (home : Path) (working : t.LeadsToDirectory t.currentPath)
    (writable : Writable t home) (content : Content) :
    ∃ made files, t.makeDirectories (userPath home).parent = .ok made ∧ made.write (userPath home) content = .ok files := by
  rw [userPath_parent]
  obtain there | ⟨leads,clear,free⟩ := writable
  · obtain ⟨old,read⟩ := isFile_success t _ there
    have located := read_located t _ old read
    have leads := leads_above t (userDirectory home) "config.toml" _ (userPath_eq home ▸ located)
    refine ⟨t,_,makeDirectoriesWithin_standing t _ _ leads,write_free t _ _ content located ?_⟩
    rw [read_stands t _ old read]
    exact fun same => by cases same
  · have plain : ∀ name ∈ [".config","l2wp"], Plain name := by
      rw [List.forall_mem_cons,List.forall_mem_singleton]
      exact ⟨⟨by decide,by decide,by decide⟩,⟨by decide,by decide,by decide⟩⟩
    obtain ⟨made,making⟩ := makeDirectories_below t home leads [".config","l2wp"] plain clear
    rw [← userDirectory_eq] at making
    have ready := prepared home t made working making
    refine ⟨made,_,making,write_free made _ _ content ready.user fun directory => ?_⟩
    rcases (makeDirectories_success t made _ making).1.directories _ directory with before | new
    · exact free before
    · exact userPlace_off t home leads free new

variable {w : Workspace} {home : Path} {user project : Table Value}

/-- What reading a setting gives. -/
def Gives (w : Workspace) (key : String) (default a : Value) : Prop := ∃ w', (get key default).run.run w = (.ok a,w')

theorem gives_run {w w' : Workspace} {key : String} {default b : Value}
    (ran : (get key default).run.run w = (.ok b,w')) (a : Value) : Gives w key default a ↔ a = b := by
  constructor
  · rintro ⟨_,given⟩
    exact (Except.ok.inj (congrArg Prod.fst (ran.symm.trans given))).symm
  · rintro rfl
    exact ⟨w',ran⟩

theorem gives_iff (layers : Layers w home user project) (current : Current w user project) (key : String)
    (default a : Value) :
    Gives w key default a ↔ a = getD (.object (resolve user project w.environment)) key default := by
  obtain ⟨now,_,ran⟩ := get_layers layers current
  exact gives_run (ran key default) a

/-- What is remembered, or else the layers, give the same settings again. -/
theorem gives_again (w' : Workspace) (layers : Layers w home user project) (layers' : Layers w' home user project)
    (environment : w'.environment = w.environment) (settings : w'.settings = w.settings) (key : String)
    (default a : Value) : Gives w' key default a ↔ Gives w key default a := by
  cases known : w.settings with
  | none =>
    rw [gives_iff layers' (current_fresh (settings.trans known)),gives_iff layers (current_fresh known),environment]
  | some now =>
    have before := get_known w now key default known
    have after := get_known w' now key default (settings.trans known)
    rw [gives_run after,gives_run before]

variable (serves : Serves w home user project) (key : String) (v : Value) (storable : Storable v) (w' : Workspace)
include serves storable

theorem set_storable : Storable (.object (set user key v)) :=
  storable_setAt user (readFile_storable w.files serves.sound _ user serves.layers.user) _ v storable

theorem setUser_stores (ok : (setUser key v).run.run w = (.ok (),w')) : ∃ user', Serves w' home user' project ∧
    w'.environment = w.environment ∧ w'.settings = none ∧ Same (.object user') (.object (set user key v)) := by
  have proper := set_storable serves key v storable
  obtain ⟨user',arranged⟩ : ∃ user', Toml.arranged (.object (set user key v)) = .object user' :=
    ⟨_,by rw [Toml.arranged]⟩
  rw [setUser_run w home user project serves.layers,run_bind] at ok
  cases writeFile_cases w (userPath home) (set user key v) proper with
  | unprepared fault making ran => rw [ran] at ok; cases ok
  | refused made fault making writing ran => rw [ran] at ok; cases ok
  | done made files making writing ran =>
    rw [ran] at ok
    cases ok
    rw [userPath_parent] at making
    have written := (prepared home _ made serves.working making).written _ files writing
    refine ⟨user',⟨written.working,⟨serves.layers.found,?_,?_⟩,?_⟩,rfl,rfl,?_⟩
    · have read := written.user
      rw [Content.toml,arranged] at read
      exact read
    · exact written.project.trans serves.layers.project
    · intro place v stands
      have stands := (written.contents place).symm.trans stands
      split at stands
      · cases stands
        exact proper
      · exact serves.sound place v stands
    · exact arranged ▸ proper.arranged_same

theorem setUser_fails (failure : Failure) (failed : (setUser key v).run.run w = (.error failure,w')) :
    Serves w' home user project ∧ w'.environment = w.environment ∧ w'.settings = w.settings := by
  rw [setUser_run w home user project serves.layers,run_bind] at failed
  cases writeFile_cases w (userPath home) (set user key v) (set_storable serves key v storable) with
  | done made files making writing ran => rw [ran] at failed; cases failed
  | unprepared fault making ran =>
    rw [ran] at failed
    cases failed
    exact ⟨serves,rfl,rfl⟩
  | refused made fault making writing ran =>
    rw [ran] at failed
    cases failed
    rw [userPath_parent] at making
    have ready := prepared home _ made serves.working making
    refine ⟨⟨ready.working,⟨serves.layers.found,?_,?_⟩,?_⟩,rfl,rfl⟩
    · exact ready.refused _ fault writing user serves.layers.user
    · exact ready.project.trans serves.layers.project
    · exact fun place v stands => serves.sound place v ((ready.contents place).symm.trans stands)

theorem setUser_success (writable : Writable w.files home) : ∃ w', (setUser key v).run.run w = (.ok (),w') := by
  obtain ⟨made,files,making,writing⟩ := writable_success w.files home serves.working writable
    (.document .toml (.object (set user key v)))
  rw [setUser_run w home user project serves.layers,run_bind]
  cases writeFile_cases w (userPath home) (set user key v) (set_storable serves key v storable) with
  | done made files making writing ran => exact ⟨_,by rw [ran]; rfl⟩
  | unprepared fault making' ran => rw [making] at making'; cases making'
  | refused made fault making' writing' ran =>
    rw [making] at making'
    cases making'
    rw [writing] at writing'
    cases writing'

end Serving

section Changing

theorem keyParts_filled (key : String) : keyParts key ≠ [] := by
  unfold keyParts
  rw [Path.splitOn_eq]
  exact fun none => List.splitOn_ne_nil _ _ (List.map_eq_nil_iff.mp none)

/-- Putting a value is an update of one setting. -/
structure Lawful (update : Table Value → String → Value → Table Value) : Prop where
  own : ∀ fields key v default, v.isNull = false → getD (.object (update fields key v)) key default = v
  others : ∀ fields key other v default, Apart (keyParts key) (keyParts other) →
    getD (.object (update fields key v)) other default = getD (.object fields) other default
  last : ∀ fields key v w, update (update fields key v) key w = update fields key w
  commute : ∀ fields key other v w, Apart (keyParts key) (keyParts other) →
    Same (.object (update (update fields key v) other w)) (.object (update (update fields other w) key v))

theorem getD_found (data : Value) (key : String) (default v : Value) (found : find? data (keyParts key) = some v)
    (filled : v.isNull = false) : getD data key default = v := by
  unfold getD
  rw [lookup_eq,found,Option.getD_some]
  cases v with
  | null => cases filled
  | _ => rfl

theorem getD_eq_of_find? (data other : Value) (key : String) (default : Value)
    (same : find? data (keyParts key) = find? other (keyParts key)) : getD data key default = getD other key default := by
  unfold getD
  rw [lookup_eq,same,← lookup_eq]

theorem set_lawful : Lawful set := by
  constructor
  case own =>
    intro fields key v default filled
    refine getD_found _ key default v ?_ filled
    have found := find?_setAt_along fields v (keyParts key) [] (keyParts_filled key)
    rwa [List.append_nil] at found
  case others =>
    intro fields key other v default apart
    exact getD_eq_of_find? _ _ other default (find?_setAt_apart fields v _ _ apart)
  case last => exact fun fields key v w => setAt_setAt fields _ v w
  case commute => exact fun fields key other v w apart => setAt_comm fields _ _ v w apart

/-- What a change of a setting does to the settings. Behind a value in the way of the new setting, which is replaced by a
table, the file of the user says nothing any more. -/
structure Updated (w w' : Workspace) (home : Path) (user project : Table Value) (key : String) (v : Value) : Prop where
  stored : ∃ user', Serves w' home user' project ∧ Same (.object user') (.object (set user key v))
  forgotten : w'.settings = none
  own : v.isObject = false → Lacks (.object project) (keyParts key) →
    (∀ entry ∈ assignments w.environment, Apart entry.1 (keyParts key)) →
    ∀ default, ∃ a, Gives w' key default a ∧ Same a v
  others : Current w user project → ∀ other default, Apart (keyParts key) (keyParts other) →
    Clear user (keyParts key) (keyParts other) → ∃ a a', Gives w other default a ∧ Gives w' other default a' ∧ Same a' a
  replaced : ∀ other default, Apart (keyParts key) (keyParts other) → ¬ Clear user (keyParts key) (keyParts other) →
    ∃ a', Gives w' other default a' ∧ Same a' (getD (.object (resolve [] project w.environment)) other default)

theorem updated (w w' : Workspace) (home : Path) (user user' project : Table Value) (key : String) (v : Value)
    (serves : Serves w home user project) (serves' : Serves w' home user' project) (filled : v.isNull = false)
    (environment : w'.environment = w.environment) (fresh : w'.settings = none)
    (same : Same (.object user') (.object (set user key v))) : Updated w w' home user project key v := by
  have once := (readFile_storable w.files serves.sound _ user serves.layers.user).once
  have once' := (readFile_storable w'.files serves'.sound _ user' serves'.layers.user).once
  have projectOnce := (readFile_storable w.files serves.sound _ project serves.layers.project).once
  have emptyOnce := storable_empty.once
  have gives := gives_iff serves'.layers (current_fresh fresh)
  -- what the user's file has at a path decides with the other layers, which are as they were
  have given (other : String) (fields : Table Value) (fieldsOnce : KeysOnce (.object fields)) (default : Value)
      (agree : Agree user' fields (keyParts other)) :
      Same (getD (.object (resolve user' project w'.environment)) other default)
        (getD (.object (resolve fields project w.environment)) other default) := by
    rw [environment]
    exact getD_same _ _ other default (find?_resolve_same _ project projectOnce once' fieldsOnce agree _)
  constructor
  case stored => exact ⟨user',serves',same⟩
  case forgotten => exact fresh
  case own =>
    intro leaf lacks apart default
    have found := same.find? (keyParts key)
    have put := find?_setAt_along user v (keyParts key) [] (keyParts_filled key)
    rw [List.append_nil] at put
    rw [set,put] at found
    generalize here : find? (.object user') (keyParts key) = old at found
    cases found with
    | @some a _ inner =>
      refine ⟨a,(gives key default a).mpr ?_,inner⟩
      have leaf' : a.isObject = false := inner.isObject.trans leaf
      have filled' : a.isNull = false := inner.isNull.trans filled
      rw [environment]
      exact (getD_found _ key default a
        (find?_resolve_own _ project projectOnce once' a leaf' here lacks w.environment apart) filled').symm
  case others =>
    intro current other default apart clear
    refine ⟨_,_,(gives_iff serves.layers current other default _).mpr rfl,(gives other default _).mpr rfl,?_⟩
    exact given other user once default (agree_setAt user user' _ _ v same apart clear)
  case replaced =>
    intro other default apart obstructed
    refine ⟨_,(gives other default _).mpr rfl,?_⟩
    exact given other [] emptyOnce default (agree_replaced user user' _ _ v same apart obstructed)

section Home

variable (fields : Table Value) (environment : Table String)

theorem homeWorkspace_sound (storable : Storable (.object fields)) : Sound (homeWorkspace fields environment).files := by
  intro place v stands
  have found := (contentAt?_eq_some _ _ _).mp stands
  unfold FileTree.find? at found
  split at found
  · cases found
  · obtain ⟨before,after,same,_⟩ := List.lookup_eq_some_iff.mp found
    have member : (place,Entry.file (.document .toml v)) ∈ (homeWorkspace fields environment).files.entries := by
      rw [same]
      simp
    simp only [homeWorkspace,Workspace.start,List.mem_cons,List.not_mem_nil,or_false,Prod.mk.injEq,reduceCtorEq,
      and_false,false_or,Entry.file.injEq,Content.document.injEq,true_and] at member
    rw [member.2]
    exact storable

theorem homeWorkspace_serves (storable : Storable (.object fields)) (user : Table Value)
    (arranged : Toml.arranged (.object fields) = .object user) :
    Serves (homeWorkspace fields environment) ⟨1,["home"]⟩ user [] := by
  have layers := homeWorkspace_layers fields environment
  rw [arranged] at layers
  refine ⟨⟨?_,rfl⟩,layers,homeWorkspace_sound fields environment storable⟩
  rw [locate_chars]
  rfl

theorem homeWorkspace_writable : Writable (homeWorkspace fields environment).files ⟨1,["home"]⟩ := by
  left
  simp only [isFile,look,locate_chars]
  rfl

theorem size_path : keyParts "archive.max_size_mb" = ["archive","max_size_mb"] := by decide +kernel

theorem directory_path : keyParts "archive.temp_dir" = ["archive","temp_dir"] := by decide +kernel

theorem size_apart : Apart (keyParts "archive.max_size_mb") (keyParts "archive.temp_dir") := by
  rw [size_path,directory_path]
  decide

theorem storable_int (n : Int) : Storable (.int n) := .leaf _ rfl rfl rfl

/-- A home directory alone gives no setting. -/
theorem home_silent (path : List String) :
    ∀ entry ∈ assignments (homeWorkspace fields []).environment, Apart entry.1 path := by
  have none : assignments (homeWorkspace fields []).environment = [] := by
    show assignments [("HOME","/home")] = []
    decide +kernel
  rw [none]
  exact fun entry member => by cases member

theorem clear_siblings (name first second : String) (differ : first ≠ second)
    (table : ∀ w, fields.get? name = some w → w.isObject = true) : Clear fields [name,first] [name,second] := by
  intro front w along along' found
  cases front with
  | nil => cases found; rfl
  | cons part rest =>
    obtain ⟨rfl,rest₁⟩ := List.cons_prefix_cons.mp along
    obtain ⟨_,rest₂⟩ := List.cons_prefix_cons.mp along'
    cases rest with
    | nil =>
      obtain ⟨below,under,same⟩ := Option.bind_eq_some_iff.mp found
      cases same
      exact table w under
    | cons next rest =>
      obtain ⟨rfl,_⟩ := List.cons_prefix_cons.mp rest₁
      exact absurd (List.cons_prefix_cons.mp rest₂).1 differ

theorem same_text (a : Value) (text : String) (same : Same a (.str text)) : a = .str text := by
  cases same
  rfl

end Home

/-- A home directory with a settings file that fixes the greatest size of an archive. -/
def sizedWorkspace : Workspace := homeWorkspace [("archive",.object [("max_size_mb",.int 5)])] []

/-- A change of a setting, with this result, before and after which another setting has these values. -/
def Disturbs (w : Workspace) (key : String) (v : Value) (result : Except Failure Unit) (other : String)
    (before after : Value) : Prop :=
  Apart (keyParts key) (keyParts other) ∧ ∃ w', (setUser key v).run.run w = (result,w') ∧
    Gives w other .null before ∧ Gives w' other .null after

/-- A settings file with a number where the defaults have a table. -/
def numberedWorkspace : Workspace := homeWorkspace [("archive",.int 5)] []

/-- The number takes the default of another setting away, until a table replaces it. -/
theorem numberedWorkspace_replaced :
    Disturbs numberedWorkspace "archive.max_size_mb" (.int 9) (.ok ()) "archive.temp_dir" .null (.str "") := by
  have storable : Storable (.object [("archive",.int 5)]) := storable_put [] storable_empty _ _ (storable_int 5)
  have serves := homeWorkspace_serves _ [] storable [("archive",.int 5)] rfl
  obtain ⟨w',ok⟩ := setUser_success serves "archive.max_size_mb" _ (storable_int 9) (homeWorkspace_writable _ _)
  obtain ⟨user',serves',environment,fresh,same⟩ := setUser_stores serves "archive.max_size_mb" _ (storable_int 9) w' ok
  have changed := updated _ w' _ _ user' [] "archive.max_size_mb" (.int 9) serves serves' rfl environment fresh same
  have obstructed : ¬ Clear [("archive",.int 5)] (keyParts "archive.max_size_mb") (keyParts "archive.temp_dir") := by
    rw [size_path,directory_path]
    intro clear
    cases clear ["archive"] (.int 5) (by simp) (by simp) rfl
  obtain ⟨a,given,same⟩ := changed.replaced "archive.temp_dir" .null size_apart obstructed
  refine ⟨size_apart,w',ok,(gives_iff serves.layers (current_fresh rfl) _ _ _).mpr rfl,?_⟩
  rw [same_text a "" same] at given
  exact given

/-- A settings file with a directory for temporary files. -/
def temporaryWorkspace : Workspace := homeWorkspace [("archive",.object [("temp_dir",.str "/x")])] []

/-- A list with a null has no text, so that the file is empty once it has been written. -/
theorem temporaryWorkspace_torn : ∃ failure,
    Disturbs temporaryWorkspace "data_dir" (.list [.null]) (.error failure) "archive.temp_dir" (.str "/x") (.str "") := by
  have storable : Storable (.object [("archive",.object [("temp_dir",.str "/x")])]) :=
    storable_put [] storable_empty _ _ (storable_put [] storable_empty _ _ (.leaf _ rfl rfl rfl))
  have serves : Serves temporaryWorkspace ⟨1,["home"]⟩ [("archive",.object [("temp_dir",.str "/x")])] [] :=
    homeWorkspace_serves _ [] storable _ rfl
  have text : (Toml.print (set [("archive",.object [("temp_dir",.str "/x")])] "data_dir" (.list [.null]))).1 = "" := by
    decide +kernel
  have refused : (Toml.print (set [("archive",.object [("temp_dir",.str "/x")])] "data_dir" (.list [.null]))).2.isSome =
      true := by decide +kernel
  obtain ⟨fault,refused⟩ := Option.isSome_iff_exists.mp refused
  obtain ⟨made,files,making,writing⟩ := writable_success temporaryWorkspace.files _ serves.working
    (homeWorkspace_writable _ _) (.ofText "")
  have ran : (setUser "data_dir" (.list [.null])).run.run temporaryWorkspace =
      (.error (.fault fault),{ temporaryWorkspace with files }) := by
    rw [setUser_run _ _ _ _ serves.layers,run_bind,
      writeFile_torn _ _ _ "" fault (Prod.ext text refused) made files making writing]
  rw [userPath_parent] at making
  have written := (prepared _ _ made serves.working making).written _ files writing
  have layers : Layers { temporaryWorkspace with files } ⟨1,["home"]⟩ [] [] :=
    ⟨rfl,written.user.trans toml_empty,written.project.trans serves.layers.project⟩
  refine ⟨_,?_,_,ran,(gives_iff serves.layers (current_fresh rfl) _ _ _).mpr rfl,
    (gives_iff layers (current_fresh rfl) _ _ _).mpr rfl⟩
  rw [directory_path]
  decide +kernel

end Changing

end Pagewright.Settings
