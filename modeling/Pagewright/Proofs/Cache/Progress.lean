import Pagewright.Proofs.Cache.Effects
import Pagewright.Proofs.Files.Removal

/-! Requests that go through: an image that has a file is copied, an entry that can be read is found, and
what belongs to a user is gone once that user deleted. -/
namespace Pagewright.Cache
open FileTree

theorem plain_userKey (user : String) (noDots : userKey user ≠ "..") (fits : Fits (userKey user)) :
    Plain (userKey user) :=
  ⟨noDots,fun null => absurd (mem_userKey user _ null) (by decide),fits⟩

theorem plain_fileName (user : String) (fits : Fits (fileName user)) : Plain (fileName user) :=
  ⟨(fileName_proper user).2.2,null_fileName user,fits⟩

/-- The place of the images for a special key lies at or above that of the images of all users. -/
theorem special_below (base : Place) (key first : String) (rest : Place) (special : Special key) :
    isBelow (home base key) (base ++ ["assets"] ++ first :: rest) = true := by
  by_cases dots : key = ".."
  · have root : home base key = base := by rw [dots]; rfl
    rw [root,List.append_assoc]
    exact isBelow_append _ _ (by simp)
  · have none : keyParts key = [] := if_pos (special.imp_right fun other => other.resolve_right dots)
    rw [home_parts _ _ dots,none]
    exact isBelow_append _ _ (by simp)

namespace Store

theorem stageImage_missing (target source : Path) (position : Nat) (image : Project.AssetFile)
    (w : Workspace) (path : imagePath image = .ok source) (absent : w.files.isFile source = .ok false) :
    (stageImage target position image).result w = .ok image ∧
      (stageImage target position image).after w = w := by
  have named : (Work.ask fun _ => imagePath image).result w = .ok source := by
    rw [Work.ask_result,path]
    rfl
  have asked : (Work.ask fun files => files.isFile source).result w = .ok false := by
    rw [Work.ask_result,absent]
    rfl
  unfold stageImage
  rw [(Work.bind_done _ _ w source named).1,(Work.bind_done _ _ w source named).2,Work.ask_after,
    (Work.bind_done _ _ w false asked).1,(Work.bind_done _ _ w false asked).2,Work.ask_after]
  exact ⟨Work.pure_result _ _,Work.pure_after _ _⟩

theorem stageImage_run (target source : Path) (position : Nat) (image : Project.AssetFile) (w : Workspace)
    (made copied : FileTree) (path : imagePath image = .ok source) (present : w.files.isFile source = .ok true)
    (making : w.files.makeDirectories target = .ok made)
    (copying : made.copy source (target / copyName position image) = .ok copied) :
    (stageImage target position image).run.run w =
      (.ok { image with path := .str (target / copyName position image).text },{ w with files := copied }) := by
  unfold stageImage
  rw [run_bind,Work.ask_run,path]
  dsimp only [Except.mapError]
  rw [run_bind,Work.ask_run,present]
  dsimp only [Except.mapError]
  rw [if_neg nofun,run_bind,Work.change_run (·.makeDirectories target) w made making]
  dsimp only
  rw [run_bind,Work.change_run (·.copy source _) _ copied copying]
  rfl

/-- A copy of an image that has a file stands where the images are copied to. -/
theorem stageImage_copies (s : Store) (user : String) (source : Path) (position : Nat)
    (image : Project.AssetFile) (content : Content) (w : Workspace) (made : FileTree)
    (path : imagePath image = .ok source) (present : w.files.isFile source = .ok true)
    (making : w.files.makeDirectories (s.imagesOf user) = .ok made)
    (found : made.read source = .ok content)
    (bare : Bare (s.base made.current) (userKey user) made)
    (name : Plain (copyName position image)) (noSlash : '/' ∉ (copyName position image).toList) :
    ((stageImage (s.imagesOf user) position image).after w).files.find?
      (home (s.base made.current) (userKey user) ++ [copyName position image]) =
        some (.file content) := by
  obtain ⟨_,leads⟩ := makeDirectories_success _ _ _ making
  have proper := copyName_proper _ ⟨position,image,rfl⟩
  have target : s.imagesOf user / copyName position image =
      ⟨(s.imagesOf user).slashes,(s.imagesOf user).parts ++ [copyName position image]⟩ := by
    show (s.imagesOf user).append (Path.ofText _) = _
    rw [Path.ofText_name _ noSlash ⟨proper.1,proper.2.1⟩]
    rfl
  have located := locate_child made _ _ leads name
  rw [← target,destination_imagesOf] at located
  have written := write_free made _ _ content located (bare _ ⟨position,image,rfl⟩)
  have copied := copy_read made source _ content _ found written
  suffices stages : Work.Ensures (stageImage (s.imagesOf user) position image) w fun _ files =>
      files.find? (home (s.base made.current) (userKey user) ++ [copyName position image]) =
        some (.file content) from stages.holds
  unfold stageImage
  refine Work.ensures_ask_ok _ _ _ _ source path ?_
  refine Work.ensures_ask_ok _ _ _ _ true present ?_
  rw [if_neg (by decide)]
  refine Work.ensures_change_ok _ _ _ _ made making ?_
  refine Work.ensures_change_ok _ _ _ _ _ copied ?_
  exact Work.ensures_pure _ _ _ (find?_put_self _ _ (by simp))

variable (s : Store) (user : String) (w : Workspace)

theorem entry_located (t : FileTree) (leads : t.LeadsToDirectory s.directory)
    (fits : Fits (fileName user)) :
    t.locate (s.fileOf user) = .ok (s.base t.current ++ [fileName user]) := by
  rw [fileOf_eq]
  exact locate_child t s.directory (fileName user) leads (plain_fileName user fits)

theorem special_located (t : FileTree) (wellFormed : t.WellFormed)
    (leads : t.LeadsToDirectory s.directory) (special : Special (userKey user))
    (assets : t.find? (s.base t.current ++ ["assets"]) = some .directory) :
    t.locate (s.imagesOf user) = .ok (home (s.base t.current) (userKey user)) := by
  rw [imagesOf_eq]
  by_cases dots : userKey user = ".."
  · -- The way leads down to the images of all users and back.
    have back : t.resolve (s.base t.current) ["assets",".."] = .ok (s.base t.current) := by
      have cache : t.find? (s.base t.current) = some .directory := leads.2
      have short : ¬ maxName < "assets".utf8ByteSize ∧ "..".utf8ByteSize ≤ maxName := by decide
      simp [resolve,cache,short,assets]
    rw [dots]
    have found := locate_append t s.directory leads ["assets",".."] (by decide)
    rw [show destination t.current s.directory = s.base t.current from rfl,back] at found
    exact found
  · have none : keyParts (userKey user) = [] :=
      if_pos (special.imp_right fun other => other.resolve_right dots)
    rw [home_parts _ _ dots,none]
    exact locate_standing t wellFormed s.directory leads ["assets"] (by decide) _ assets

theorem delete_clears (wellFormed : w.files.WellFormed) (leads : w.files.LeadsToDirectory s.directory)
    (fits : Fits (fileName user))
    (missing : w.files.find? (s.base w.files.current ++ [fileName user]) = none)
    (located : w.files.locate (s.imagesOf user) = .ok (home (s.base w.files.current) (userKey user)))
    (place : Place) (below : isBelow (home (s.base w.files.current) (userKey user)) place = true) :
    ((s.delete user).after w).files.find? place = none := by
  have entry := s.entry_located user w.files leads fits
  suffices clears : Work.Ensures (s.delete user) w fun _ files => files.find? place = none from clears.holds
  unfold delete
  refine Work.ensures_change_ok _ _ _ _ _ (unlink_missing _ _ _ entry missing) ?_
  refine Work.ensures_modify _ _ _ ?_
  dsimp only
  exact removeTree_empties _ wellFormed _ _ _ located below

theorem delete_removes (leads : w.files.LeadsToDirectory s.directory) (fits : Fits (fileName user))
    (content : Content)
    (standing : w.files.find? (s.base w.files.current ++ [fileName user]) = some (.file content)) :
    ((s.delete user).after w).files.contentAt? (s.base w.files.current ++ [fileName user]) = none := by
  have entry := s.entry_located user w.files leads fits
  suffices removes : Work.Ensures (s.delete user) w fun _ files =>
      files.contentAt? (s.base w.files.current ++ [fileName user]) = none from removes.holds
  unfold delete
  refine Work.ensures_change_ok _ _ _ _ _ (unlink_file _ _ _ _ entry standing) ?_
  refine Work.ensures_modify _ _ _ ?_
  dsimp only
  rw [Option.eq_none_iff_forall_ne_some]
  intro other stands
  have before := (removeTree_changes _ _).files _ other ((contentAt?_eq_some _ _ _).mp stands)
  rw [find?_removeWhere,if_pos ⟨by simp,by simp⟩] at before
  rcases before with never | never
  · cases never
  · exact never.elim

/-- An entry that stands where the user looks, that can be read and has not expired, is found. -/
theorem get_finds (content : Content) (data now : Value)
    (entry : Entry) (leads : w.files.LeadsToDirectory s.directory) (fits : Fits (fileName user))
    (standing : w.files.find? (s.base w.files.current ++ [fileName user]) = some (.file content))
    (decoded : content.json = .ok data) (read : Entry.read data = .ok entry)
    (clock : s.clock.result w = .ok now)
    (lasting : isExpired now s.lifetime entry.created = .ok false) :
    (s.get user).result w = .ok (some entry) := by
  have located := s.entry_located user w.files leads fits
  have found : readEntry w.files (s.fileOf user) = .ok entry := by
    unfold readEntry
    rw [read_standing _ _ _ content located standing]
    show (liftM content.json >>= Entry.read) = _
    rw [decoded]
    exact read
  suffices finds : Work.Ensures (s.get user) w fun result _ => result = .ok (some entry) from finds.holds
  unfold get
  refine Work.ensures_ask_ok _ _ _ _ true (isFile_standing _ _ _ _ located standing) ?_
  rw [if_neg (by decide)]
  refine Work.ensures_get _ _ _ ?_
  rw [found]
  dsimp only
  refine Work.ensures_bind _ _ _ _ (fun failure failed => ?_) fun shown given => ?_
  · rw [clock] at failed
    cases failed
  · rw [clock] at given
    cases given
    rw [lasting]
    refine Work.ensures_ofExcept _ _ _ _ (fun failure failed => by cases failed) fun expired given => ?_
    cases given
    exact Work.ensures_pure _ _ _ rfl

/-- After a user deleted, there is no entry where the user looks. -/
theorem delete_forgets (w' : Workspace) (ok : (s.delete user).run.run w = (.ok (),w')) :
    w'.files.isFile (s.fileOf user) = .ok false := by
  obtain ⟨_,w₁,removed,cleared⟩ := run_bind_success _ _ _ _ _ ok
  obtain ⟨files,unlinked,rfl⟩ := Work.change_success _ _ _ removed
  rw [Work.modify_run] at cleared
  obtain ⟨_,rfl⟩ := Prod.mk.inj cleared
  dsimp only
  exact isFile_thinned files _ (thinned_removeTree files _) _ (unlink_gone _ files _ unlinked)

/-- A user without an entry gets none, and nothing changes. -/
theorem get_absent (absent : w.files.isFile (s.fileOf user) = .ok false) :
    (s.get user).run.run w = (.ok none,w) := by
  unfold get
  rw [run_bind,Work.ask_run,absent]
  rfl

/-- What asking comes to where there is a file to read the entry from. -/
theorem get_read (content : Content) (found : w.files.read (s.fileOf user) = .ok content) : (s.get user).run.run w =
    (match readEntry w.files (s.fileOf user) with
      | .error failure =>
        if isUnreadable failure then do
          s.delete user
          return none
        else throw failure
      | .ok entry => do
        let now ← s.clock
        if ← Work.ofExcept ((isExpired now s.lifetime entry.created).mapError .fault) then
          s.delete user
          return none
        else return some entry : Work (Option Entry)).run.run w := by
  unfold get
  rw [run_bind,Work.ask_run,isFile_read _ _ _ found]
  dsimp only [Except.mapError]
  rewrite [if_neg nofun,run_bind,run_get]
  cases read : readEntry w.files (s.fileOf user) with
  | error failure =>
    dsimp only
    rewrite [read]
    rfl
  | ok entry =>
    dsimp only
    rewrite [read]
    rfl

section Storing

variable (project staged : Project) (detections : Table Detection) (w₁ w₂ : Workspace) (opened files : FileTree) (now : Value)
  (opens : w.files.makeDirectories s.directory = .ok opened)
  (stages : (s.stage user project).run.run { w with files := opened } = (.ok staged,w₁))
  (clock : s.clock.run.run w₁ = (.ok now,w₂))
include opens stages clock

/-- Storing comes down to writing the entry, once the images are staged and the clock was read. -/
theorem put_run : (s.put user project detections).run.run w = (do
    Work.change (·.write (s.fileOf user) (.document (.json .spaced)
      (Entry.toValue ⟨.str user,now,staged,detections⟩)))
    return (⟨.str user,now,staged,detections⟩ : Entry) : Work Entry).run.run w₂ := by
  unfold put
  rw [run_bind,Work.change_run _ _ _ opens]
  dsimp only
  rw [run_bind,stages]
  dsimp only
  rw [run_bind,clock]

theorem put_stored (written : w₂.files.write (s.fileOf user) (.document (.json .spaced)
      (Entry.toValue ⟨.str user,now,staged,detections⟩)) = .ok files) :
    (s.put user project detections).run.run w = (.ok ⟨.str user,now,staged,detections⟩,{ w₂ with files }) := by
  rw [s.put_run user w project staged detections w₁ w₂ opened now opens stages clock,run_bind,
    Work.change_run (·.write _ _) _ files written]
  rfl

theorem put_refused (refused : ∀ content, ∃ fault, w₂.files.write (s.fileOf user) content = .error fault) :
    ∃ failure, (s.put user project detections).run.run w = (.error failure,w₂) := by
  obtain ⟨fault,refused⟩ := refused (.document (.json .spaced) (Entry.toValue ⟨.str user,now,staged,detections⟩))
  refine ⟨.fault fault,?_⟩
  rw [s.put_run user w project staged detections w₁ w₂ opened now opens stages clock,run_bind,
    Work.change_refused (·.write _ _) _ fault refused]

end Storing

end Store

end Pagewright.Cache
