import Pagewright.Proofs.Cache.Effects

/-! Runs of a cache: requests by any users in any order, each with the clock that it reads. A request
changes only what belongs to its user. -/
namespace Pagewright.Cache
open FileTree

/-- A clock whose readings leave the files alone. -/
structure Clock where
  reading : Work Value
  filesKept : ∀ w, (reading.after w).files = w.files

def Clock.showing (time : Value) : Clock := ⟨pure time,fun w => by rw [Work.pure_after]⟩

def Clock.ofWorkspace : Clock := ⟨Store.workspaceClock,fun w => by unfold Work.after; rfl⟩

inductive Call where
  | put (clock : Clock) (project : Project) (detections : Table Detection)
  | get (clock : Clock)
  | delete

structure Request where
  user : String
  call : Call

namespace Store

variable (s : Store)

def clocked (clock : Clock) : Store := { s with clock := clock.reading }

/-- The state that a request leaves, also where it fails. -/
def perform (request : Request) (w : Workspace) : Workspace :=
  match request.call with
  | .put clock project detections => ((s.clocked clock).put request.user project detections).after w
  | .get clock => ((s.clocked clock).get request.user).after w
  | .delete => (s.delete request.user).after w

def run (requests : List Request) (w : Workspace) : Workspace :=
  requests.foldl (fun w request => s.perform request w) w

/-- The entry that a request stores, with its user; a request that fails stores none. -/
def stored (request : Request) (w : Workspace) : List (String × Entry) :=
  match request.call with
  | .put clock project detections =>
    match ((s.clocked clock).put request.user project detections).result w with
    | .ok entry => [(request.user,entry)]
    | .error _ => []
  | _ => []

/-- The entries that requests store, with their users, from the first to the last. -/
def puts : List Request → Workspace → List (String × Entry)
  | [], _ => []
  | request :: rest, w => s.stored request w ++ puts rest (s.perform request w)

/-- Nothing stands in the cache yet. -/
def Fresh (t : FileTree) : Prop :=
  ∀ place, isBelow (s.base t.current) place = true → t.find? place = none

theorem bare_of_fresh (t : FileTree) (fresh : s.Fresh t) (key : String) :
    Bare (s.base t.current) key t := by
  intro name _ standing
  obtain ⟨first,rest,split⟩ := home_snoc (s.base t.current) key name
  rw [fresh _ ((isBelow_iff _ _).mpr ⟨first,rest,split⟩)] at standing
  cases standing

theorem clocked_clockOnly (clock : Clock) : (s.clocked clock).ClockOnly := clock.filesKept

theorem stage_wellFormed (current : Place) (user : String) (project : Project) :
    Work.Keeps (WellFormedAt current) (s.stage user project) := by
  refine s.stage_keeps user _ project ?_ fun image _ position => stageImage_keeps _ _ _ _ ?_ ?_
  · exact fun t before => (removeTree_changes t _).wellFormedAt before
  · exact fun t t' before made => (makeDirectories_success t t' _ made).1.wellFormedAt before
  · exact fun t t' content before written =>
      (write_changes t t' _ content (copyTarget_proper _ position image) written).wellFormedAt before

theorem put_wellFormed (current : Place) (user : String) (project : Project) (detections : Table Detection)
    (clock : s.ClockOnly) : Work.Keeps (WellFormedAt current) (s.put user project detections) := by
  refine s.put_keeps user _ project detections clock ?_ (s.stage_wellFormed current user project) ?_
  · exact fun t t' before made => (makeDirectories_success t t' _ made).1.wellFormedAt before
  · exact fun t t' content before written =>
      (write_changes t t' _ content (by rw [fileOf_eq]; simp) written).wellFormedAt before

/-- A later tree in which directories came up on the way to the images of a user alone. -/
structure Opens (user : String) (t t' : FileTree) : Prop where
  current : t'.current = t.current
  directories : ∀ place, t'.find? place = some .directory →
    t.find? place = some .directory ∨ OnPath t.current (s.imagesOf user) place

theorem opens_refl (user : String) (t : FileTree) : s.Opens user t t := ⟨rfl,fun _ => .inl⟩

theorem opens_more (user : String) (t t₁ t₂ : FileTree) (opens : s.Opens user t t₁)
    {written made lost : Place → Prop} (changes : Changes written made lost t₁ t₂)
    (onPath : ∀ place, made place → OnPath t.current (s.imagesOf user) place) : s.Opens user t t₂ := by
  refine ⟨changes.current.trans opens.current,fun place standing => ?_⟩
  rcases changes.directories place standing with before | new
  · exact opens.directories place before
  · exact .inr (onPath place new)

theorem stage_opens (user : String) (t : FileTree) (project : Project) :
    Work.Keeps (s.Opens user t) (s.stage user project) := by
  refine s.stage_keeps user _ project ?_ fun image _ position => stageImage_keeps _ _ _ _ ?_ ?_
  · exact fun t₁ before => s.opens_more user t t₁ _ before (removeTree_changes t₁ _) fun _ => False.elim
  · intro t₁ t₂ before made
    have changes := (makeDirectories_success t₁ t₂ _ made).1
    rw [before.current] at changes
    exact s.opens_more user t t₁ t₂ before changes fun _ => id
  · intro t₁ t₂ content before written
    have changes := write_changes t₁ t₂ _ content (copyTarget_proper _ position image) written
    exact s.opens_more user t t₁ t₂ before changes fun _ => False.elim

/-- Storing makes no directories but those on the way to the images. -/
theorem put_opens (user : String) (t : FileTree) (project : Project) (detections : Table Detection)
    (clock : s.ClockOnly) : Work.Keeps (s.Opens user t) (s.put user project detections) := by
  have cachePath (place : Place) (onPath : OnPath t.current s.directory place) :
      OnPath t.current (s.imagesOf user) place := by
    obtain ⟨start,inside,same⟩ := onPath
    rw [imagesOf_eq]
    exact ⟨start,inside.trans (List.prefix_append _ _),same⟩
  refine s.put_keeps user _ project detections clock ?_ (s.stage_opens user t project) ?_
  · intro t₁ t₂ before made
    have changes := (makeDirectories_success t₁ t₂ _ made).1
    rw [before.current] at changes
    exact s.opens_more user t t₁ t₂ before changes cachePath
  · intro t₁ t₂ content before written
    have changes := write_changes t₁ t₂ _ content (by rw [fileOf_eq]; simp) written
    exact s.opens_more user t t₁ t₂ before changes fun _ => False.elim

theorem answered_changes (user : String) (t t' : FileTree) (outcome : Except Failure (Option Entry))
    (answered : s.Answered user t outcome t') :
    Changes nowhere nowhere (s.OwnGround t.current user) t t' := by
  rcases outcome with _ | _ | _
  · exact answered
  · exact answered
  · obtain ⟨rfl,_⟩ := answered
    exact Changes.refl _

theorem perform_wellFormed (request : Request) (current : Place) (w : Workspace)
    (before : w.files.WellFormedAt current) : (s.perform request w).files.WellFormedAt current := by
  obtain ⟨user,call⟩ := request
  cases call with
  | put clock project detections =>
    exact (put_wellFormed (s.clocked clock) current user project detections
      (s.clocked_clockOnly clock)).holds w before
  | get clock =>
    have answered := ((s.clocked clock).get_ensures user w (s.clocked_clockOnly clock)).holds
    exact ((s.clocked clock).answered_changes user _ _ _ answered).wellFormedAt before
  | delete => exact (s.delete_changes user w).wellFormedAt before

/-- A request changes what belongs to its user alone. -/
theorem perform_changes (request : Request) (w : Workspace) (direct : s.Direct w.files.current)
    (wellFormed : w.files.WellFormed)
    (tidy : userKey request.user = ".." →
      Bare (s.base w.files.current) (userKey request.user) w.files) :
    s.OwnChanges request.user w.files (s.perform request w).files := by
  obtain ⟨user,call⟩ := request
  cases call with
  | put clock project detections =>
    obtain ⟨staged,staging,ending⟩ := ((s.clocked clock).put_ensures user project detections w direct
      wellFormed tidy (s.clocked_clockOnly clock)).holds
    have first : s.OwnChanges user w.files staged :=
      staging.weaken (fun _ => Or.inr) (fun _ => id) (fun _ => Or.inr)
    unfold perform
    dsimp only
    cases result : ((s.clocked clock).put user project detections).result w with
    | error failure =>
      rw [result] at ending
      rw [show _ = staged from ending]
      exact first
    | ok entry =>
      rw [result] at ending
      have written := write_changes _ _ _ _ (by rw [fileOf_eq]; simp) ending.2
      rw [destination_fileOf,show staged.current = _ from first.current] at written
      exact first.trans (written.weaken (fun _ => Or.inl) (fun _ => False.elim) (fun _ => False.elim))
  | get clock =>
    have answered := ((s.clocked clock).get_ensures user w (s.clocked_clockOnly clock)).holds
    exact ((s.clocked clock).answered_changes user _ _ _ answered).weaken (fun _ => False.elim)
      (fun _ => False.elim) (fun _ => id)
  | delete =>
    exact (s.delete_changes user w).weaken (fun _ => False.elim) (fun _ => False.elim) (fun _ => id)

theorem run_wellFormed (requests : List Request) (current : Place) (w : Workspace)
    (before : w.files.WellFormedAt current) : (s.run requests w).files.WellFormedAt current := by
  induction requests generalizing w with
  | nil => exact before
  | cons request rest ih => exact ih _ (s.perform_wellFormed request current w before)

end Store

end Pagewright.Cache
