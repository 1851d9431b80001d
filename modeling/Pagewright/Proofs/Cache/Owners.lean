import Pagewright.Proofs.Cache.Slots

/-! Whose entry a user gets. In a cache that starts empty, an entry that is found was stored for the
same user where different users have different cache files and no image is copied to one of them. -/
namespace Pagewright.Cache
open FileTree

/-- Where the parts of an entry that is read come from. -/
theorem read_parts (data : Value) (entry : Entry) (ok : Entry.read data = .ok entry) :
    data.member "user" = .ok entry.user ∧ (∃ created, entry.created = .float created) ∧
      ∃ project, data.member "project" = .ok project ∧ Project.read project = .ok entry.project := by
  obtain ⟨user,owned,ok⟩ := except_bind_success _ _ _ ok
  obtain ⟨_,_,ok⟩ := except_bind_success _ _ _ ok
  obtain ⟨created,_,ok⟩ := except_bind_success _ _ _ ok
  obtain ⟨data,found,ok⟩ := except_bind_success _ _ _ ok
  obtain ⟨project,read,ok⟩ := except_bind_success _ _ _ ok
  obtain ⟨_,_,ok⟩ := except_bind_success _ _ _ ok
  obtain ⟨table,_,ok⟩ := except_bind_success _ _ _ ok
  obtain ⟨detections,_,ok⟩ := except_bind_success _ _ _ ok
  cases ok
  exact ⟨lift_success _ _ owned,⟨created,rfl⟩,data,lift_success _ _ found,read⟩

/-- An entry that is read has the user of the value. -/
theorem read_user (stored entry : Entry) (ok : Entry.read stored.toValue = .ok entry) :
    entry.user = stored.user :=
  (Except.ok.inj (read_parts _ entry ok).1).symm

namespace Store

variable (s : Store)

theorem stored_user (request : Request) (w : Workspace) (user : String) (entry : Entry)
    (member : (user,entry) ∈ s.stored request w) : user = request.user := by
  obtain ⟨other,call⟩ := request
  cases call with
  | put clock project detections =>
    unfold stored at member
    dsimp only at member
    split at member
    · exact (Prod.mk.inj (List.mem_singleton.mp member)).1
    · cases member
  | get clock => cases member
  | delete => cases member

theorem readEntry_success (files : FileTree) (path : Path) (entry : Entry)
    (ok : readEntry files path = .ok entry) :
    ∃ content data, files.read path = .ok content ∧ content.json = .ok data ∧
      Entry.read data = .ok entry := by
  obtain ⟨content,found,ok⟩ := except_bind_success _ _ _ ok
  obtain ⟨data,decoded,ok⟩ := except_bind_success _ _ _ ok
  exact ⟨content,data,lift_success _ _ found,lift_success _ _ decoded,ok⟩

end Store

/-- Ids of which no two share a cache file, and of which none has a cache file in the place of a copy. -/
structure Separate (users : String → Prop) : Prop where
  keys : ∀ user other, users user → users other → Fits (fileName user) →
    userKey user = userKey other → user = other
  copies : ∀ user other, users user → users other → Fits (fileName user) →
    userKey other = ".." → ¬ IsCopyName (fileName user)

/-- What holds in a cache of some users after some entries were stored: the cache files hold stored
entries, each of its user. -/
structure Owned (s : Store) (current : Place) (users : String → Prop) (stored : List (String × Entry))
    (t : FileTree) : Prop where
  wellFormed : t.WellFormedAt current
  tidy : ∀ name, t.find? (s.base current ++ [name]) = some .directory → name = "assets"
  entries : ∀ user, users user → ∀ content,
    t.find? (s.base current ++ [fileName user]) = some (.file content) →
      ∃ entry, (user,entry) ∈ stored ∧ content = .document (.json .spaced) entry.toValue
  named : ∀ user entry, (user,entry) ∈ stored → entry.user = .str user

section Steps

variable (s : Store) (current : Place) (users : String → Prop)

theorem owned_bare (stored : List (String × Entry)) (t : FileTree) (owned : Owned s current users stored t)
    (key : String) (dots : key = "..") : Bare (s.base current) key t := by
  intro name copy standing
  have root : home (s.base current) key = s.base current := by rw [dots]; rfl
  rw [root] at standing
  exact (copyName_proper name copy).2.2.2 (owned.tidy name standing)

theorem tidy_later (user : String) (stored : List (String × Entry)) (t t' : FileTree)
    (owned : Owned s current users stored t) (changes : s.OwnChanges user t t') (name : String)
    (standing : t'.find? (s.base current ++ [name]) = some .directory) : name = "assets" := by
  unfold Store.OwnChanges at changes
  rw [owned.wellFormed.current] at changes
  rcases changes.directories _ standing with before | made
  · exact owned.tidy name before
  · exact made_in_cache _ _ _ made

/-- Staging puts no file in the place of a cache file. -/
theorem staged_entry (separate : Separate users) (stored : List (String × Entry)) (t staged : FileTree)
    (owned : Owned s current users stored t) (user other : String) (known : users user)
    (knownOther : users other) (staging : s.StagingChanges other t staged) (content : Content)
    (standing : staged.find? (s.base current ++ [fileName user]) = some (.file content)) :
    t.find? (s.base current ++ [fileName user]) = some (.file content) := by
  have fits := (staging.wellFormed owned.wellFormed.wellFormed _ _ _ standing).2
  unfold Store.StagingChanges at staging
  rw [owned.wellFormed.current] at staging
  rcases staging.files _ content standing with before | ⟨name,copy,same⟩
  · exact before
  · obtain ⟨root,last⟩ := List.append_inj' same rfl
    have dots := dots_of_home _ _ root.symm
    rw [← (List.cons.inj last).1] at copy
    exact absurd copy (separate.copies user other known knownOther fits dots)

theorem owned_staged (separate : Separate users) (stored : List (String × Entry)) (t staged : FileTree)
    (owned : Owned s current users stored t) (other : String) (knownOther : users other)
    (staging : s.StagingChanges other t staged) : Owned s current users stored staged where
  wellFormed := staging.wellFormedAt owned.wellFormed
  tidy name := tidy_later s current users other stored t staged owned
    (staging.weaken (fun _ => Or.inr) (fun _ => id) (fun _ => Or.inr)) name
  entries user known content standing := owned.entries user known content
    (staged_entry s current users separate stored t staged owned user other known knownOther staging
      content standing)
  named := owned.named

/-- Writing the entry of a user gives the cache file to that user. -/
theorem owned_written (separate : Separate users) (stored : List (String × Entry)) (t t' : FileTree)
    (owned : Owned s current users stored t) (other : String) (knownOther : users other) (entry : Entry)
    (named : entry.user = .str other)
    (writing : t.write (s.fileOf other) (.document (.json .spaced) entry.toValue) = .ok t') :
    Owned s current users (stored ++ [(other,entry)]) t' := by
  have changes := write_changes _ _ _ _ (by rw [Store.fileOf_eq]; simp) writing
  obtain ⟨_,_,put⟩ := write_success _ _ _ _ writing
  rw [Store.destination_fileOf,owned.wellFormed.current] at changes put
  have wellFormed := changes.wellFormedAt owned.wellFormed
  refine ⟨wellFormed,?_,?_,?_⟩
  · intro name standing
    rcases changes.directories _ standing with before | never
    · exact owned.tidy name before
    · exact never.elim
  · intro user known content standing
    have fits := (wellFormed.wellFormed _ _ _ standing).2
    rcases changes.files _ content standing with before | same
    · obtain ⟨old,member,equal⟩ := owned.entries user known content before
      exact ⟨old,List.mem_append_left _ member,equal⟩
    · have equal := child_inj _ _ _ same
      obtain rfl := separate.keys user other known knownOther fits (fileName_inj _ _ equal)
      rw [put,find?_put_self _ _ (by simp)] at standing
      cases standing
      exact ⟨entry,by simp,rfl⟩
  · intro user old member
    rcases List.mem_append.mp member with before | last
    · exact owned.named user old before
    · obtain ⟨rfl,rfl⟩ := Prod.mk.inj (List.mem_singleton.mp last)
      exact named

theorem owned_less (stored : List (String × Entry)) (t t' : FileTree)
    (owned : Owned s current users stored t) (lost : Place → Prop)
    (changes : Changes nowhere nowhere lost t t') : Owned s current users stored t' where
  wellFormed := changes.wellFormedAt owned.wellFormed
  tidy name standing := by
    rcases changes.directories _ standing with before | never
    · exact owned.tidy name before
    · exact never.elim
  entries user known content standing := by
    rcases changes.files _ content standing with before | never
    · exact owned.entries user known content before
    · exact never.elim
  named := owned.named

/-- What a request keeps. -/
theorem owned_step (separate : Separate users) (direct : s.Direct current) (request : Request)
    (known : users request.user) (w : Workspace) (stored : List (String × Entry))
    (owned : Owned s current users stored w.files) :
    Owned s current users (stored ++ s.stored request w) (s.perform request w).files := by
  obtain ⟨user,call⟩ := request
  cases call with
  | put clock project detections =>
    rw [← owned.wellFormed.current] at direct
    have bare := owned_bare s current users stored w.files owned (userKey user)
    rw [← owned.wellFormed.current] at bare
    obtain ⟨staged,staging,ending⟩ := ((s.clocked clock).put_ensures user project detections w direct
      owned.wellFormed.wellFormed bare (s.clocked_clockOnly clock)).holds
    have before := owned_staged s current users separate stored w.files staged owned user known staging
    unfold Store.perform Store.stored
    dsimp only
    cases result : ((s.clocked clock).put user project detections).result w with
    | error failure =>
      rw [result] at ending
      rw [show _ = staged from ending]
      simpa using before
    | ok entry =>
      rw [result] at ending
      exact owned_written s current users separate stored staged _ before user known entry ending.1
        ending.2
  | get clock =>
    have answered := ((s.clocked clock).get_ensures user w (s.clocked_clockOnly clock)).holds
    have changes := (s.clocked clock).answered_changes user _ _ _ answered
    have rest := owned_less s current users stored w.files _ owned _ changes
    unfold Store.perform Store.stored
    rw [List.append_nil]
    exact rest
  | delete =>
    have rest := owned_less s current users stored w.files _ owned _ (s.delete_changes user w)
    unfold Store.perform Store.stored
    rw [List.append_nil]
    exact rest

theorem owned_run (separate : Separate users) (direct : s.Direct current) (requests : List Request)
    (known : ∀ request ∈ requests, users request.user) (w : Workspace) (stored : List (String × Entry))
    (owned : Owned s current users stored w.files) :
    Owned s current users (stored ++ s.puts requests w) (s.run requests w).files := by
  induction requests generalizing w stored with
  | nil => rw [Store.puts,List.append_nil]; exact owned
  | cons request rest ih =>
    have step := owned_step s current users separate direct request
      (known request List.mem_cons_self) w stored owned
    have next := ih (fun other member => known other (List.mem_cons_of_mem request member)) _ _ step
    rw [List.append_assoc] at next
    exact next

end Steps

/-- Every entry that a user gets, after any requests of these users in a cache that starts empty, was
stored for that user and for no other one. -/
def KeepsOwners (users : String → Prop) : Prop :=
  ∀ (s : Store) (w : Workspace) (requests : List Request) (user : String) (clock : Clock) (entry : Entry),
    s.Direct w.files.current → w.files.WellFormed → s.Fresh w.files →
      (∀ request ∈ requests, users request.user) → users user →
        ((s.clocked clock).get user).result (s.run requests w) = .ok (some entry) →
          (∃ stored, (user,stored) ∈ s.puts requests w ∧ Entry.read stored.toValue = .ok entry) ∧
            ∀ other stored, (other,stored) ∈ s.puts requests w →
              Entry.read stored.toValue = .ok entry → other = user

theorem keepsOwners_of_separate (users : String → Prop) (separate : Separate users) :
    KeepsOwners users := by
  intro s w requests user clock entry direct wellFormed fresh known knownUser got
  have start : Owned s w.files.current users [] w.files := by
    refine ⟨⟨rfl,wellFormed⟩,?_,?_,?_⟩
    · intro name standing
      rw [fresh _ (isBelow_append _ _ (by simp))] at standing
      cases standing
    · intro other _ content standing
      rw [fresh _ (isBelow_append _ _ (by simp))] at standing
      cases standing
    · intro other stored member
      cases member
  have owned := owned_run s w.files.current users separate direct requests known w [] start
  have answered := ((s.clocked clock).get_ensures user (s.run requests w) (s.clocked_clockOnly clock)).holds
  rw [got] at answered
  obtain ⟨content,data,found,decoded,ok⟩ := Store.readEntry_success _ _ _ answered.2
  have standing := read_stands _ _ _ found
  rw [Store.destination_fileOf,owned.wellFormed.current] at standing
  obtain ⟨stored,member,rfl⟩ := owned.entries user knownUser content standing
  obtain rfl : stored.toValue = data := Except.ok.inj decoded
  refine ⟨⟨stored,member,ok⟩,?_⟩
  intro other old memberOld okOld
  have first := (read_user stored entry ok).trans (owned.named user stored member)
  have second := (read_user old entry okOld).trans (owned.named other old memberOld)
  exact Value.str.inj (second.symm.trans first)

theorem owner_of_keepsOwners (users : String → Prop) (keeps : KeepsOwners users) (user other : String)
    (known : users user) (knownOther : users other) (project : Project) (content : Content)
    (entry : Entry)
    (got : (rootStore.get user).result (rootStore.perform ⟨other,.put rootClock project []⟩
      (pictureWorkspace content)) = .ok (some entry)) : user = other := by
  have alone : ∀ request ∈ [(⟨other,.put rootClock project []⟩ : Request)], users request.user := by
    intro request member
    rw [List.mem_singleton.mp member]
    exact knownOther
  obtain ⟨⟨stored,member,_⟩,_⟩ := keeps rootStore (pictureWorkspace content)
    [⟨other,.put rootClock project []⟩] user rootClock entry rootStore_direct
    (pictureTree_wellFormed content).wellFormed (pictureTree_fresh content) alone known got
  rw [Store.puts,Store.puts,List.append_nil] at member
  exact rootStore.stored_user _ _ _ _ member

/-- Ids that share a cache file share an entry, and an image that is copied to a cache file can be an
entry of any user. -/
theorem separate_of_keepsOwners (users : String → Prop) (keeps : KeepsOwners users) :
    Separate users where
  keys user other known knownOther fits same := by
    have file : fileName user = fileName other := by unfold fileName; rw [same]
    have standing := storedPlain_entry other default (file ▸ fits)
    rw [← file] at standing
    refine owner_of_keepsOwners users keeps user other known knownOther plainProject default
      (plainEntry other) (get_plain user other _ ?_ ?_)
    · exact rootStore.perform_wellFormed _ [] _ (pictureTree_wellFormed default)
    · exact (congrArg (find? · _) standing).trans (find?_put_self _ _ (by simp))
  copies user other known knownOther fits dots := by
    rintro ⟨position,image,copy⟩
    have name : Store.copyName position (picture image.name) = fileName user := copy.symm
    have copied := storedPicture_copy other position image.name
      (.document (.json .spaced) (plainEntry "").toValue) (name ▸ plain_fileName user fits)
      (name ▸ slash_fileName user) (dots ▸ by decide)
    have root : home ["cache"] (userKey other) = ["cache"] := by rw [dots]; rfl
    rw [name,root] at copied
    have before := storedPicture_wellFormed other position image.name
      (.document (.json .spaced) (plainEntry "").toValue)
    obtain rfl := owner_of_keepsOwners users keeps user other known knownOther
      (withPicture position image.name) _ (plainEntry "") (get_plain user "" _ before copied)
    exact entry_not_copy ["cache"] user ⟨fileName user,⟨position,image,copy⟩,by rw [root]⟩

/-- Users get entries of their own alone exactly where different ids of them have different cache files
and no image is copied to one. -/
theorem keepsOwners_iff (users : String → Prop) : KeepsOwners users ↔ Separate users :=
  ⟨separate_of_keepsOwners users,keepsOwners_of_separate users⟩

/-- Ids that differ in a character that means something in a path share an entry. -/
theorem entry_of_other_user : "a_b" ≠ "a/b" ∧
    (rootStore.get "a_b").result (rootStore.run [⟨"a/b",.put rootClock plainProject []⟩]
      (pictureWorkspace default)) = .ok (some (plainEntry "a/b")) := by
  have standing := storedPlain_entry "a/b" default (by decide)
  refine ⟨by decide,get_plain "a_b" "a/b" _ ?_ ?_⟩
  · exact rootStore.run_wellFormed _ [] _ (pictureTree_wellFormed default)
  · exact (congrArg (find? · _) standing).trans (find?_put_self _ _ (by decide))

end Pagewright.Cache
