import Pagewright.Proofs.Cache.Trespass

/-! Whose files a request can touch. The slot of a user is the cache file and the copies of the images.
Requests of another key leave it alone, except for the keys that are no file names: the empty key, the
dot and the double dots stand for the directory of all images or for the cache itself. -/
namespace Pagewright.Cache
open FileTree

/-- The ids of which one reaches into the slot of the other: a special key clears the images of every
other user, and images of the double dots can be named as the cache file of another user. -/
def Meddles (user other : String) : Prop :=
  (Special (userKey user) ∧ userKey other ≠ ".." ∧ Fits (userKey other)) ∨
    (userKey other = ".." ∧ Fits (fileName user) ∧ IsCopyName (fileName user))

namespace Store

variable (s : Store) (current : Place)

theorem ownGround_of_ownFile (user : String) (place : Place) (own : s.OwnFile current user place) :
    s.OwnGround current user place := by
  rcases own with entry | ⟨name,_,rfl⟩
  · exact Or.inl entry
  · exact Or.inr (isBelow_append _ _ (by simp))

theorem not_isBelow_of_length (above place : Place) (short : place.length ≤ above.length) :
    isBelow above place = false := by
  rw [Bool.eq_false_iff]
  intro below
  obtain ⟨name,rest,rfl⟩ := (isBelow_iff _ _).mp below
  rw [List.length_append,List.length_cons] at short
  omega

/-- Of what stands in the cache itself, a user touches the own cache file alone. -/
theorem child_apart (user name : String) (noDots : userKey user ≠ "..") (distinct : name ≠ fileName user) :
    ¬ s.OwnGround current user (s.base current ++ [name]) := by
  unfold OwnGround
  rw [home_parts _ _ noDots]
  rintro (entry | inside)
  · exact distinct (child_inj _ _ _ entry)
  · rw [not_isBelow_of_length _ _ (by simp)] at inside
    cases inside

/-- The images of two keys are apart, where the one is a name of a directory. -/
theorem copy_apart (user other name : String) (different : userKey user ≠ userKey other)
    (plain : ¬ Special (userKey user)) (noDots : userKey other ≠ "..") :
    ¬ s.OwnGround current user (home (s.base current) (userKey other) ++ [name]) := by
  have noDotsUser : userKey user ≠ ".." := fun dots => plain (Or.inr (Or.inr dots))
  have key : keyParts (userKey user) = [userKey user] :=
    if_neg fun special => plain (special.imp_right Or.inl)
  unfold OwnGround
  rw [home_parts _ _ noDotsUser,home_parts _ _ noDots,key]
  rintro (entry | inside)
  · have lengths := congrArg List.length entry
    simp at lengths
  · obtain ⟨next,rest,split⟩ := (isBelow_iff _ _).mp inside
    rw [List.append_assoc,List.append_assoc] at split
    have tails := (List.cons.inj (List.append_cancel_left split)).2
    unfold keyParts at tails
    by_cases special : userKey other = "" ∨ userKey other = "."
    · rw [if_pos special] at tails
      simp at tails
    · rw [if_neg special] at tails
      exact different (List.cons.inj tails).1.symm

/-- A user who does not meddle touches no slot of another key, but at names that no file can have. -/
theorem slot_apart (user other : String) (different : userKey user ≠ userKey other)
    (harmless : ¬ Meddles user other) (noDots : userKey user ≠ "..") (fits : Fits (userKey other))
    (place : Place) (slot : s.OwnFile current other place) :
    ¬ s.OwnGround current user place ∨ ∃ name ∈ place, ¬ Fits name := by
  rcases slot with rfl | ⟨name,copy,rfl⟩
  · left
    exact s.child_apart current user _ noDots fun same => different (fileName_inj _ _ same.symm)
  · by_cases dots : userKey other = ".."
    · -- The copies for the double dots stand beside the cache files.
      have root : home (s.base current) (userKey other) = s.base current := by rw [dots]; rfl
      rw [root]
      by_cases same : name = fileName user
      · right
        exact ⟨name,by simp,fun fits => harmless (Or.inr ⟨dots,same ▸ fits,same ▸ copy⟩)⟩
      · left
        exact s.child_apart current user name noDots same
    · left
      exact s.copy_apart current user other name different
        (fun special => harmless (Or.inl ⟨special,dots,fits⟩)) dots

theorem slot_long (current : Place) (t : FileTree) (wellFormed : t.WellFormed) (user : String)
    (long : ¬ Fits (userKey user)) (place : Place) (slot : s.OwnFile current user place) :
    t.contentAt? place = none := by
  have tooLong := Nat.lt_of_not_le long
  rcases slot with rfl | ⟨name,_,rfl⟩
  · refine contentAt?_long t wellFormed _ (fileName user) (by simp) (Nat.lt_of_lt_of_le tooLong ?_)
    rw [fileName,String.utf8ByteSize_append]
    exact Nat.le_add_right _ _
  · have names : userKey user ∈ home (s.base current) (userKey user) := by
      unfold home
      rw [if_neg,if_neg]
      · simp
      · exact fun dots => long (dots ▸ by decide)
      · rintro (empty | dot)
        · exact long (empty ▸ by decide)
        · exact long (dot ▸ by decide)
    exact contentAt?_long t wellFormed _ _ (List.mem_append_left _ names) tooLong

theorem slot_kept (request : Request) (other : String) (w : Workspace) (place : Place)
    (direct : s.Direct w.files.current) (wellFormed : w.files.WellFormed)
    (different : userKey request.user ≠ userKey other) (harmless : ¬ Meddles request.user other)
    (slot : s.OwnFile w.files.current other place) :
    (s.perform request w).files.contentAt? place = w.files.contentAt? place := by
  have after := s.perform_wellFormed request w.files.current w ⟨rfl,wellFormed⟩
  by_cases fits : Fits (userKey other)
  · have noDots : userKey request.user ≠ ".." := by
      intro dots
      exact harmless (Or.inl ⟨Or.inr (Or.inr dots),dots ▸ different.symm,fits⟩)
    have changes := s.perform_changes request w direct wellFormed fun dots => absurd dots noDots
    rcases s.slot_apart w.files.current request.user other different harmless noDots fits place slot with
      apart | ⟨name,member,long⟩
    · exact contentAt?_kept changes place
        (fun written => apart (s.ownGround_of_ownFile _ _ _ written)) apart
    · have tooLong := Nat.lt_of_not_le long
      rw [contentAt?_long _ after.wellFormed place name member tooLong,
        contentAt?_long _ wellFormed place name member tooLong]
  · rw [s.slot_long _ _ after.wellFormed other fits place slot,
      s.slot_long _ _ wellFormed other fits place slot]

end Store

/-- In every state that requests reach, further requests of one user leave the slot of another one as
it is: no file of it comes up, changes or goes away. -/
def KeepsSlot (user other : String) : Prop :=
  ∀ (s : Store) (w : Workspace) (history : List Request) (call : Call) (place : Place),
    s.Direct w.files.current → w.files.WellFormed → s.Fresh w.files →
      s.OwnFile w.files.current other place →
        (s.perform ⟨user,call⟩ (s.run history w)).files.contentAt? place =
          (s.run history w).files.contentAt? place

theorem keepsSlot_of_harmless (user other : String) (different : userKey user ≠ userKey other)
    (harmless : ¬ Meddles user other) : KeepsSlot user other := by
  intro s w history call place direct wellFormed _ slot
  obtain ⟨current,wellFormed⟩ := s.run_wellFormed history w.files.current w ⟨rfl,wellFormed⟩
  rw [← current] at direct slot
  exact s.slot_kept ⟨user,call⟩ other _ place direct wellFormed different harmless slot

theorem meddles_of_keepsSlot (user other : String) (different : userKey user ≠ userKey other)
    (keeps : KeepsSlot user other) : ¬ Meddles user other := by
  have kept : ∀ position name content place, CopyPlace ["cache"] (userKey other) place →
      ((rootStore.delete user).after (storedPicture other position name content)).files.contentAt? place =
        (storedPicture other position name content).files.contentAt? place := by
    intro position name content place copy
    have slot : rootStore.OwnFile (pictureTree content).current other place := by
      right
      rw [base_at _ (pictureTree_wellFormed content)]
      exact copy
    exact keeps rootStore (pictureWorkspace content)
      [⟨other,.put rootClock (withPicture position name) []⟩] .delete place rootStore_direct
      (pictureTree_wellFormed content).wellFormed (pictureTree_fresh content) slot
  rintro (⟨special,noDots,fits⟩ | ⟨dots,fits,position,image,copy⟩)
  · have copied := storedPicture_copy other 0 (.str "x") default ⟨by decide,by decide,by decide⟩
      (by decide) fits
    have cleared := special_clears other 0 (.str "x") default user special noDots different _ copied
    have same := kept 0 (.str "x") default _ ⟨_,⟨0,picture (.str "x"),rfl⟩,rfl⟩
    rw [(contentAt?_eq_some _ _ _).mpr copied,contentAt?,cleared] at same
    cases same
  · have name : Store.copyName position (picture image.name) = fileName user := copy.symm
    have copied := storedPicture_copy other position image.name default
      (name ▸ plain_fileName user fits) (name ▸ slash_fileName user) (dots ▸ by decide)
    have before := storedPicture_wellFormed other position image.name default
    have leads := rootStore_leads _ before _ _ _ copied
    have same := kept position image.name default _ ⟨_,⟨position,picture image.name,rfl⟩,rfl⟩
    have base : home ["cache"] (userKey other) =
        rootStore.base (storedPicture other position image.name default).files.current := by
      rw [base_at _ before,dots]
      rfl
    rw [name,base] at copied same
    have removed := rootStore.delete_removes user _ leads fits default copied
    rw [(contentAt?_eq_some _ _ _).mpr copied,removed] at same
    cases same

/-- Requests of one user leave the slot of a user with another key alone exactly where the two ids do
not meddle: neither has the one a special key, nor is the other one the double dots and the name of the
cache file one that a copy can have. -/
theorem keepsSlot_iff (user other : String) (different : userKey user ≠ userKey other) :
    KeepsSlot user other ↔ ¬ Meddles user other :=
  ⟨meddles_of_keepsSlot user other different,keepsSlot_of_harmless user other different⟩

/-- Ids whose keys are file names do not meddle. -/
theorem keepsSlot_alice_bob : userKey "alice" ≠ userKey "bob" ∧ KeepsSlot "alice" "bob" := by
  have different : userKey "alice" ≠ userKey "bob" := by decide
  refine ⟨different,(keepsSlot_iff "alice" "bob" different).mpr ?_⟩
  rintro (⟨special,_⟩ | ⟨dots,_⟩)
  · exact absurd special (by decide)
  · exact absurd dots (by decide)

/-- A picture of alice is gone once the double dots delete. -/
theorem picture_lost_to_dots : userKey ".." ≠ userKey "alice" ∧
    (storedPicture "alice" 0 (.str "logo.png") default).files.contentAt?
      ["cache","assets","alice","0000-logo.png"] = some default ∧
    (rootStore.perform ⟨"..",.delete⟩ (storedPicture "alice" 0 (.str "logo.png") default)).files.contentAt?
      ["cache","assets","alice","0000-logo.png"] = none := by
  have copied := storedPicture_copy "alice" 0 (.str "logo.png") default ⟨by decide,by decide,by decide⟩
    (by decide) (by decide)
  have place : home ["cache"] (userKey "alice") ++ [Store.copyName 0 (picture (.str "logo.png"))] =
      ["cache","assets","alice","0000-logo.png"] := by decide
  have cleared := special_clears "alice" 0 (.str "logo.png") default ".." (by decide) (by decide)
    (by decide) _ copied
  rw [place] at copied cleared
  refine ⟨by decide,(contentAt?_eq_some _ _ _).mpr copied,?_⟩
  unfold Store.perform contentAt?
  rw [cleared]

end Pagewright.Cache
