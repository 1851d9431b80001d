import Pagewright.Cache.Store
import Pagewright.Proofs.Files.Texts
import Pagewright.Proofs.Files.Places

/-! The places of a cache: where the entry and the images of a user stand. A user id counts for its
key alone, and three keys are no file names: the empty one, the dot and the double dots. -/
namespace Pagewright.Cache
open FileTree

/-- A key holds no character that means something in a path. -/
theorem mem_userKey (user : String) (c : Char) (member : c ∈ (userKey user).toList) :
    isPlainChar c = true := by
  simp only [userKey,String.toList_ofList,List.mem_map] at member
  obtain ⟨old,_,rfl⟩ := member
  split
  next plain => exact plain
  next => decide

/-- An id of plain characters is its own key. -/
theorem userKey_plain (user : String) (plain : ∀ c ∈ user.toList, isPlainChar c = true) : userKey user = user := by
  have same : user.toList.map (fun c => if isPlainChar c then c else '_') = user.toList :=
    (List.map_congr_left fun c member => if_pos (plain c member)).trans (List.map_id _)
  rw [userKey,same,String.ofList_toList]

theorem slash_userKey (user : String) : '/' ∉ (userKey user).toList :=
  fun member => absurd (mem_userKey user _ member) (by decide)

/-- The components that a key adds to a path. -/
def keyParts (key : String) : List String := if key = "" ∨ key = "." then [] else [key]

theorem ofText_userKey (user : String) : Path.ofText (userKey user) = ⟨0,keyParts (userKey user)⟩ := by
  unfold keyParts
  split
  next special =>
    rcases special with empty | dot
    · rw [empty]; decide
    · rw [dot]; decide
  next proper => exact Path.ofText_name _ (slash_userKey user) (not_or.mp proper)

/-- A key that is no name of a directory entry. -/
def Special (key : String) : Prop := key = "" ∨ key = "." ∨ key = ".."

instance (key : String) : Decidable (Special key) :=
  inferInstanceAs (Decidable (_ ∨ _))

def fileName (user : String) : String := userKey user ++ ".json"

theorem slash_fileName (user : String) : '/' ∉ (fileName user).toList := by
  simp only [fileName,String.toList_append,List.mem_append,not_or]
  exact ⟨slash_userKey user,by decide⟩

theorem null_fileName (user : String) : Char.ofNat 0 ∉ (fileName user).toList := by
  simp only [fileName,String.toList_append,List.mem_append,not_or]
  exact ⟨fun null => absurd (mem_userKey user _ null) (by decide),by decide⟩

theorem fileName_proper (user : String) :
    fileName user ≠ "" ∧ fileName user ≠ "." ∧ fileName user ≠ ".." := by
  have long : 5 ≤ (fileName user).length := by
    rw [fileName,String.length_append]
    exact Nat.le_add_left _ _
  refine ⟨?_,?_,?_⟩ <;> intro same <;> rw [same] at long <;> exact absurd long (by decide)

theorem fileName_inj (user other : String) (same : fileName user = fileName other) :
    userKey user = userKey other := String.append_left_inj _ |>.mp same

namespace Store

variable (s : Store)

theorem fileOf_eq (user : String) :
    s.fileOf user = ⟨s.directory.slashes,s.directory.parts ++ [fileName user]⟩ := by
  show s.directory.append (Path.ofText (fileName user)) = _
  obtain ⟨nonempty,noDot,_⟩ := fileName_proper user
  rw [Path.ofText_name _ (slash_fileName user) ⟨nonempty,noDot⟩]
  rfl

theorem imagesOf_eq (user : String) : s.imagesOf user =
    ⟨s.directory.slashes,s.directory.parts ++ "assets" :: keyParts (userKey user)⟩ := by
  show (s.directory.append (Path.ofText "assets")).append (Path.ofText (userKey user)) = _
  have assets : Path.ofText "assets" = ⟨0,["assets"]⟩ := Path.ofText_name _ (by decide) (by decide)
  rw [ofText_userKey,assets]
  simp [Path.append,Path.isAbsolute]

end Store

/-- Where images for a key are copied to, in a cache at a place. -/
def home (base : Place) (key : String) : Place :=
  if key = "" ∨ key = "." then base ++ ["assets"]
  else if key = ".." then base
  else base ++ ["assets",key]

namespace Store

variable (s : Store) (current : Place)

def base : Place := destination current s.directory

theorem destination_fileOf (user : String) :
    destination current (s.fileOf user) = s.base current ++ [fileName user] := by
  rw [fileOf_eq,destination_append]
  exact enter_name _ _ (fileName_proper user).2.2

theorem destination_imagesOf (user : String) :
    destination current (s.imagesOf user) = home (s.base current) (userKey user) := by
  rw [imagesOf_eq,destination_append]
  have assets : enter (s.base current) "assets" = s.base current ++ ["assets"] :=
    enter_name _ _ (by decide)
  show (keyParts (userKey user)).foldl enter (enter (s.base current) "assets") = _
  rw [assets,keyParts,home]
  split
  · rfl
  · split
    next dots => simp [dots,enter_dots]
    next name => simp [enter_name _ _ name]

end Store

/-- Names that copies of images can have. -/
def IsCopyName (name : String) : Prop := ∃ position image, name = Store.copyName position image

theorem copyName_chars (position : Nat) (image : Project.AssetFile) :
    (Store.copyName position image).toList =
      Decimal.padZeros 4 (Nat.toDigits 10 position) ++ '-' :: image.name.text.toList := by
  simp [Store.copyName]

theorem isDigit_of_mem_padZeros (position : Nat) (c : Char)
    (member : c ∈ Decimal.padZeros 4 (Nat.toDigits 10 position)) : c.isDigit = true := by
  rcases List.mem_append.mp member with zero | digit
  · rw [List.eq_of_mem_replicate zero]
    decide
  · exact Nat.isDigit_of_mem_toDigits (by decide) (by decide) digit

theorem copyName_first (position : Nat) (image : Project.AssetFile) :
    ∃ c rest, (Store.copyName position image).toList = c :: rest ∧ c.isDigit = true := by
  rw [copyName_chars]
  cases chars : Decimal.padZeros 4 (Nat.toDigits 10 position) with
  | nil => simp [Decimal.padZeros,Nat.toDigits_ne_nil] at chars
  | cons c rest =>
    exact ⟨c,_,rfl,isDigit_of_mem_padZeros position c (chars ▸ List.mem_cons_self)⟩

/-- A copy name starts with a digit, so it is none of the names with a meaning of their own. -/
theorem copyName_proper (name : String) (copy : IsCopyName name) :
    name ≠ "" ∧ name ≠ "." ∧ name ≠ ".." ∧ name ≠ "assets" := by
  obtain ⟨position,image,rfl⟩ := copy
  obtain ⟨c,rest,chars,digit⟩ := copyName_first position image
  refine ⟨?_,?_,?_,?_⟩ <;> intro same <;> rw [same] at chars <;> cases chars <;>
    exact absurd digit (by decide)

/-- The first component of the path that a copy name writes is a copy name, too. -/
theorem ofText_copyName (position : Nat) (image : Project.AssetFile) :
    ∃ name more, Path.ofText (Store.copyName position image) = ⟨0,name :: more⟩ ∧ IsCopyName name := by
  let cut := String.ofList (image.name.text.toList.takeWhile (· != '/'))
  let name := Store.copyName position { image with name := .str cut }
  have prefixed : ∀ c ∈ Decimal.padZeros 4 (Nat.toDigits 10 position), (c != '/') = true := by
    intro c member
    have digit := isDigit_of_mem_padZeros position c member
    simp only [bne_iff_ne,ne_eq]
    rintro rfl
    exact absurd digit (by decide)
  have chars : name.toList = (Store.copyName position image).toList.takeWhile (· != '/') := by
    rw [copyName_chars,copyName_chars,List.takeWhile_append_of_pos prefixed]
    simp [cut,Value.text]
  have proper := copyName_proper name ⟨position,_,rfl⟩
  obtain ⟨more,path,_⟩ := Path.ofText_first _ name.toList chars
    ⟨fun empty => proper.1 (String.toList_inj.mp empty),
      fun dot => proper.2.1 (String.toList_inj.mp dot)⟩
  rw [String.ofList_toList] at path
  exact ⟨name,more,path,position,_,rfl⟩

end Pagewright.Cache
