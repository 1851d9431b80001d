import Pagewright.Proofs.Files.Below
import Pagewright.Proofs.Project.Analysis
import Pagewright.Proofs.Project.Unpacking

/-! The images of an unpacked project. They are the archived files with an image type below the asset
directories of the project, each of them once, with the data that the archive has for them. -/
namespace Pagewright

theorem filterMap_map_sublist {α β γ : Type} (f : α → Option β) (g : β → γ) (h : α → γ) (items : List α)
    (same : ∀ a ∈ items, ∀ b ∈ f a, g b = h a) : ((items.filterMap f).map g).Sublist (items.map h) := by
  induction items with
  | nil => exact List.Sublist.slnil
  | cons a items ih =>
    have tail := ih fun other member => same other (List.mem_cons_of_mem a member)
    cases kept : f a with
    | none =>
      rw [List.filterMap_cons_none kept,List.map_cons]
      exact tail.cons _
    | some b =>
      rw [List.filterMap_cons_some kept,List.map_cons,List.map_cons,same a List.mem_cons_self b kept]
      exact tail.cons_cons _

namespace FileTree
open Archive (ListedOnce)

variable (t : FileTree)

variable (p : Path) (found : List (Path × Entry)) (ok : t.descendants p = .ok found)
include ok

/-- What is listed below a path: nothing, or what stands below the directory that it leads to. -/
theorem descendants_success : found = [] ∧ ¬ t.LeadsToDirectory p ∨
    t.LeadsToDirectory p ∧ found = (inOrder (t.below (destination t.current p))).map (placed p) := by
  by_cases leads : t.LeadsToDirectory p
  · exact .inr ⟨leads,Except.ok.inj (ok.symm.trans (t.descendants_below p leads))⟩
  · refine .inl ⟨?_,leads⟩
    unfold descendants at ok
    split at ok
    · cases ok
    next => cases ok; rfl
    next place located =>
      split at ok
      next standing =>
        have same := (locate_place t p place located).1
        subst same
        exact absurd ⟨located,standing⟩ leads
      next => cases ok; rfl

variable (once : ListedOnce (destination t.current p) t)
include once

theorem descendants_nodup : (found.map (·.1)).Nodup := by
  rcases descendants_success t p found ok with ⟨rfl,_⟩ | ⟨_,rfl⟩
  · exact List.Pairwise.nil
  · rw [List.map_map]
    have names := ((perm_inOrder _).map _).nodup_iff.mpr (t.below_nodup _ once)
    refine List.Nodup.map_on (fun first member second member' same => ?_) (List.Nodup.of_map _ names)
    exact List.inj_on_of_nodup_map names member member' (List.append_cancel_left (congrArg Path.parts same))

theorem descendants_stand (e : Path × Entry) (member : e ∈ found) :
    ∃ rest, rest ≠ [] ∧ e.1 = ⟨p.slashes,p.parts ++ rest⟩ ∧
      t.find? (destination t.current p ++ rest) = some e.2 := by
  rcases descendants_success t p found ok with ⟨rfl,_⟩ | ⟨_,rfl⟩
  · cases member
  · obtain ⟨⟨names,entry⟩,inside,rfl⟩ := List.mem_map.mp member
    obtain ⟨proper,standing⟩ := (t.mem_below _ once names entry).mp ((perm_inOrder _).mem_iff.mp inside)
    exact ⟨names,proper,rfl,standing⟩

theorem stands_descendant (leads : t.LeadsToDirectory p) (rest : List String) (proper : rest ≠ []) (entry : Entry)
    (standing : t.find? (destination t.current p ++ rest) = some entry) :
    ((⟨p.slashes,p.parts ++ rest⟩ : Path),entry) ∈ found := by
  rcases descendants_success t p found ok with ⟨_,missing⟩ | ⟨_,rfl⟩
  · exact absurd leads missing
  · have listed := (t.mem_below _ once rest entry).mpr ⟨proper,standing⟩
    exact List.mem_map.mpr ⟨(rest,entry),(perm_inOrder _).mem_iff.mpr listed,rfl⟩

end FileTree

namespace Project
open FileTree
open Archive (Unpacked Proper archived)

/-- An image as the analysis describes it. -/
def imageAt (path : Path) (content : Content) : AssetFile :=
  ⟨.str path.name,.str path.text,content.size,.str path.fileType,.str ""⟩

/-- A file of an archive: its names below the directory, and its data. -/
structure Picture where
  names : List String
  data : ByteArray

/-- The path of a picture in a directory. -/
def Picture.path (directory : Path) (picture : Picture) : Path :=
  ⟨directory.slashes,directory.parts ++ picture.names⟩

def Picture.image (directory : Path) (picture : Picture) : AssetFile :=
  imageAt (picture.path directory) (.bytes picture.data)

def Picture.name (picture : Picture) : String := Path.name ⟨0,picture.names⟩

theorem Picture.image_name (directory : Path) (picture : Picture) (proper : picture.names ≠ []) :
    (picture.image directory).name = .str picture.name := by
  unfold image imageAt path name Path.name
  rw [List.getLast?_append_of_ne_nil _ proper]

/-- The archived files that are images of a project with its root at these names. -/
structure IsPicture (files : FileTree) (directory : Path) (members : List Archive.Member) (root : List String)
    (picture : Picture) : Prop where
  archived : archived files directory members picture.names = some picture.data
  placed : ∃ name ∈ assetDirectories, ∃ rest, rest ≠ [] ∧
    picture.names = root ++ (Path.ofText name).parts ++ rest
  type : (Path.fileType ⟨0,picture.names⟩) ∈ imageTypes

/-- The picture in an entry that is found below a directory. -/
def pictureOf? (directory : Path) (found : Path × Entry) : Option Picture :=
  match found.2 with
  | .file content =>
    if imageTypes.contains found.1.fileType then
      some ⟨found.1.parts.drop directory.parts.length,content.data⟩
    else none
  | .directory => none

theorem fileType_last (p q : Path) (same : p.parts.getLast? = q.parts.getLast?) : p.fileType = q.fileType := by
  unfold Path.fileType Path.lowerSuffix Path.suffix Path.name
  rw [same]

theorem assetDirectories_parts (name : String) (member : name ∈ assetDirectories) :
    ∃ above, Path.ofText name = ⟨0,above⟩ ∧ above ≠ [] ∧ ".." ∉ above := by
  simp only [assetDirectories,List.mem_cons,List.not_mem_nil,or_false] at member
  rcases member with rfl | rfl
  · exact ⟨["public"],by decide,by decide,by decide⟩
  · exact ⟨["src","assets"],by decide,by decide,by decide⟩

theorem names_of_path (directory : Path) (names more : List String)
    (same : (⟨directory.slashes,directory.parts ++ names⟩ : Path) = ⟨directory.slashes,directory.parts ++ more⟩) :
    names = more :=
  List.append_cancel_left (congrArg Path.parts same)

theorem assetOf?_eq (directory : Path) (names : List String) (entry : Entry) :
    assetOf? imageTypes (⟨directory.slashes,directory.parts ++ names⟩,entry) =
      (pictureOf? directory (⟨directory.slashes,directory.parts ++ names⟩,entry)).map (·.image directory) := by
  unfold assetOf? pictureOf?
  cases entry with
  | directory => rfl
  | file content =>
    dsimp only
    split
    · simp only [Option.map_some,List.drop_left]
      rfl
    · rfl

theorem detectAssets_success (t : FileTree) (root : Path) (assets : Assets) (ok : detectAssets t root = .ok assets) :
    ∃ first second, t.descendants (root / "public") = .ok first ∧ t.descendants (root / "src/assets") = .ok second ∧
      assets.images = (first ++ second).filterMap (assetOf? imageTypes) := by
  change (do
    let found ← (do
      let first ← t.descendants (root / "public")
      let second ← t.descendants (root / "src/assets")
      return first ++ (second ++ []))
    let css ← stylesheets.filterMapM fun name => stylesheet? t (root / name)
    return ⟨found.filterMap (assetOf? imageTypes),found.filterMap (assetOf? fontTypes),css⟩ :
      Except Fault Assets) = _ at ok
  obtain ⟨found,listed,ok⟩ := except_bind_success _ _ _ ok
  obtain ⟨css,_,ok⟩ := except_bind_success _ _ _ ok
  obtain ⟨first,firstly,listed⟩ := except_bind_success _ _ _ listed
  obtain ⟨second,secondly,listed⟩ := except_bind_success _ _ _ listed
  cases listed
  cases ok
  exact ⟨first,second,firstly,secondly,by rw [List.append_nil]⟩

/-- What is found below the one asset directory is not found below the other one. -/
theorem nodup_assets (directory : Path) (root : List String) (first second : List (Path × Entry))
    (once : (first.map (·.1)).Nodup) (onceMore : (second.map (·.1)).Nodup)
    (below : ∀ e ∈ first, ∃ rest, e.1 =
      ⟨directory.slashes,directory.parts ++ (root ++ (Path.ofText "public").parts ++ rest)⟩)
    (belowMore : ∀ e ∈ second, ∃ rest, e.1 =
      ⟨directory.slashes,directory.parts ++ (root ++ (Path.ofText "src/assets").parts ++ rest)⟩) :
    ((first ++ second).map (·.1)).Nodup := by
  rw [List.map_append,List.nodup_append]
  refine ⟨once,onceMore,fun path member path' other same => ?_⟩
  subst same
  obtain ⟨e,inside,rfl⟩ := List.mem_map.mp member
  obtain ⟨e',inside',same⟩ := List.mem_map.mp other
  obtain ⟨rest,path⟩ := below e inside
  obtain ⟨more,path'⟩ := belowMore e' inside'
  rw [path',path] at same
  have names := names_of_path directory _ _ same
  rw [List.append_assoc,List.append_assoc] at names
  have parts : (Path.ofText "src/assets").parts = ["src","assets"] ∧ (Path.ofText "public").parts = ["public"] := by
    decide
  have heads := List.append_cancel_left names
  rw [parts.1,parts.2] at heads
  exact absurd (List.cons.inj heads).1 (by decide)

section Found

variable (files t : FileTree) (directory : Path) (members : List Archive.Member) (root : List String)
  (unpacked : Unpacked files directory members t) (wellFormed : t.WellFormed) (noDots : ".." ∉ root)
include unpacked wellFormed noDots

/-- What is found below one of the asset directories: each file and directory that stands there, once. -/
theorem descendants_unpacked (name : String) (member : name ∈ assetDirectories) (found : List (Path × Entry))
    (ok : t.descendants ((⟨directory.slashes,directory.parts ++ root⟩ : Path) / name) = .ok found) :
    (found.map (·.1)).Nodup ∧ ∀ path entry, (path,entry) ∈ found ↔
      ∃ rest, rest ≠ [] ∧
        path = ⟨directory.slashes,directory.parts ++ (root ++ (Path.ofText name).parts ++ rest)⟩ ∧
        t.find? (destination files.current directory ++ (root ++ (Path.ofText name).parts ++ rest)) =
          some entry := by
  obtain ⟨above,written,_,noDots'⟩ := assetDirectories_parts name member
  have current : t.current = files.current := unpacked.inside.current
  have path : (⟨directory.slashes,directory.parts ++ root⟩ : Path) / name =
      ⟨directory.slashes,directory.parts ++ (root ++ above)⟩ := by
    show Path.append _ (Path.ofText name) = _
    rw [written,Path.append,if_neg (by simp [Path.isAbsolute]),List.append_assoc]
  have plain : ".." ∉ root ++ above := by simp [noDots,noDots']
  have place : destination t.current ⟨directory.slashes,directory.parts ++ (root ++ above)⟩ =
      destination files.current directory ++ (root ++ above) := by
    rw [current,Archive.destination_below _ _ _ plain]
  rw [path] at ok
  rw [written]
  have once := listedOnce_inside t _ (root ++ above) unpacked.once
  rw [← place] at once
  refine ⟨descendants_nodup t _ found ok once,fun path entry => ⟨fun inside => ?_,?_⟩⟩
  · obtain ⟨rest,proper,same,standing⟩ := descendants_stand t _ found ok once _ inside
    rw [place,List.append_assoc] at standing
    change path = _ at same
    refine ⟨rest,proper,?_,standing⟩
    rw [same,List.append_assoc]
  · rintro ⟨rest,proper,rfl,standing⟩
    obtain ⟨first,more,split⟩ := List.exists_cons_of_ne_nil proper
    have upper : t.find? (destination t.current directory ++ (root ++ above)) = some .directory := by
      rw [← List.append_assoc,split] at standing
      rw [current]
      exact (stands_in t wellFormed _ first more entry standing).1
    have leads : t.LeadsToDirectory ⟨directory.slashes,directory.parts ++ (root ++ above)⟩ := by
      refine ⟨?_,by rw [place,← current]; exact upper⟩
      rw [place,← current]
      refine locate_standing t wellFormed directory unpacked.leads _ (fun part inside => ?_) _ upper
      have proper := unpacked.names _ _ standing part (List.mem_append_left _ inside)
      exact ⟨proper.1.noDots,proper.2⟩
    have listed := stands_descendant t _ found ok once leads rest proper entry
      (by rw [place,List.append_assoc]; exact standing)
    rw [List.append_assoc] at listed
    exact listed

omit wellFormed noDots in
/-- What is found at a path below the directory is a picture where the archive has one at these names. -/
theorem pictureOf?_eq_some (names : List String) (proper : names ≠ []) (entry : Entry)
    (standing : t.find? (destination files.current directory ++ names) = some entry) (picture : Picture) :
    pictureOf? directory (⟨directory.slashes,directory.parts ++ names⟩,entry) = some picture ↔
      picture.names = names ∧ archived files directory members names = some picture.data ∧
        Path.fileType ⟨0,names⟩ ∈ imageTypes := by
  have content := unpacked.content names
  unfold contentAt? at content
  rw [standing] at content
  have type : Path.fileType ⟨directory.slashes,directory.parts ++ names⟩ = Path.fileType ⟨0,names⟩ := by
    refine fileType_last _ _ ?_
    rw [List.getLast?_append_of_ne_nil _ proper]
  unfold pictureOf?
  obtain ⟨names',data⟩ := picture
  cases entry with
  | directory =>
    have none : archived files directory members names = none := Option.map_eq_none_iff.mp content.symm
    simp [none]
  | file content' =>
    obtain ⟨data',given,rfl⟩ := Option.map_eq_some_iff.mp content.symm
    dsimp only
    rw [type,given,List.drop_left]
    simp only [List.contains_eq_mem,decide_eq_true_eq,Content.data]
    split
    next image => simp [image,eq_comm]
    next other => simp [other]

/-- What is found in the asset directories: each entry that stands below one of them, once. -/
theorem assets_found (first second : List (Path × Entry))
    (firstly : t.descendants ((⟨directory.slashes,directory.parts ++ root⟩ : Path) / "public") = .ok first)
    (secondly : t.descendants ((⟨directory.slashes,directory.parts ++ root⟩ : Path) / "src/assets") = .ok second) :
    ((first ++ second).map (·.1)).Nodup ∧ ∀ e, e ∈ first ++ second ↔
      ∃ name ∈ assetDirectories, ∃ rest, rest ≠ [] ∧
        e.1 = ⟨directory.slashes,directory.parts ++ (root ++ (Path.ofText name).parts ++ rest)⟩ ∧
        t.find? (destination files.current directory ++ (root ++ (Path.ofText name).parts ++ rest)) = some e.2 := by
  have stands := descendants_unpacked files t directory members root unpacked wellFormed noDots
  obtain ⟨once,inFirst⟩ := stands "public" (by decide) first firstly
  obtain ⟨onceMore,inSecond⟩ := stands "src/assets" (by decide) second secondly
  refine ⟨nodup_assets directory root first second once onceMore (fun e inside => ?_) (fun e inside => ?_),?_⟩
  · obtain ⟨rest,_,path,_⟩ := (inFirst e.1 e.2).mp inside
    exact ⟨rest,path⟩
  · obtain ⟨rest,_,path,_⟩ := (inSecond e.1 e.2).mp inside
    exact ⟨rest,path⟩
  · rintro ⟨path,entry⟩
    rw [List.mem_append,inFirst,inSecond]
    simp only [assetDirectories,List.mem_cons,List.not_mem_nil,or_false,exists_eq_or_imp,exists_eq_left]

/-- The images of an unpacked project are its archived images, each of them once. -/
theorem detectAssets_pictures (assets : Assets)
    (ok : detectAssets t ⟨directory.slashes,directory.parts ++ root⟩ = .ok assets) :
    ∃ pictures : List Picture, assets.images = pictures.map (·.image directory) ∧ pictures.Nodup ∧
      ∀ picture, picture ∈ pictures ↔ IsPicture files directory members root picture := by
  obtain ⟨first,second,firstly,secondly,images⟩ := detectAssets_success t _ assets ok
  obtain ⟨once,inFound⟩ := assets_found files t directory members root unpacked wellFormed noDots first second
    firstly secondly
  rw [images]
  generalize first ++ second = found at once inFound ⊢
  have pictured := pictureOf?_eq_some files t directory members unpacked
  have path (e : Path × Entry) (inside : e ∈ found) (picture : Picture) (is : pictureOf? directory e = some picture) :
      e.1 = picture.path directory := by
    obtain ⟨name,_,rest,proper,same,standing⟩ := (inFound e).mp inside
    obtain ⟨path,entry⟩ := e
    change path = _ at same
    subst same
    rw [Picture.path,((pictured _ (by simp [proper]) entry standing picture).mp is).1]
  refine ⟨found.filterMap (pictureOf? directory),?_,?_,fun picture => ⟨fun member => ?_,fun is => ?_⟩⟩
  · rw [List.map_filterMap]
    refine List.filterMap_congr fun e inside => ?_
    obtain ⟨name,_,rest,_,same,_⟩ := (inFound e).mp inside
    obtain ⟨path,entry⟩ := e
    change path = _ at same
    rw [same]
    exact assetOf?_eq directory _ entry
  · have paths := filterMap_map_sublist (pictureOf? directory) (Picture.path directory) (·.1) found
      fun e inside picture is => (path e inside picture is).symm
    exact List.Nodup.of_map _ (paths.nodup once)
  · obtain ⟨e,inside,is⟩ := List.mem_filterMap.mp member
    obtain ⟨name,named,rest,proper,same,standing⟩ := (inFound e).mp inside
    obtain ⟨path,entry⟩ := e
    change path = _ at same
    subst same
    obtain ⟨names,archived,type⟩ := (pictured _ (by simp [proper]) entry standing picture).mp is
    rw [← names] at archived type
    exact ⟨archived,⟨name,named,rest,proper,names⟩,type⟩
  · obtain ⟨archived,⟨name,named,rest,proper,names⟩,type⟩ := is
    have standing := unpacked.content picture.names
    rw [archived,Option.map_some,contentAt?_eq_some] at standing
    refine List.mem_filterMap.mpr ⟨(picture.path directory,.file (.bytes picture.data)),(inFound _).mpr ?_,?_⟩
    · exact ⟨name,named,rest,proper,by rw [Picture.path,names],by rw [← names]; exact standing⟩
    · exact (pictured _ (by simp [names,proper]) _ standing picture).mpr ⟨rfl,archived,type⟩

end Found

section Root

variable (files t : FileTree) (directory : Path) (members : List Archive.Member)
  (unpacked : Unpacked files directory members t)
include unpacked

/-- The root of a project is the directory that it is unpacked in or one directly below. -/
theorem locateRoot_inside (root : Path) (ok : locateRoot t directory = .ok root) :
    ∃ names, root = ⟨directory.slashes,directory.parts ++ names⟩ ∧ ".." ∉ names := by
  have self : ∃ names, directory = ⟨directory.slashes,directory.parts ++ names⟩ ∧ ".." ∉ names :=
    ⟨[],by rw [List.append_nil],by simp⟩
  obtain ⟨has,_,ok⟩ := except_bind_success _ _ _ ok
  cases has with
  | true => cases ok; exact self
  | false =>
    obtain ⟨children,listed,ok⟩ := except_bind_success _ _ _ ok
    obtain ⟨has,_,ok⟩ := except_bind_success _ _ _ ok
    cases has with
    | false => cases ok
    | true =>
      cases ok
      split
      next only entry alone =>
        have inside : (only,entry) ∈ children := by
          have member : (only,entry) ∈ children.filter (·.2.isDirectory) := by rw [alone]; simp
          exact (List.mem_filter.mp member).1
        have current : t.current = files.current := unpacked.inside.current
        obtain ⟨name,_,path,standing⟩ := children_stands t directory children (lift_success _ _ listed) _ inside
        rw [current] at standing
        have proper := (unpacked.names _ _ standing name (by simp)).1
        refine ⟨[name],path,fun dots => proper.noDots (List.mem_singleton.mp dots).symm⟩
      · exact self

/-- A project that is analyzed where an archive is unpacked has the images of the archive, each of them once. -/
theorem analyzed_pictures (wellFormed : t.WellFormed) (project : Project)
    (ok : (locateRoot t directory >>= analyzeDirectory t) = .ok project) :
    ∃ (root : List String) (pictures : List Picture),
      project.root = some ⟨directory.slashes,directory.parts ++ root⟩ ∧
      project.assets.images = pictures.map (·.image directory) ∧ pictures.Nodup ∧
      ∀ picture, picture ∈ pictures ↔ IsPicture files directory members root picture := by
  obtain ⟨path,located,analyzed⟩ := except_bind_success _ _ _ ok
  obtain ⟨root,rfl,noDots⟩ := locateRoot_inside files t directory members unpacked path located
  have analyzed := analyzeDirectory_success t _ project analyzed
  obtain ⟨pictures,images,once,are⟩ := detectAssets_pictures files t directory members root unpacked wellFormed
    noDots project.assets analyzed.assets
  exact ⟨root,pictures,analyzed.root,images,once,are⟩

end Root

section Sources

variable (files t : FileTree) (directory : Path) (members : List Archive.Member) (root : List String)
  (picture : Picture) (is : IsPicture files directory members root picture)
  (unpacked : Unpacked files directory members t) (wellFormed : t.WellFormed)
include is

theorem IsPicture.proper : picture.names ≠ [] := by
  obtain ⟨name,_,rest,proper,names⟩ := is.placed
  rw [names]
  simp [proper]

include unpacked

theorem IsPicture.standing :
    t.find? (destination files.current directory ++ picture.names) = some (.file (.bytes picture.data)) := by
  have content := unpacked.content picture.names
  rw [is.archived,Option.map_some,contentAt?_eq_some] at content
  exact content

include wellFormed

theorem IsPicture.located :
    t.locate (picture.path directory) = .ok (destination t.current (picture.path directory)) ∧
      destination t.current (picture.path directory) = destination files.current directory ++ picture.names := by
  have current : t.current = files.current := unpacked.inside.current
  have standing := is.standing files t directory members root picture unpacked
  have plain : ∀ name ∈ picture.names, name ≠ ".." ∧ Char.ofNat 0 ∉ name.toList := fun name member =>
    ⟨(unpacked.names _ _ standing name member).1.noDots,(unpacked.names _ _ standing name member).2⟩
  have place : destination t.current (picture.path directory) = destination files.current directory ++ picture.names := by
    rw [Picture.path,current]
    exact Archive.destination_below _ _ _ fun dots => (plain _ dots).1 rfl
  refine ⟨?_,place⟩
  rw [place,← current]
  rw [← current] at standing
  exact locate_standing t wellFormed directory unpacked.leads _ plain _ standing

end Sources

end Project

end Pagewright
