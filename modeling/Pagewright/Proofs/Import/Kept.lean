import Pagewright.Proofs.Cache.Staging
import Pagewright.Proofs.Import.Uploads
import Pagewright.Proofs.Project.Images

/-! What an upload keeps of the images. When the directory of the archive is gone, the cache has a copy of every
image in the archive, and the entry names these copies in order. -/
namespace Pagewright
open FileTree

theorem Path.name_append (p : Path) (names : List String) (proper : names ≠ []) :
    Path.name ⟨p.slashes,p.parts ++ names⟩ ∈ names := by
  obtain ⟨above,last,rfl⟩ := (List.eq_nil_or_concat names).resolve_left proper
  rw [List.concat_eq_append,Path.name,← List.append_assoc,List.getLast?_concat]
  simp

namespace Import
open Cache Project
open Archive (Unpacked)

section Sources

variable (files t : FileTree) (directory : Path) (members : List Archive.Member) (root : List String)
  (picture : Picture) (is : IsPicture files directory members root picture)
  (unpacked : Unpacked files directory members t)
include is unpacked

theorem picture_components (name : String) (member : name ∈ picture.names) : Path.IsComponent name :=
  (unpacked.names _ _ (is.standing files t directory members root picture unpacked) name member).1.component

theorem picture_component : Path.IsComponent (picture.image directory).name.text :=
  picture_components files t directory members root picture is unpacked _
    (Path.name_append directory picture.names (is.proper files directory members root picture))

/-- The analysis finds the file of an image by the path that it writes down for the image. -/
theorem sourced_picture (wellFormed : t.WellFormed) (written : directory.Written) (ground : Place → Prop)
    (off : ∀ place, OnPath t.current (picture.path directory) place → ¬ ground place) :
    Sourced ground t (picture.image directory) (picture.path directory) (.bytes picture.data) := by
  have standing := is.standing files t directory members root picture unpacked
  obtain ⟨located,place⟩ := is.located files t directory members root picture unpacked wellFormed
  have components := picture_components files t directory members root picture is unpacked
  have path : (picture.path directory).Written :=
    ⟨written.slashes,fun part member => (List.mem_append.mp member).elim (written.parts part) (components part)⟩
  constructor
  case path => exact congrArg Except.ok (Path.ofText_text _ path)
  case component => exact picture_component files t directory members root picture is unpacked
  case located => exact located
  case standing => rw [place]; exact standing
  case off => exact off

end Sources

section Places

variable (s : Cache.Store) (user : String) (current above : Place) (n : Nat)

theorem onPath_append (p : Path) (names : List String) (noDots : ".." ∉ names) (place : Place)
    (onPath : OnPath current ⟨p.slashes,p.parts ++ names⟩ place) :
    OnPath current p place ∨ destination current p <+: place := by
  obtain ⟨start,inside,rfl⟩ := onPath
  rcases List.prefix_or_prefix_of_prefix inside (List.prefix_append p.parts names) with within | ⟨more,rfl⟩
  · exact .inl ⟨start,within,rfl⟩
  · have below : more <+: names := (List.prefix_append_right_inj _).mp inside
    rw [Archive.destination_below current p more fun dots => noDots (below.subset dots)]
    exact .inr (List.prefix_append _ _)

theorem directory_not_assets (place : Place) : above ++ [directoryName n] ≠ place ++ ["assets"] := by
  intro same
  have chars := directoryName_chars n
  rw [(List.cons.inj (List.append_inj' same rfl).2).1] at chars
  cases chars

/-- A new directory with the image directory of a user in it has the whole cache in it. -/
theorem cache_inside (apart : above ++ [directoryName n] ≠ home (s.base current) (userKey user))
    (inside : above ++ [directoryName n] <+: home (s.base current) (userKey user)) :
    above ++ [directoryName n] <+: s.base current := by
  by_cases dots : userKey user = ".."
  · rw [dots] at inside
    exact inside
  · rw [home_parts _ _ dots] at apart inside
    unfold keyParts at apart inside
    split at inside
    · exact (List.prefix_concat_iff.mp inside).resolve_left (directory_not_assets _ _ _)
    next named =>
      rw [if_neg named] at apart
      have two : s.base current ++ ["assets",userKey user] = (s.base current ++ ["assets"]) ++ [userKey user] := by simp
      rw [two] at apart inside
      have above := (List.prefix_concat_iff.mp inside).resolve_left apart
      exact (List.prefix_concat_iff.mp above).resolve_left (directory_not_assets _ _ _)

end Places

namespace Importer

variable {ρ : Type} (i : Importer ρ) (archive : Path) (user filename : String) (w : Workspace)

/-- No directory for an archive is reached by way of the images of the user. -/
def Clear : Prop :=
  ∀ n place, OnPath w.files.current ((unpackingBase w).child (directoryName n)) place →
    ¬ i.cache.InHome user w.files.current place

/-- What is kept of the images of a project, with the directory gone in which they were found. -/
structure Kept (directory : Path) (pictures : List Picture) (project : Project) (t : FileTree) : Prop where
  images : project.assets.images = pictures.zipIdx.map fun e => i.cache.stagedImage user e.2 (e.1.image directory)
  copies : ∀ e ∈ pictures.zipIdx, i.cache.Copied user t e.2 (e.1.image directory) (.bytes e.1.data)
  stored : ∃ entry : Cache.Entry, t.find? (i.cache.base t.current ++ [fileName user]) =
    some (.file (.document (.json .spaced) entry.toValue)) ∧ entry.project = project
  gone : ∀ place, destination t.current directory <+: place → t.find? place = none

/-- The pictures that an archive holds, for a project at these names in a directory. -/
structure Pictured (directory : Path) (root : List String) (pictures : List Picture) : Prop where
  members : ∃ content members, w.files.contentAt? (destination w.files.current archive) = some content ∧
    Archive.unpack content.data = .ok members ∧
    ∀ picture, picture ∈ pictures ↔ IsPicture w.files directory members root picture
  once : pictures.Nodup

/-- Neither of a directory for an archive and the images of the user is in the other one, unless the whole cache
is in the directory. -/
theorem home_apart {i : Importer ρ} {user : String} {w : Workspace} (n : Nat) (clear : i.Clear user w)
    (outside : ¬ destination w.files.current (unpackingBase w) ++ [directoryName n] <+: i.cache.base w.files.current) :
    ¬ home (i.cache.base w.files.current) (userKey user) <+:
        destination w.files.current (unpackingBase w) ++ [directoryName n] ∧
      ¬ destination w.files.current (unpackingBase w) ++ [directoryName n] <+:
        home (i.cache.base w.files.current) (userKey user) := by
  have off := clear n _ (onPath_self _ _)
  rw [destination_directory] at off
  exact ⟨off,fun inside =>
    outside (cache_inside i.cache user _ _ n (fun same => off (same ▸ List.prefix_refl _)) inside)⟩

section Storing

variable {i user w} {n : Nat} {files t : FileTree} {members : List Archive.Member} {root : List String}
  {pictures : List Picture} (drawn : Drawn w (unpackingBase w) n files) (wellFormed : w.files.WellFormed)
  (unpacked : Unpacked files ((unpackingBase w).child (directoryName n)) members t)
  (clear : i.Clear user w)
  (are : ∀ picture ∈ pictures, IsPicture files ((unpackingBase w).child (directoryName n)) members root picture)
include drawn unpacked

theorem used_place : t.current = w.files.current ∧
    destination t.current ((unpackingBase w).child (directoryName n)) =
      destination w.files.current (unpackingBase w) ++ [directoryName n] := by
  have current : t.current = w.files.current := unpacked.inside.current.trans drawn.current
  exact ⟨current,by rw [current,destination_directory]⟩

include clear

include are in
/-- The images of an unpacked archive have their files, and the ways to these are off the images of the user. -/
theorem sourced_pictures (wellFormed : w.files.WellFormed) (written : (unpackingBase w).Written)
    (outside : ¬ destination w.files.current (unpackingBase w) ++ [directoryName n] <+: i.cache.base w.files.current) :
    ∀ picture ∈ pictures, ∃ source,
      Sourced (i.cache.InHome user t.current) t (picture.image ((unpackingBase w).child (directoryName n))) source
        (.bytes picture.data) := by
  obtain ⟨current,directory⟩ := used_place drawn unpacked
  have within := unpacked.inside.wellFormed (drawn.wellFormed wellFormed)
  have component := (proper_directoryName n).1.component
  intro picture member
  have is := are picture member
  have standing := is.standing files t _ members root picture unpacked
  have noDots : ".." ∉ picture.names := fun dots => (unpacked.names _ _ standing ".." dots).1.noDots rfl
  refine ⟨_,sourced_picture files t _ members root picture is unpacked within
    (Path.written_child _ written _ component) _ fun place onPath inHome => ?_⟩
  rw [current] at onPath inHome
  rcases onPath_append w.files.current _ picture.names noDots place onPath with above | below
  · exact clear n place above inHome
  · rw [destination_directory] at below
    obtain ⟨off,apart⟩ := home_apart n clear outside
    exact (List.prefix_or_prefix_of_prefix inHome below).elim off apart

/-- Storing for the user leaves the directory where it is. -/
theorem directory_stays (clock : i.cache.ClockOnly) (project : Project) (detections : Table Detection)
    (entry : Cache.Entry) (whole : ∀ image ∈ project.assets.images, '/' ∉ image.name.text.toList)
    (w₁ left : Workspace) (stored : w₁.files = t)
    (ok : (i.cache.put user project detections).run.run w₁ = (.ok entry,left)) :
    left.files.current = w.files.current ∧
      left.files.LeadsToDirectory ((unpackingBase w).child (directoryName n)) := by
  subst stored
  obtain ⟨current,_⟩ := used_place drawn unpacked
  have spares := (i.cache.put_spares user w₁.files project detections clock whole).holds w₁ (.refl _)
  unfold Work.after at spares
  rw [ok] at spares
  refine ⟨spares.current.trans current,leads_spared _ _ spares _ (fun place onPath => ?_) unpacked.leads⟩
  have standing := onPath_stands _ _ unpacked.leads place onPath
  have off := clear n place (current ▸ onPath)
  rw [← current] at off
  rintro (inHome | rfl)
  · exact off inHome
  · exact off (i.cache.put_entry_free user w₁ left project clock detections entry whole ok standing)

include are in
/-- What storing keeps of the images outlasts the directory, if it leaves the entry in its place. -/
theorem kept_after (wellFormed : w.files.WellFormed) (written : (unpackingBase w).Written) (clock : i.cache.ClockOnly)
    (project : Project) (detections : Table Detection)
    (images : project.assets.images = pictures.map (·.image ((unpackingBase w).child (directoryName n))))
    (entry : Cache.Entry) (w₁ left : Workspace) (stored : w₁.files = t)
    (ok : (i.cache.put user project detections).run.run w₁ = (.ok entry,left)) (content : Content)
    (standing : (left.files.removeTree ((unpackingBase w).child (directoryName n))).find?
      (i.cache.base w.files.current ++ [fileName user]) = some (.file content)) :
    entry.project.root = project.root ∧ left.files.current = w.files.current ∧
      i.Kept user ((unpackingBase w).child (directoryName n)) pictures entry.project
        (left.files.removeTree ((unpackingBase w).child (directoryName n))) := by
  have whole : ∀ image ∈ project.assets.images, '/' ∉ image.name.text.toList := by
    rw [images]
    intro image member
    obtain ⟨picture,inside,rfl⟩ := List.mem_map.mp member
    exact (picture_component files t _ members root picture (are picture inside) unpacked).1
  obtain ⟨current',leads⟩ := directory_stays drawn unpacked clear clock project detections entry whole w₁ left stored ok
  subst stored
  obtain ⟨current,_⟩ := used_place drawn unpacked
  have directory := destination_directory left.files.current (unpackingBase w) n
  have removed := removeTree_spares left.files ((unpackingBase w).child (directoryName n))
  have gone := removeTree_leads left.files _ leads (by
    show Path.name ⟨_,_ ++ [directoryName n]⟩ ≠ ".."
    rw [Path.name,List.getLast?_concat]
    exact (proper_directoryName n).1.noDots) (by rw [directory]; simp)
  rw [directory,current'] at removed gone
  have outside : ¬ destination w.files.current (unpackingBase w) ++ [directoryName n] <+:
      i.cache.base w.files.current := by
    intro inside
    rw [gone _ (inside.trans (List.prefix_append _ _))] at standing
    cases standing
  have apart := (home_apart n clear outside).2
  have sources := sourced_pictures drawn unpacked clear are wellFormed written outside
  obtain ⟨stages,document⟩ := i.cache.put_success user w₁ left (·.image ((unpackingBase w).child (directoryName n)))
    (fun picture => .bytes picture.data) pictures project images sources clock detections entry ok
  rw [current] at document
  refine ⟨by rw [stages.images],current',?_⟩
  constructor
  case images => rw [stages.images]
  case copies =>
    intro e member
    refine (stages.copies e member).later i.cache user removed ?_ ?_ ?_
    · intro inside
      rw [current'] at inside
      exact outside ((List.prefix_concat_iff.mp inside).resolve_left (directory_not_assets _ _ _))
    · rw [current']
      exact apart
    · intro inside
      rw [current'] at inside
      refine apart ((List.prefix_concat_iff.mp inside).resolve_left fun same => ?_)
      exact directory_not_own user i.cache w.files.current (destination w.files.current (unpackingBase w)) n
        (.inr ⟨_,⟨e.2,e.1.image _,rfl⟩,same⟩)
  case stored =>
    refine ⟨entry,?_,rfl⟩
    rw [removed.current,current']
    refine removed.stands _ _ (fun inside => ?_) document
    rw [gone _ inside] at standing
    cases standing
  case gone =>
    intro place inside
    rw [removed.current,directory,current'] at inside
    exact gone place inside

end Storing

theorem archived_current (files other : FileTree) (directory : Path) (members : List Archive.Member)
    (same : other.current = files.current) (names : List String) :
    Archive.archived other directory members names = Archive.archived files directory members names := by
  unfold Archive.archived
  simp only [Archive.staysInside_current files directory other same]

/-- An upload that goes through, and leaves the entry in its place, keeps the images of the archive. -/
theorem upload_kept (w₁ : Workspace) (upload : Upload)
    (ran : (i.upload archive user filename).run.run w = (.ok upload,w₁)) (wellFormed : w.files.WellFormed)
    (written : (unpackingBase w).Written) (clock : i.cache.ClockOnly) (clear : i.Clear user w) (content : Content)
    (standing : w₁.files.find? (i.cache.base w.files.current ++ [fileName user]) = some (.file content)) :
    ∃ n root pictures,
      upload.project.root =
        some ⟨(unpackingBase w).slashes,((unpackingBase w).child (directoryName n)).parts ++ root⟩ ∧
      Pictured archive w ((unpackingBase w).child (directoryName n)) root pictures ∧
      i.Kept user ((unpackingBase w).child (directoryName n)) pictures upload.project w₁.files ∧
      w₁.files.current = w.files.current := by
  have uploaded := i.upload_uploaded archive user filename w
  rw [ran] at uploaded
  dsimp only at uploaded
  cases uploaded with
  | closed settings warnings _ _ closing =>
    cases closing with
    | used n files t held project _ left drawn given extracted analyzed used =>
      have drawn : Drawn w (unpackingBase w) n files := ⟨drawn.new,drawn.made⟩
      obtain ⟨members,unpacking,unpacked,_⟩ := drawn.extracted wellFormed _ t extracted
      have within := unpacked.inside.wellFormed (drawn.wellFormed wellFormed)
      obtain ⟨root,pictures,rooted,images,once,are⟩ := analyzed_pictures files t _ members unpacked within project analyzed
      rcases i.keeping_cases user warnings project _ left _ used with ⟨failure,never,_⟩ | ⟨detections,_,result,after⟩
      · cases never
      · unfold Work.result at result
        unfold Work.after at after
        rcases put : (i.cache.put user project detections).run.run _ with ⟨failure | entry,left'⟩
        · rw [put] at result
          cases result
        · rw [put] at result after
          cases result
          subst after
          obtain ⟨root',current,kept⟩ := kept_after drawn unpacked clear (fun picture => (are picture).mp) wellFormed
            written clock project detections images entry _ left rfl put content standing
          refine ⟨n,root,pictures,root'.trans rooted,⟨⟨held,members,?_,unpacking,fun picture => ?_⟩,once⟩,kept,
            (removeTree_spares _ _).current.trans current⟩
          · rw [← drawn.contents,← drawn.current,contentAt?_eq_some]
            exact read_stands files archive held given
          · rw [are picture]
            have same := archived_current files w.files ((unpackingBase w).child (directoryName n)) members
              drawn.current.symm
            exact ⟨fun is => ⟨same _ ▸ is.archived,is.placed,is.type⟩,fun is => ⟨same _ ▸ is.archived,is.placed,is.type⟩⟩

end Importer

end Import

end Pagewright
