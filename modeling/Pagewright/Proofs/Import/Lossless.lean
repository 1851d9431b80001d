import Pagewright.Proofs.Import.Delivery

/-! From an upload to the import after it. No image is lost on the way: each one that the analysis has found in the
archive stands in the media library at the end, under the next number and with the data that the archive has for
it, although the directory of the archive is gone. -/
namespace Pagewright
open FileTree

namespace Import
open Host (MediaDirectory Site SiteWork)
open Cache Project

/-- Items counted twice are the items counted once. -/
theorem zipIdx_zipIdx {α : Type} (items : List α) (next : Nat) :
    (items.zipIdx.zipIdx next).map (Prod.map Prod.fst id) = items.zipIdx next := by
  rw [← List.zipIdx_map,List.zipIdx_map_fst]

namespace Importer

variable {ρ : Type} (i : Importer ρ)

/-- An importer with its cache and its media library in the data directory, where nothing else touches them. -/
structure Arranged : Prop where
  written : i.data.Written
  cache : i.cache.directory = i.data / "cache"
  clock : i.cache.ClockOnly
  media : i.media = (MediaDirectory.below i.data).onSite ρ
  preferences : i.preferences = .below i.data
  aloof : i.Aloof

/-- Files in which the cache is as an upload has left it. -/
structure Untouched (w w₁ : Workspace) (t : FileTree) : Prop where
  wellFormed : t.WellFormed
  current : t.current = w.files.current
  cached : ∀ place, i.cache.base w.files.current <+: place → t.find? place = w₁.files.find? place

/-- The media library with a new file for every picture, in order, and otherwise as it was. -/
structure Delivered (next : Nat) (pictures : List Picture) (t t' : FileTree) : Prop where
  new : ∀ e ∈ pictures.zipIdx next,
    t.find? ((MediaDirectory.below i.data).placeAt Picture.name t.current e) = none
  files : ∀ e ∈ pictures.zipIdx next,
    t'.find? ((MediaDirectory.below i.data).placeAt Picture.name t.current e) = some (.file (.bytes e.1.data))
  others : ∀ place, isBelow (destination t.current (MediaDirectory.below i.data).root) place = true →
    (∀ e ∈ pictures.zipIdx next, place ≠ (MediaDirectory.below i.data).placeAt Picture.name t.current e) →
    t'.find? place = t.find? place

variable {i} (user : String) (choices : Table String) (options : Options)

section Running

variable (arranged : i.Arranged)
include arranged

/-- Where an entry is found in the cache, the data directory is fit for an import. -/
theorem housed_of_get (w w' : Workspace) (wellFormed : w.files.WellFormed) (entry : Cache.Entry)
    (ok : (i.cache.get user).run.run w = (.ok (some entry),w')) : Housed i.data i.cache.directory w.files := by
  have answered := (i.cache.get_ensures user w arranged.clock).holds
  unfold Work.result Work.after at answered
  rw [ok] at answered
  obtain ⟨content,_,read,_⟩ := Store.readEntry_success _ _ _ answered.2
  have located := w.files.read_located _ content read
  rw [i.cache.fileOf_eq] at located
  have opens := w.files.leads_above i.cache.directory _ _ located
  have cache : i.cache.directory = ⟨i.data.slashes,i.data.parts ++ ["cache"]⟩ :=
    arranged.cache.trans (Path.append_name i.data "cache" (by decide))
  have leads := opens.1
  rw [cache] at leads
  refine ⟨wellFormed,w.files.leads_above i.data _ _ leads,opens,?_⟩
  rw [arranged.cache]
  exact apart_below w.files.current i.data

variable {directory : Path} {pictures : List Picture} {next : Nat}
  (proper : ∀ picture ∈ pictures, picture.names ≠ [])
  (fits : ∀ e ∈ pictures.zipIdx next, 9999 < e.2 → Fits (MediaDirectory.fileName (toString e.2) e.1.name))
include proper fits

/-- The batch of images takes every picture that has its copy. -/
theorem imageBatch_delivers (site site' : Site ρ) (batch : Batch) (housed : Housed i.data i.cache.directory site.files)
    (tidy : (MediaDirectory.below i.data).Tidy site.files next) (wanted : options.assets = true)
    (copies : ∀ e ∈ pictures.zipIdx, i.cache.Copied user site.files e.2 (e.1.image directory) (.bytes e.1.data))
    (ok : (i.imageBatch options (pictures.zipIdx.map fun e =>
      i.cache.stagedImage user e.2 (e.1.image directory))).run.run site = (.ok batch,site')) :
    batch.succeeded.length = pictures.length ∧ batch.errors = [] ∧
      (MediaDirectory.below i.data).Filed Picture.name (fun picture => .bytes picture.data) (pictures.zipIdx next)
        site.files site'.files := by
  obtain ⟨fates,handled,rfl⟩ := i.imageBatch_handled options _ _ _ _ ok
  rw [if_pos wanted,arranged.media] at handled
  have written : i.cache.directory.Written := by
    rw [arranged.cache]
    exact Path.written_join _ arranged.written "cache"
  have named (picture : Picture) (member : picture ∈ pictures) :
      (picture.image directory).name = .str picture.name :=
    picture.image_name directory (proper picture member)
  have ready : ∀ e ∈ pictures.zipIdx, MediaDirectory.Ready site.files
      (i.cache.stagedImage user e.2 (e.1.image directory)) e.1.name (.bytes e.1.data) := fun e member =>
    copied_ready i.cache user site.files written housed.wellFormed housed.opens e.2 _ e.1.name _
      (named e.1 (List.fst_mem_of_mem_zipIdx member)) (copies e member)
  have short : ∀ e ∈ pictures.zipIdx.zipIdx next, Fits (MediaDirectory.fileName (toString e.2) e.1.1.name) := by
    intro e member
    by_cases small : e.2 ≤ 9999
    · have inside := List.fst_mem_of_mem_zipIdx member
      have copied := copies e.1 inside
      have component := copied.component
      rw [named e.1.1 (List.fst_mem_of_mem_zipIdx inside)] at component
      exact MediaDirectory.fits_of_copy e.2 e.1.2 small _ e.1.1.name
        (named e.1.1 (List.fst_mem_of_mem_zipIdx inside)) component (housed.wellFormed _ _ _ copied.standing).2
    · refine fits (e.1.1,e.2) ?_ (Nat.lt_of_not_le small)
      rw [← zipIdx_zipIdx]
      exact List.mem_map_of_mem (f := Prod.map Prod.fst id) member
  obtain ⟨count,silent,filed⟩ := MediaDirectory.images_filed (fun e : Picture × Nat => e.1.name)
    (fun e => .bytes e.1.data) _ i.data rfl (fun e => i.cache.stagedImage user e.2 (e.1.image directory))
    pictures.zipIdx next site site' fates handled housed.wellFormed housed.leads tidy ready short
  have pictured := filed.mapped Prod.fst Picture.name fun picture => .bytes picture.data
  rw [zipIdx_zipIdx] at pictured
  refine ⟨?_,?_,pictured⟩
  · simpa [Batch.addAll,Batch.empty] using count
  · simp [Batch.addAll,Batch.empty,silent]

omit arranged proper fits in
/-- The lines about plugins and pages are not about images. -/
theorem no_imageLine {site₁ site₂ site₃ site₄ : Site ρ} {style : Option Style.StyleData}
    {pages : List SourceFile} {css : Bool} (plugins : Batch) (progress : Page.Progress) (images : Batch)
    (installing : (i.pluginBatch choices options).run.run site₁ = (.ok plugins,site₂))
    (publishing : (i.publishPages style pages).run.run site₃ = (.ok progress,site₄)) (silent : images.errors = [])
    (image : AssetFile) (failure : Failure) :
    imageLine image failure ∉ (batchReport plugins css progress images).errors := by
  intro member
  have other := imageLine_apart image failure
  simp only [batchReport,silent,List.append_nil,List.mem_append] at member
  rcases member with plugin | page
  · obtain ⟨r,_,fates,_,handled,rfl⟩ := i.pluginBatch_handled choices options _ _ _ installing
    have line : imageLine image failure ∈ lines fates := by simpa [Batch.addAll,Batch.empty] using plugin
    obtain ⟨choice,_,fate,_,fated,same⟩ := handled.line _ line
    cases fated with
    | refused _ _ failure' => exact (other _).1 choice.2 (Option.some.inj same).symm
    | _ => cases same
  · obtain ⟨_,published,_,_⟩ := i.publishPages_success _ _ _ _ _ publishing
    obtain ⟨page,failure',same⟩ := Page.publish_refused i.store _ "draft" true _ _ (imageLine image failure)
      (by rw [published]; exact page)
    exact (other failure').2 page same

omit arranged proper fits in
/-- What is filed stays when the analysis is deleted. -/
theorem delivered_of_filed {t : FileTree} {published imported : Site ρ} {w' : Workspace}
    (stays : Stays i.data i.cache.directory t published.files)
    (cleared : (i.cache.delete user).run.run imported.workspace = (.ok (),w'))
    (filed : (MediaDirectory.below i.data).Filed Picture.name (fun picture => .bytes picture.data)
      (pictures.zipIdx next) published.files imported.files) : i.Delivered next pictures t w'.files := by
  have current : imported.files.current = t.current := filed.spares.current.trans stays.current
  have root := below_place t.current i.data "media" (by decide)
  -- The cache is apart from the media library, so that deleting the analysis leaves the library alone.
  have kept (place : Place) (inside : isBelow (destination t.current (MediaDirectory.below i.data).root) place = true) :
      w'.files.find? place = imported.files.find? place := by
    refine i.cache.delete_elsewhere user _ w' cleared place ?_
    obtain ⟨name,rest,rfl⟩ := (isBelow_iff _ _).mp inside
    obtain ⟨off,apart⟩ := stays.housed.apart "media" (by decide)
    rw [stays.current,← root] at off apart
    intro cached
    change destination imported.files.current i.cache.directory <+: _ at cached
    rw [current] at cached
    exact (List.prefix_or_prefix_of_prefix cached (List.prefix_append _ _)).elim off apart
  have below (numbered : Picture × Nat) : isBelow (destination t.current (MediaDirectory.below i.data).root)
      ((MediaDirectory.below i.data).placeAt Picture.name t.current numbered) = true :=
    isBelow_append _ _ (by simp)
  have same (place : Place) (inside : isBelow (destination t.current (MediaDirectory.below i.data).root) place = true) :
      published.files.find? place = t.find? place := by
    obtain ⟨name,rest,rfl⟩ := (isBelow_iff _ _).mp inside
    exact stays.same _ (.inr (root ▸ List.prefix_append _ _))
  obtain ⟨_,new,files,elsewhere⟩ := filed
  rw [stays.current] at new files elsewhere
  constructor
  case new => exact fun e member => (same _ (below e)).symm.trans (new e member)
  case files => exact fun e member => (kept _ (below e)).trans (files e member)
  case others =>
    intro place inside off
    rw [kept place inside,← same place inside]
    refine elsewhere place (fun alone => ?_) off
    obtain ⟨name,rest,more⟩ := (isBelow_iff _ _).mp inside
    simp [more] at alone

/-- An import of an analysis whose images have their copies puts them into the media library. -/
theorem run_delivers (site final : Site ρ) (report : Report) (wellFormed : site.files.WellFormed)
    (stored : Cache.Entry) (standing : site.files.find? (i.cache.base site.files.current ++ [fileName user]) =
      some (.file (.document (.json .spaced) stored.toValue)))
    (images : stored.project.assets.images = pictures.zipIdx.map fun e =>
      i.cache.stagedImage user e.2 (e.1.image directory))
    (copies : ∀ e ∈ pictures.zipIdx, i.cache.Copied user site.files e.2 (e.1.image directory) (.bytes e.1.data))
    (tidy : (MediaDirectory.below i.data).Tidy site.files next) (wanted : options.assets = true)
    (ok : (i.run user choices options).run.run site = (.ok report,final)) :
    report.assets = pictures.length ∧ (∀ image failure, imageLine image failure ∉ report.errors) ∧
      i.Delivered next pictures site.files final.files := by
  obtain ⟨trace,traced,rfl,rfl⟩ := i.run_success user choices options site report final ok
  obtain ⟨unchanged,content,standing',recalls⟩ := i.cache.get_assets user _ _ arranged.clock _ traced.asks
  cases standing.symm.trans standing'
  have assets := recalls stored rfl
  have housed := housed_of_get user arranged _ _ wellFormed _ traced.asks
  have start : Stays i.data i.cache.directory site.files ({ site with workspace := trace.asked } : Site ρ).files := by
    show Stays _ _ site.files trace.asked.files
    rw [unchanged]
    exact .refl _ housed
  -- The steps before the images leave the cache and the media library alone.
  have saves := (i.saveChoices_preserves site.files choices options arranged.preferences).later start traced.saves
  have installs := (i.pluginBatch_preserves site.files choices options arranged.aloof).later saves traced.installs
  have styles := (i.styleOf_preserves site.files user options trace.entry.project).later installs traced.styles
  have stays := (i.publishPages_preserves site.files arranged.aloof _ _).later styles traced.publishes
  have importing := traced.imports
  rw [assets,images] at importing
  have root := below_place site.files.current i.data "media" (by decide)
  have library : ∀ place, destination site.files.current (MediaDirectory.below i.data).root <+: place →
      trace.published.files.find? place = site.files.find? place :=
    fun place inside => stays.same place (.inr (root ▸ inside))
  obtain ⟨count,silent,filed⟩ := imageBatch_delivers user options arranged proper fits _ _ _
    stays.housed (tidy.unchanged stays.current library) wanted
    (fun e member => (copies e member).unchanged i.cache user stays.current fun place inside =>
      stays.same place (.inl inside)) importing
  refine ⟨count,?_,?_⟩
  · exact no_imageLine choices options _ _ _ traced.installs traced.publishes silent
  · exact delivered_of_filed user stays traced.clears filed

end Running

section Parcel

open Host.RegistryFile (rootRegistry)

/-- The analysis of the parcel as it is kept for a user. -/
def parcelEntry : Cache.Entry := ⟨.str "alice",.float 0.0,stagedProject "alice",[]⟩

/-- The tree with the analysis kept, and with more in it. -/
def keptTree (more : List (Place × Entry)) : FileTree :=
  ⟨parcelTree.entries ++ [(["cache","assets","alice"],.directory),
    (["cache","assets","alice","0000-package.json.png"],.file (.bytes ByteArray.empty)),
    (["cache","alice.json"],.file (.document (.json .spaced) parcelEntry.toValue))] ++ more,[]⟩

def keptWorkspace : Workspace := { unwrapped with files := keptTree [] }

/-- The tree with the analysis kept beside the unpacked parcel. -/
def storedTree : FileTree :=
  (copiedTree "alice").put ["cache","alice.json"] (.file (.document (.json .spaced) parcelEntry.toValue))

theorem parcel_uploaded : (rootImporter.upload ⟨1,["a.zip"]⟩ "alice" "").run.run parcelWorkspace =
    (.ok ⟨stagedProject "alice",[],[]⟩,keptWorkspace) := by
  have plain : Plain (userKey "alice") := ⟨by decide,by decide,by decide⟩
  have proper : ¬ Special (userKey "alice") := by decide
  have written : (copiedTree "alice").write (rootStore.fileOf "alice") (.document (.json .spaced) parcelEntry.toValue) =
      .ok storedTree := by
    simp only [FileTree.write,locate_chars]
    rfl
  have stored := rootStore.put_stored "alice" unwrapped parcelProject (stagedProject "alice") [] _ _ unwrappedTree _
    (.float 0.0) unwrapped_opened (parcel_staged "alice" plain proper) rfl written
  have kept : (rootImporter.keeping "alice" [] parcelProject).run.run unwrapped =
      (.ok ⟨stagedProject "alice",[],[]⟩,{ unwrapped with files := storedTree }) := by
    show (do
      let entry ← rootStore.put "alice" parcelProject []
      return (⟨entry.project,[],[]⟩ : Upload) : Work Upload).run.run unwrapped = _
    rw [run_bind,stored]
    rfl
  have removed : storedTree.removeTree parcelPath = keptTree [] := by
    simp only [removeTree,locate_chars]
    rfl
  rw [parcel_uploading]
  dsimp only
  rw [kept]
  dsimp only
  rw [removed]
  rfl

/-- Only the images are imported. -/
def imagesOnly : Options := ⟨false,true,false,false⟩

section Kept

variable (more : List (Place × Entry))

def keptSite : Site Unit := ⟨{ unwrapped with files := keptTree more },()⟩

theorem keptSite_cached : (rootImporter.cache.get "alice").run.run (keptSite more).workspace =
    (.ok (some parcelEntry),(keptSite more).workspace) := by
  have read : (keptTree more).read (rootStore.fileOf "alice") =
      .ok (.document (.json .spaced) parcelEntry.toValue) := by
    simp only [FileTree.read,locate_chars]
    rfl
  have found : Cache.Store.readEntry (keptTree more) (rootStore.fileOf "alice") = .ok parcelEntry := by
    unfold Cache.Store.readEntry
    rw [read]
    refine Cache.Entry.read_toValue (.str "alice") 0.0 (stagedProject "alice") [] ⟨rfl,fun root named => ?_⟩
      (List.forall_mem_nil _)
    cases named
    exact ⟨by decide,by decide⟩
  show (rootStore.get "alice").run.run (keptSite more).workspace = _
  rw [rootStore.get_read "alice" _ _ read,show (keptSite more).workspace.files = keptTree more from rfl,found]
  rfl

theorem keptSite_deleted : ∃ left, (rootStore.delete "alice").run.run (keptSite more).workspace = (.ok (),left) := by
  have located : (keptTree more).locate (rootStore.fileOf "alice") = .ok ["cache","alice.json"] := by
    simp only [locate_chars]
    rfl
  refine ⟨{ (keptSite more).workspace with files :=
    ((keptTree more).removeWhere (· == ["cache","alice.json"])).removeTree (rootStore.imagesOf "alice") },?_⟩
  unfold Cache.Store.delete Work.change
  rw [run_bind,run_bind,Work.ask_run,show (keptSite more).workspace.files = keptTree more from rfl,
    unlink_file (keptTree more) _ _ _ located rfl]
  rfl

/-- The import of the parcel comes down to what becomes of its image. -/
theorem parcel_imported (later : List (Place × Entry)) (fate : Fate String)
    (fated : ImageFate rootImporter.media (stagedProject "alice").assets.images[0] (keptSite more) fate
      (keptSite later)) : ∃ left, (rootImporter.run "alice" [] imagesOnly).run.run (keptSite more) =
      (.ok ⟨[],[],(values [fate]).length,false,lines [fate]⟩,left) := by
  obtain ⟨left,deleted⟩ := keptSite_deleted later
  have published : (rootImporter.publishPages none []).run.run (keptSite more) = (.ok ⟨[],[],none⟩,keptSite more) := rfl
  have imported : (rootImporter.imageBatch imagesOnly (stagedProject "alice").assets.images).run.run (keptSite more) =
      (.ok (Batch.empty.add fate),keptSite later) := by
    show (List.foldlM rootImporter.importImage _ [(stagedProject "alice").assets.images[0]]).run.run _ = _
    rw [List.foldlM_cons,run_bind,importImage_run rootImporter .empty _ _ _ _ fated]
    rfl
  let trace : Trace Unit := ⟨parcelEntry,(keptSite more).workspace,keptSite more,.empty,keptSite more,none,
    keptSite more,⟨[],[],none⟩,keptSite more,Batch.empty.add fate,keptSite later,left⟩
  have traced : rootImporter.Traced "alice" [] imagesOnly (keptSite more) trace :=
    ⟨keptSite_cached more,rfl,rfl,rfl,published,imported,deleted⟩
  refine ⟨trace.final,(rootImporter.run_traced _ _ _ _ trace traced).trans ?_⟩
  cases fate <;> rfl

end Kept

theorem keptTree_wellFormed (more : List (Place × Entry))
    (each : ∀ e ∈ more, (keptTree more).find? e.1.dropLast = some .directory ∧ ∀ name ∈ e.1.getLast?, Fits name) :
    (keptTree more).WellFormed := by
  refine wellFormed_of_entries _ ?_
  show ∀ e ∈ parcelTree.entries ++ _ ++ more, _
  refine List.forall_mem_append.mpr ⟨?_,each⟩
  simp only [parcelTree,List.cons_append,List.nil_append,List.forall_mem_cons,List.not_mem_nil,false_implies,
    implies_true,and_true]
  refine ⟨⟨rfl,?_⟩,⟨rfl,?_⟩,⟨rfl,?_⟩,⟨rfl,?_⟩,⟨rfl,?_⟩,⟨rfl,?_⟩,rfl,?_⟩
  all_goals
    intro name last
    cases last
    decide

theorem rootImporter_arranged : rootImporter.Arranged where
  written := ⟨by decide,nofun⟩
  cache := by decide
  clock := rootClock.filesKept
  media := rfl
  preferences := rfl
  aloof := rootImporter.aloof_below "" rfl rfl

theorem parcel_clear : rootImporter.Clear "alice" parcelWorkspace := by
  intro n place onPath inHome
  rw [parcel_base] at onPath
  obtain ⟨start,inside,rfl⟩ := onPath
  have noDots : ".." ∉ (["tmp",directoryName n] : List String) := by
    simpa using (proper_directoryName n).1.noDots.symm
  rw [destination_straight _ _ fun dots => noDots (inside.subset dots)] at inHome
  have whole : ["cache"] <+: ["tmp",directoryName n] := List.IsPrefix.trans (List.prefix_append _ _) (inHome.trans inside)
  exact absurd (List.cons_prefix_cons.mp whole).1 (by decide)

/-- The library with the image of the parcel. -/
def parcelLibrary : List (Place × Entry) :=
  [(["media"],.directory),(["media","1-package.json.png"],.file (.bytes ByteArray.empty))]

theorem parcel_taken : ImageFate rootImporter.media (stagedProject "alice").assets.images[0] (keptSite []) (.done "1")
    (keptSite parcelLibrary) := by
  have path : Store.imagePath (stagedProject "alice").assets.images[0] =
      .ok ⟨1,["cache","assets","alice","0000-package.json.png"]⟩ := by decide +kernel
  have added : (MediaDirectory.below ⟨1,[]⟩).add ⟨1,["cache","assets","alice","0000-package.json.png"]⟩
      (.str "package.json.png") (keptTree []) = (.ok "1",keptTree parcelLibrary) := by
    simp only [MediaDirectory.add,MediaDirectory.copy,MediaDirectory.nextId,makeDirectories,
      makeDirectoriesWithin,makeDirectory,children,isFile,look,FileTree.write,FileTree.read,FileTree.copy,
      locate_chars]
    rfl
  refine .taken _ _ _ _ path ?_
  show ((MediaDirectory.below ⟨1,[]⟩).onSite Unit).add _ (.str "package.json.png") _ = _
  rw [MediaDirectory.onSite_add,show (keptSite []).files = keptTree [] from rfl,added]
  rfl

/-- A number after which the names of media files get too long for the image of the parcel. -/
@[irreducible]
def lastNumber : Nat := 10 ^ 239 - 1

theorem lastNumber_digits : (toString lastNumber).utf8ByteSize ≤ 239 ∧ 240 ≤ (toString (lastNumber + 1)).utf8ByteSize := by
  have size (n : Nat) : (toString n).utf8ByteSize = (Nat.toDigits 10 n).length := by
    rw [Nat.toString_eq_ofList_toDigits,Decimal.utf8ByteSize_digits _ fun c member =>
      Nat.isDigit_of_mem_toDigits (by decide) (by decide) member]
  have bound (n : Nat) := Nat.length_toDigits_le_iff (b := 10) (n := n) (k := 239) (by decide) (by decide)
  have small : lastNumber < 10 ^ 239 ∧ ¬ lastNumber + 1 < 10 ^ 239 := by
    unfold lastNumber
    decide
  rw [size,size]
  exact ⟨(bound _).mpr small.1,Nat.lt_of_not_le fun short => small.2 ((bound _).mp short)⟩

/-- A library whose last file has that number. -/
def fullLibrary : List (Place × Entry) :=
  [(["media"],.directory),(["media",toString lastNumber ++ "-" ++ "x"],.file (.ofText ""))]

theorem lastName_fits : Fits (toString lastNumber ++ "-" ++ "x") := by
  have digits := lastNumber_digits.1
  unfold Fits
  rw [String.utf8ByteSize_append,String.utf8ByteSize_append]
  change _ + 1 + 1 ≤ 255
  omega

theorem nextName_long : ¬ Fits (MediaDirectory.fileName (toString (lastNumber + 1)) "package.json.png") := by
  have digits := lastNumber_digits.2
  unfold Fits MediaDirectory.fileName
  rw [String.utf8ByteSize_append,String.utf8ByteSize_append,Path.ofText_name _ (by decide) (by decide)]
  change ¬ _ + 1 + 16 ≤ 255
  omega

theorem fullLibrary_wellFormed : (keptTree fullLibrary).WellFormed := by
  refine keptTree_wellFormed _ ?_
  simp only [fullLibrary,List.forall_mem_cons,List.not_mem_nil,false_implies,implies_true,and_true]
  refine ⟨⟨rfl,?_⟩,rfl,?_⟩
  all_goals
    intro name last
    cases last
  · decide
  · exact lastName_fits

theorem fullLibrary_tidy : (MediaDirectory.below ⟨1,[]⟩).Tidy (keptTree fullLibrary) (lastNumber + 1) := by
  have found (name : String) : (keptTree fullLibrary).find? ["media",name] =
      List.lookup ["media",name] [(["media",toString lastNumber ++ "-" ++ "x"],Entry.file (.ofText ""))] := rfl
  constructor
  case noFile => exact nofun
  case own =>
    intro name entry standing
    have standing := (found name).symm.trans standing
    rw [List.lookup_cons] at standing
    split at standing
    next same =>
      have names := beq_iff_eq.mp same
      exact ⟨lastNumber,"x",.ofText "",Nat.lt_succ_self _,by simpa using names,(Option.some.inj standing).symm⟩
    · cases standing
  case last =>
    refine .inr ⟨lastNumber,"x",.file (.ofText ""),rfl,(found _).trans ?_⟩
    rw [List.lookup_cons,beq_self_eq_true]

theorem fullLibrary_untouched : rootImporter.Untouched parcelWorkspace keptWorkspace (keptTree fullLibrary) where
  wellFormed := fullLibrary_wellFormed
  current := rfl
  cached place inside := by
    obtain ⟨rest,rfl⟩ := inside
    have other : fullLibrary.lookup (["cache"] ++ rest) = none := rfl
    have found (more : List (Place × Entry)) (missing : more.lookup (["cache"] ++ rest) = none) :
        (keptTree more).find? (["cache"] ++ rest) = (keptTree []).entries.lookup (["cache"] ++ rest) := by
      have entries : (keptTree more).entries = (keptTree []).entries ++ more := by simp [keptTree]
      rw [find?,if_neg (by simp),entries,List.lookup_append,missing,Option.or_none]
    exact (found _ other).trans (found [] rfl).symm

theorem parcel_refused_by_library : ∃ line failure, (∃ image other, line = imageLine image other) ∧
    ImageFate rootImporter.media (stagedProject "alice").assets.images[0] (keptSite fullLibrary)
      (.failed line failure) (keptSite fullLibrary) := by
  have path : Store.imagePath (stagedProject "alice").assets.images[0] =
      .ok ⟨1,["cache","assets","alice","0000-package.json.png"]⟩ := by decide +kernel
  have located : (keptTree fullLibrary).locate ⟨1,["cache","assets","alice","0000-package.json.png"]⟩ =
      .ok ["cache","assets","alice","0000-package.json.png"] := by
    simp only [locate_chars]
    rfl
  obtain ⟨failure,reported,refused⟩ := fullLibrary_tidy.refuses ⟨1,[]⟩ rfl fullLibrary_wellFormed ⟨rfl,rfl⟩
    ⟨1,["cache","assets","alice","0000-package.json.png"]⟩ (.bytes ByteArray.empty) located rfl "package.json.png"
    (by decide) nextName_long
  refine ⟨_,failure,⟨_,failure,rfl⟩,.refused _ _ _ _ path ?_ reported⟩
  show ((MediaDirectory.below ⟨1,[]⟩).onSite Unit).add _ (.str "package.json.png") _ = _
  rw [MediaDirectory.onSite_add,show (keptSite fullLibrary).files = keptTree fullLibrary from rfl,refused]
  rfl

end Parcel

end Importer

end Import

end Pagewright
