import Pagewright.Proofs.Host.Media
import Pagewright.Proofs.Import.Kept
import Pagewright.Proofs.Import.Surroundings

/-! What an import delivers. Every image that an upload has kept goes into the media library under the next number,
with the data that the archive has for it. -/
namespace Pagewright
open FileTree

namespace Host.MediaDirectory
open Cache (Sourced)
open Import (Fate Handled ImageFate values lines)

/-- An image that names its file, and whose own name is a file name. -/
structure Ready (t : FileTree) (image : Project.AssetFile) (name : String) (content : Content) : Prop where
  named : image.name = .str name
  clean : Char.ofNat 0 ∉ (Path.ofText name).name.toList
  sourced : ∃ source, Sourced nowhere t image source content

theorem Ready.later {t t' : FileTree} {image : Project.AssetFile} {name : String} {content : Content}
    (ready : Ready t image name content) (spares : Spares nowhere t t') : Ready t' image name content := by
  obtain ⟨source,sourced⟩ := ready.sourced
  exact ⟨ready.named,ready.clean,source,sourced.later spares⟩

/-- A media file with at most four digits has a name no longer than that of the copy of its image. -/
theorem fits_of_copy (n position : Nat) (small : n ≤ 9999) (image : Project.AssetFile) (name : String)
    (named : image.name = .str name) (component : Path.IsComponent name)
    (fits : Fits (Cache.Store.copyName position image)) : Fits (fileName (toString n) name) := by
  have digits : (Nat.toDigits 10 n).length ≤ 4 := by
    rw [Nat.length_toDigits_le_iff (by decide) (by decide)]
    omega
  have padded : 4 ≤ (Decimal.padZeros 4 (Nat.toDigits 10 position)).length := by
    rw [Decimal.padZeros,List.length_append,List.length_replicate]
    omega
  have number : (toString n).utf8ByteSize ≤ 4 := by
    rw [Nat.toString_eq_ofList_toDigits,Decimal.utf8ByteSize_digits _ fun c member =>
      Nat.isDigit_of_mem_toDigits (by decide) (by decide) member]
    exact digits
  have longer := padded.trans (Decimal.length_le_utf8ByteSize _)
  unfold Fits Cache.Store.copyName at fits
  unfold Fits fileName
  rw [String.utf8ByteSize_append,String.utf8ByteSize_append] at fits ⊢
  rw [named] at fits
  rw [Path.ofText_name name component.1 component.2]
  change _ + _ + name.utf8ByteSize ≤ _ at fits
  change _ + _ + name.utf8ByteSize ≤ _
  omega

section Adding

variable {α : Type} (name : α → String) (content : α → Content) (d : MediaDirectory)

/-- The place of a file with a number. -/
def placeAt (current : Place) (numbered : α × Nat) : Place :=
  destination current d.root ++ [fileName (toString numbered.2) (name numbered.1)]

/-- A later tree in which each of some items has a new file under its number, with nothing else changed. -/
structure Filed (items : List (α × Nat)) (t t' : FileTree) : Prop where
  spares : Spares nowhere t t'
  new : ∀ e ∈ items, t.find? (d.placeAt name t.current e) = none
  files : ∀ e ∈ items, t'.find? (d.placeAt name t.current e) = some (.file (content e.1))
  elsewhere : ∀ place, place ≠ destination t.current d.root → (∀ e ∈ items, place ≠ d.placeAt name t.current e) →
    t'.find? place = t.find? place

theorem Filed.cons {next : Nat} {a : α} {items : List (α × Nat)} {t t₁ t' : FileTree}
    (added : d.Added t next (name a) (content a) t₁) (free : t.find? (d.placeAt name t.current (a,next)) = none)
    (filed : d.Filed name content items t₁ t') : d.Filed name content ((a,next) :: items) t t' := by
  have first : t₁.find? (d.placeAt name t.current (a,next)) = some (.file (content a)) :=
    (added.elsewhere _ (by simp [placeAt])).trans (if_pos rfl)
  obtain ⟨spares,new,files,elsewhere⟩ := filed
  rw [added.spares.current] at new files elsewhere
  -- A later file is not in the place of the first one, where one stands already.
  have old (place : Place) (proper : place ≠ destination t.current d.root)
      (off : place ≠ d.placeAt name t.current (a,next)) : t₁.find? place = t.find? place :=
    (added.elsewhere place proper).trans (if_neg off)
  constructor
  case spares => exact added.spares.trans spares
  case new =>
    intro e member
    rcases List.mem_cons.mp member with rfl | later
    · exact free
    · have missing := new e later
      rw [old _ (by simp [placeAt])] at missing
      · exact missing
      · intro same
        rw [same,first] at missing
        cases missing
  case files =>
    intro e member
    rcases List.mem_cons.mp member with rfl | later
    · exact spares.stands _ _ id first
    · exact files e later
  case elsewhere =>
    intro place proper off
    rw [elsewhere place proper fun e later => off e (List.mem_cons_of_mem _ later)]
    exact old place proper (off _ List.mem_cons_self)

variable {ρ : Type} (data : Path) (below : d = .below data) (image : α → Project.AssetFile) (items : List α)
include below

/-- Images that are ready, and whose names fit, are all added, one after another. -/
theorem images_filed (next : Nat) (site site' : Site ρ) (fates : List (Fate String))
    (handled : Handled (ImageFate (d.onSite ρ)) (items.map image) site fates site')
    (wellFormed : site.files.WellFormed) (leads : site.files.LeadsToDirectory data) (tidy : d.Tidy site.files next)
    (ready : ∀ a ∈ items, Ready site.files (image a) (name a) (content a))
    (fits : ∀ e ∈ items.zipIdx next, Fits (fileName (toString e.2) (name e.1))) :
    (values fates).length = items.length ∧ lines fates = [] ∧
      d.Filed name content (items.zipIdx next) site.files site'.files := by
  induction items generalizing next site fates with
  | nil =>
    cases handled
    exact ⟨rfl,rfl,.refl _,List.forall_mem_nil _,List.forall_mem_nil _,fun _ _ _ => rfl⟩
  | cons a items ih =>
    obtain ⟨named,clean,source,sourced⟩ := ready a List.mem_cons_self
    obtain ⟨t₁,adding,added⟩ := tidy.add data below wellFormed leads source (content a) sourced.located
      sourced.standing (name a) clean (fits (a,next) List.mem_cons_self)
    have free := tidy.free (name a)
    rw [List.map_cons] at handled
    cases handled with
    | cons _ _ fate s₁ _ fates' _ head tail =>
      have outcome (file : Path) (result : Except Failure String) (path : Cache.Store.imagePath (image a) = .ok file)
          (ended : (d.onSite ρ).add file (image a).name site = (result,s₁)) :
          result = .ok (toString next) ∧ s₁ = site.withFiles t₁ := by
        cases sourced.path.symm.trans path
        rw [onSite_add,named,adding] at ended
        cases ended
        exact ⟨rfl,rfl⟩
      cases head with
      | refused _ file failure path ended =>
        cases (outcome file _ path ended).1
      | taken _ file id path ended =>
        obtain ⟨_,rfl⟩ := outcome file _ path ended
        obtain ⟨count,silent,filed⟩ := ih (next + 1) (site.withFiles t₁) fates' tail added.wellFormed
          (leads_spared _ _ added.spares data (fun _ _ never => never) leads) (tidy.later added)
          (fun b member => (ready b (List.mem_cons_of_mem a member)).later added.spares)
          (fun e member => fits e (List.mem_cons_of_mem _ member))
        refine ⟨?_,?_,Filed.cons name content d added free filed⟩
        · rw [Import.values_cons]
          simp [count,Fate.value?]
        · rw [Import.lines_cons]
          simp [silent,Fate.line?]

end Adding

section Mapped

variable {α β : Type} (f : α → β) (name : β → String) (content : β → Content) (d : MediaDirectory)
  {items : List (α × Nat)} {t t' : FileTree}

theorem placeAt_map (current : Place) (numbered : α × Nat) :
    d.placeAt name current (Prod.map f id numbered) = d.placeAt (fun a => name (f a)) current numbered := rfl

theorem Filed.mapped (filed : d.Filed (fun a => name (f a)) (fun a => content (f a)) items t t') :
    d.Filed name content (items.map (Prod.map f id)) t t' := by
  obtain ⟨spares,new,files,elsewhere⟩ := filed
  refine ⟨spares,List.forall_mem_map.mpr fun e member => ?_,List.forall_mem_map.mpr fun e member => ?_,
    fun place proper off => elsewhere place proper fun e member => ?_⟩
  · rw [placeAt_map]
    exact new e member
  · rw [placeAt_map]
    exact files e member
  · rw [← placeAt_map]
    exact off _ (List.mem_map_of_mem member)

end Mapped

end Host.MediaDirectory

namespace Page
open Host (DocumentStore)

/-- A page that is refused is reported by its line. -/
theorem publish_refused {σ : Type} (store : DocumentStore σ) (settings : Table Value) (status : String)
    (collect : Bool) (pages : List Project.SourceFile) (s : σ × Nat) (line : String)
    (member : line ∈ (publish store settings status collect pages s).1.refused) :
    ∃ page failure, line = refusalLine page failure := by
  induction pages generalizing s with
  | nil => cases member
  | cons page pages ih =>
    unfold publish at member
    split at member
    · cases member
    · exact ih _ member
    next failure state _ =>
      split at member
      · rcases List.mem_cons.mp member with rfl | later
        · exact ⟨page,failure,rfl⟩
        · exact ih _ later
      · cases member

end Page

namespace Import
open Host (MediaDirectory Site SiteWork)
open Cache Project

section Lines

theorem Handled.line {σ α β : Type} {handle : α → σ → Fate β → σ → Prop} {items : List α} {s s' : σ}
    {fates : List (Fate β)} (handled : Handled handle items s fates s') (line : String) (member : line ∈ lines fates) :
    ∃ item s fate s', handle item s fate s' ∧ fate.line? = some line := by
  induction handled with
  | nil => cases member
  | cons item s fate s₁ items fates s₂ head _ ih =>
    rw [lines_cons] at member
    rcases List.mem_append.mp member with first | later
    · exact ⟨item,s,fate,s₁,head,Option.mem_toList.mp first⟩
    · exact ih later

theorem start_apart (first second : String) (rest more : List Char) (long : 12 ≤ first.toList.length)
    (long' : 12 ≤ second.toList.length) (other : first.toList.take 12 ≠ second.toList.take 12) :
    first.toList ++ rest ≠ second.toList ++ more := by
  intro same
  have starts := congrArg (List.take 12) same
  rw [List.take_append_of_le_length long,List.take_append_of_le_length long'] at starts
  exact other starts

/-- The line of an image is not that of a plugin or a page. -/
theorem imageLine_apart (image : AssetFile) (failure other : Failure) :
    (∀ slug, Importer.imageLine image failure ≠ Importer.refusedLine slug other) ∧
      ∀ page, Importer.imageLine image failure ≠ Page.refusalLine page other := by
  have chars (start name text : String) : (start ++ name ++ ": " ++ text).toList =
      start.toList ++ (name.toList ++ (": ".toList ++ text.toList)) := by
    simp only [String.toList_append,List.append_assoc]
  refine ⟨fun slug same => ?_,fun page same => ?_⟩
  · have lists := (chars "Failed to import asset " _ _).symm.trans
      ((congrArg String.toList same).trans (chars "Failed to install " _ _))
    exact start_apart _ _ _ _ (by decide) (by decide) (by decide) lists
  · have lists := (chars "Failed to import asset " _ _).symm.trans
      ((congrArg String.toList same).trans (chars "Failed to create page " _ _))
    exact start_apart _ _ _ _ (by decide) (by decide) (by decide) lists

end Lines

section Copies

variable (s : Cache.Store) (user : String) (t : FileTree) (written : s.directory.Written) (wellFormed : t.WellFormed)
  (opens : t.LeadsToDirectory s.directory)
include written wellFormed opens

/-- A copy of an image is found by the path that the staged image names. -/
theorem copied_ready (position : Nat) (image : AssetFile) (name : String) (content : Content)
    (named : image.name = .str name) (copied : s.Copied user t position image content) :
    MediaDirectory.Ready t (s.stagedImage user position image) name content := by
  have component : Path.IsComponent name := by
    have whole := copied.component
    rw [named] at whole
    exact whole
  have copyComponent := copyName_component position image copied.component.1
  have leads := s.images_lead user t wellFormed opens copied.assets copied.home
  have place := s.destination_copy user t.current position image copied.component.1
  have plain : Plain (Store.copyName position image) :=
    ⟨(copyName_proper _ ⟨position,image,rfl⟩).2.2.1,copied.clean,(wellFormed _ _ _ copied.standing).2⟩
  have located := locate_child t (s.imagesOf user) _ leads plain
  rw [s.destination_imagesOf,← Path.append_name _ _ copyComponent] at located
  constructor
  case named => exact named
  case clean =>
    intro null
    rw [Path.ofText_name name component.1 component.2] at null
    refine copied.clean ?_
    rw [copyName_chars,named]
    exact List.mem_append_right _ (List.mem_cons_of_mem _ null)
  case sourced =>
    refine ⟨s.imagesOf user / Store.copyName position image,?_,copied.component,?_,?_,fun _ _ never => never⟩
    · have path := Path.written_join _ (Path.written_join _ (Path.written_join _ written "assets") (userKey user))
        (Store.copyName position image)
      exact congrArg Except.ok (Path.ofText_text _ path)
    · rw [place]
      exact located
    · rw [place]
      exact copied.standing

end Copies

end Import

end Pagewright
