import Pagewright.Proofs.Archive.Extraction
import Pagewright.Proofs.Files.Survival
import Pagewright.Proofs.Import.Accounting
import Pagewright.Proofs.Preserved

/-! What an import does before it comes to the images. It writes to a few names in the data directory, so that a
cache apart from these stays as it is, and the media library too. -/
namespace Pagewright
open FileTree

namespace Import
open Host (DocumentDirectory NewDocument RegistryFile Site SiteWork)

/-- The names in the data directory that an import writes to. -/
def usedNames : List String := ["documents","media","plugins.yaml","preferences.yaml","styles"]

/-- A cache that has nothing in common with what an import uses in a data directory. -/
def Apart (current : Place) (data cache : Path) : Prop :=
  ∀ name ∈ usedNames, ¬ destination current cache <+: destination current data ++ [name] ∧
    ¬ destination current data ++ [name] <+: destination current cache

/-- The cache in the data directory is apart. -/
theorem apart_below (current : Place) (data : Path) : Apart current data (data / "cache") := by
  intro name used
  have place : destination current (data / "cache") = destination current data ++ ["cache"] :=
    destination_name current data "cache" (by decide) (by decide)
  have other : name ≠ "cache" := by
    rintro rfl
    exact absurd used (by decide)
  rw [place]
  refine ⟨fun inside => ?_,fun inside => ?_⟩
  · exact other (List.cons_prefix_cons.mp ((List.prefix_append_right_inj _).mp inside)).1.symm
  · exact other (List.cons_prefix_cons.mp ((List.prefix_append_right_inj _).mp inside)).1

/-- The places of the cache and of the media library. -/
def Reserved (current : Place) (data cache : Path) (place : Place) : Prop :=
  destination current cache <+: place ∨ destination current data ++ ["media"] <+: place

/-- Files with a data directory and a cache directory apart from what is used in it. -/
structure Housed (data cache : Path) (t : FileTree) : Prop where
  wellFormed : t.WellFormed
  leads : t.LeadsToDirectory data
  opens : t.LeadsToDirectory cache
  apart : Apart t.current data cache

/-- A later tree with the same directories, and with the cache and the media library as they were. -/
structure Stays (data cache : Path) (t t' : FileTree) : Prop where
  current : t'.current = t.current
  housed : Housed data cache t'
  same : ∀ place, Reserved t.current data cache place → t'.find? place = t.find? place

theorem Stays.refl {data cache : Path} (t : FileTree) (housed : Housed data cache t) : Stays data cache t t :=
  ⟨rfl,housed,fun _ _ => rfl⟩

theorem Stays.trans {data cache : Path} {first second third : FileTree} (one : Stays data cache first second)
    (two : Stays data cache second third) : Stays data cache first third where
  current := two.current.trans one.current
  housed := two.housed
  same place reserved := (two.same place (one.current ▸ reserved)).trans (one.same place reserved)

/-- Names below the data directory that an import writes to, apart from the media library. -/
structure Beside (names : List String) : Prop where
  noDots : ".." ∉ names
  used : ∃ name rest, names = name :: rest ∧ name ∈ usedNames ∧ name ≠ "media"

theorem beside_not_reserved (current : Place) (data cache : Path) (apart : Apart current data cache)
    (names : List String) (beside : Beside names) :
    ¬ Reserved current data cache (destination current data ++ names) := by
  obtain ⟨name,rest,rfl,used,noMedia⟩ := beside.used
  rintro (inside | inside)
  · obtain ⟨off,apart⟩ := apart name used
    have first : destination current data ++ [name] <+: destination current data ++ name :: rest :=
      (List.prefix_append_right_inj _).mpr (List.cons_prefix_cons.mpr ⟨rfl,List.nil_prefix⟩)
    exact (List.prefix_or_prefix_of_prefix inside first).elim off apart
  · exact noMedia (List.cons_prefix_cons.mp ((List.prefix_append_right_inj _).mp inside)).1.symm

section Files

variable (data cache : Path) (t t' : FileTree) (housed : Housed data cache t)
include housed

theorem put_housed (place : Place) (entry : Entry) (proper : place ≠ [])
    (noDirectory : t.find? place ≠ some .directory) (wellFormed : (t.put place entry).WellFormed) :
    Housed data cache (t.put place entry) :=
  ⟨wellFormed,leads_put t data _ _ proper noDirectory housed.leads,
    leads_put t cache _ _ proper noDirectory housed.opens,housed.apart⟩

theorem write_stays (names : List String) (beside : Beside names) (content : Content)
    (ok : t.write ⟨data.slashes,data.parts ++ names⟩ content = .ok t') : Stays data cache t t' := by
  have place := Archive.destination_below t.current data names beside.noDots
  have proper : names ≠ [] := by
    obtain ⟨name,rest,rfl,_⟩ := beside.used
    simp
  have changes := write_changes t t' _ content (by simp [proper]) ok
  obtain ⟨_,noDirectory,rfl⟩ := write_success t t' _ content ok
  rw [place] at noDirectory ⊢
  refine ⟨rfl,put_housed data cache t housed _ _ (by simp [proper]) noDirectory
    (place ▸ changes.wellFormed housed.wellFormed),fun other reserved => ?_⟩
  refine find?_put_of_ne t _ ?_
  rintro rfl
  exact beside_not_reserved _ _ _ housed.apart _ beside reserved

theorem makeDirectories_data (ok : t.makeDirectories data = .ok t') : t' = t :=
  (Except.ok.inj ((makeDirectoriesWithin_standing t _ data housed.leads).symm.trans ok)).symm

theorem makeDirectories_stays (name : String) (plain : Plain name) (beside : Beside [name])
    (ok : t.makeDirectories ⟨data.slashes,data.parts ++ [name]⟩ = .ok t') : Stays data cache t t' := by
  have place := destination_child t.current data name plain
  obtain ⟨changes,standing⟩ := makeDirectories_success t t' _ ok
  have noFile : ∀ content, t.find? (destination t.current data ++ [name]) ≠ some (.file content) := by
    intro content file
    have kept := (makeDirectories_spares t t' _ ok).stands _ _ id file
    have directory := standing.2
    rw [changes.current,place] at directory
    cases kept.symm.trans directory
  rcases t.makeDirectories_child data housed.leads name plain noFile with ⟨_,same⟩ | ⟨free,made⟩
  · cases same.symm.trans ok
    exact .refl t housed
  · cases made.symm.trans ok
    refine ⟨rfl,put_housed data cache t housed _ _ (by simp) (by rw [free]; simp)
      (changes.wellFormed housed.wellFormed),fun other reserved => ?_⟩
    refine find?_put_of_ne t _ ?_
    rintro rfl
    exact beside_not_reserved _ _ _ housed.apart _ beside reserved

theorem saveRegistry_stays (fields : Table Value) (ok : (RegistryFile.below data).save fields t = .ok t') :
    Stays data cache t t' := by
  obtain ⟨opened,making,ok⟩ := except_bind_success _ _ _ ok
  have path : (RegistryFile.below data).path = ⟨data.slashes,data.parts ++ ["plugins.yaml"]⟩ :=
    Path.append_name data "plugins.yaml" (by decide)
  have parent : (RegistryFile.below data).path.parent = data := by
    rw [path,Path.parent,List.dropLast_concat]
  rw [parent] at making
  cases makeDirectories_data data cache t opened housed making
  rw [path] at ok
  exact write_stays data cache _ t' housed _ ⟨by decide,_,_,rfl,by decide,by decide⟩ _ ok

theorem installed_stays (slug : String) :
    Stays data cache t (RegistryFile.step ((RegistryFile.below data).installed slug) t).2 := by
  unfold RegistryFile.step
  split
  next files' ok =>
    obtain ⟨_,_,⟨_,same⟩ | ⟨_,_,_,_,saved⟩⟩ := RegistryFile.installed_success _ slug t files' ok
    · exact same ▸ .refl t housed
    · exact saveRegistry_stays data cache t files' housed _ saved
  next => exact .refl t housed

theorem activated_stays (slug : String) :
    Stays data cache t (RegistryFile.step ((RegistryFile.below data).activated slug) t).2 := by
  unfold RegistryFile.step
  split
  next files' ok =>
    obtain ⟨_,_,_,_,⟨_,same⟩ | ⟨_,_,_,_,_,saved⟩⟩ := RegistryFile.activated_success _ slug t files' ok
    · exact same ▸ .refl t housed
    · exact saveRegistry_stays data cache t files' housed _ saved
  next => exact .refl t housed

theorem created_stays (stamp : String) (document : NewDocument) :
    Stays data cache t ((DocumentDirectory.below data stamp).create document t).2 := by
  unfold DocumentDirectory.create
  split
  next id files' ok =>
    obtain ⟨made,making,next,writing⟩ := DocumentDirectory.write_success _ t files' document id ok
    have root : (DocumentDirectory.below data stamp).root = ⟨data.slashes,data.parts ++ ["documents"]⟩ :=
      Path.append_name data "documents" (by decide)
    obtain ⟨_,standing⟩ := makeDirectories_success t made _ making
    obtain ⟨n,rfl,_⟩ := DocumentDirectory.nextId_beyond _ made standing id next
    rw [root] at making
    have opened := makeDirectories_stays data cache t made housed "documents" ⟨by decide,by decide,by decide⟩
      ⟨by decide,_,_,rfl,by decide,by decide⟩ making
    have component := DocumentDirectory.number_component n ".json" (by decide)
    have file : (DocumentDirectory.below data stamp).fileOf (toString n) =
        ⟨data.slashes,data.parts ++ ["documents",toString n ++ ".json"]⟩ := by
      show (DocumentDirectory.below data stamp).root / (toString n ++ ".json") = _
      rw [Path.append_name _ _ component.1,root,List.append_assoc]
      rfl
    rw [file] at writing
    refine opened.trans (write_stays data cache made files' opened.housed _ ⟨?_,_,_,rfl,by decide,by decide⟩ _ writing)
    simpa using Ne.symm component.2
  next => exact .refl t housed

end Files

end Import

section Publishing
open Page
open Host (DocumentStore)

variable {σ : Type} {property : σ → Prop} (store : DocumentStore σ) (settings : Table Value) (status : String)
  (creating : ∀ document s, property s → property (store.create document s).2)
include creating

theorem publishPage_preserves (page : Project.SourceFile) :
    Preserves (fun s : σ × Nat => property s.1) (publishPage store settings status page) := by
  refine preserves_bind _ _ (fun s before => ?_) fun tree => ?_
  · rw [ofBuild_run]
    exact before
  · exact preserves_bind _ _ (fun s before => creating _ _ before) fun result => preserves_pure _

/-- Publishing preserves what storing a document preserves. -/
theorem publish_preserves (collect : Bool) (pages : List Project.SourceFile) (s : σ × Nat) (before : property s.1) :
    property (publish store settings status collect pages s).2.1 := by
  induction pages generalizing s with
  | nil => exact before
  | cons page pages ih =>
    have after := publishPage_preserves store settings status creating page s before
    unfold publish
    rw [show (publishPage store settings status page).run s = (publishPage store settings status page).run.run s from rfl]
    rcases ran : (publishPage store settings status page).run.run s with ⟨failure | failure | published,left⟩
    · rw [ran] at after
      exact after
    · rw [ran] at after
      dsimp only
      split
      · exact ih left after
      · exact after
    · rw [ran] at after
      exact ih left after

end Publishing

namespace Import
open Host (DocumentDirectory RegistryFile Site SiteWork)
open Detection (Recommender)

namespace Importer

variable {ρ : Type} (i : Importer ρ)

/-- A registry and a store that leave the cache and the media library alone. -/
structure Aloof : Prop where
  installing : ∀ slug (site : Site ρ), Housed i.data i.cache.directory site.files →
    Stays i.data i.cache.directory site.files (i.registry.install slug site).2.files
  activating : ∀ slug (site : Site ρ), Housed i.data i.cache.directory site.files →
    Stays i.data i.cache.directory site.files (i.registry.activate slug site).2.files
  creating : ∀ document (site : Site ρ), Housed i.data i.cache.directory site.files →
    Stays i.data i.cache.directory site.files (i.store.create document site).2.files

/-- A registry file and a document directory below the data directory do so. -/
theorem aloof_below (stamp : String) (registry : i.registry = (RegistryFile.below i.data).onSite ρ)
    (store : i.store = (DocumentDirectory.below i.data stamp).onSite ρ) : i.Aloof where
  installing slug site housed := by
    rw [registry]
    exact installed_stays i.data _ site.files housed slug
  activating slug site housed := by
    rw [registry]
    exact activated_stays i.data _ site.files housed slug
  creating document site housed := by
    rw [store]
    exact created_stays i.data _ site.files housed stamp document

section Parts

variable (start : FileTree) (user : String) (choices : Table String) (options : Options)

theorem save_preserves (preferences : Value) (place : i.preferences = .below i.data) :
    Preserves (fun w : Workspace => Stays i.data i.cache.directory start w.files) (i.preferences.save preferences) := by
  have path : i.preferences.path = ⟨i.data.slashes,i.data.parts ++ ["preferences.yaml"]⟩ := by
    rw [place]
    exact Path.append_name i.data "preferences.yaml" (by decide)
  have parent : i.preferences.path.parent = i.data := by
    rw [path,Path.parent,List.dropLast_concat]
  have beside : Beside ["preferences.yaml"] := ⟨by decide,_,_,rfl,by decide,by decide⟩
  unfold Preferences.Store.save
  refine preserves_bind _ _ (Work.preserves_change _ fun t t' ok stays => ?_) fun _ => ?_
  · obtain ⟨opened,making,writing⟩ := except_bind_success _ _ _ ok
    rw [parent] at making
    cases makeDirectories_data i.data i.cache.directory t opened stays.housed making
    rw [path] at writing
    exact stays.trans (write_stays i.data _ t t' stays.housed _ beside _ writing)
  · refine preserves_bind _ _ (Work.preserves_looks _ (Settings.looks_ofExcept _)) fun entries => ?_
    refine Work.preserves_change _ fun t t' ok stays => ?_
    rw [path] at ok
    exact stays.trans (write_stays i.data _ t t' stays.housed _ beside _ ok)

theorem saveChoices_preserves (place : i.preferences = .below i.data) :
    Preserves (fun site : Site ρ => Stays i.data i.cache.directory start site.files) (i.saveChoices choices options) := by
  unfold saveChoices
  split
  · exact SiteWork.preserves_ofWork _ (i.save_preserves start _ place)
  · exact preserves_pure _

theorem styleName_component (user : String) :
    Path.IsComponent (Cache.userKey user ++ ".css") ∧ Cache.userKey user ++ ".css" ≠ ".." := by
  have long : 4 ≤ (Cache.userKey user ++ ".css").length := by
    rw [String.length_append]
    exact Nat.le_add_left _ _
  have other (text : String) (short : text.length < 4) : Cache.userKey user ++ ".css" ≠ text := by
    rintro rfl
    omega
  refine ⟨⟨?_,other "" (by decide),other "." (by decide)⟩,other ".." (by decide)⟩
  rw [String.toList_append,List.mem_append,not_or]
  exact ⟨Cache.slash_userKey user,by decide⟩

theorem storeStylesheet_preserves (style : Style.StyleData) :
    Preserves (fun w : Workspace => Stays i.data i.cache.directory start w.files) (i.storeStylesheet user style) := by
  have name := styleName_component user
  have directory : i.data / "styles" = ⟨i.data.slashes,i.data.parts ++ ["styles"]⟩ :=
    Path.append_name i.data "styles" (by decide)
  have file : i.stylesheetFile user = ⟨i.data.slashes,i.data.parts ++ ["styles",Cache.userKey user ++ ".css"]⟩ := by
    rw [stylesheetFile,Path.append_name _ _ name.1,directory,List.append_assoc]
    rfl
  have parent : (i.stylesheetFile user).parent = ⟨i.data.slashes,i.data.parts ++ ["styles"]⟩ := by
    rw [stylesheetFile,Path.append_name _ _ name.1,directory,Path.parent,List.dropLast_concat]
  unfold storeStylesheet
  dsimp only
  split
  · exact preserves_pure _
  · refine preserves_bind _ _ (Work.preserves_change _ fun t t' ok stays => ?_) fun _ => ?_
    · rw [parent] at ok
      exact stays.trans (makeDirectories_stays i.data _ t t' stays.housed "styles" ⟨by decide,by decide,by decide⟩
        ⟨by decide,_,_,rfl,by decide,by decide⟩ ok)
    · refine preserves_bind _ _ (Work.preserves_change _ fun t t' ok stays => ?_) fun _ => preserves_pure _
      rw [file] at ok
      refine stays.trans (write_stays i.data _ t t' stays.housed _ ⟨?_,_,_,rfl,by decide,by decide⟩ _ ok)
      simpa using Ne.symm name.2

theorem styleOf_preserves (project : Project) :
    Preserves (fun site : Site ρ => Stays i.data i.cache.directory start site.files) (i.styleOf user options project) := by
  unfold styleOf
  split
  · rw [map_eq_pure_bind]
    refine preserves_bind _ _ (SiteWork.preserves_ofWork _ ?_) fun _ => preserves_pure _
    refine preserves_bind _ _ (Work.preserves_looks _ (Settings.looks_ofExcept _)) fun style => ?_
    exact preserves_bind _ _ (i.storeStylesheet_preserves start user style) fun _ => preserves_pure _
  · exact preserves_pure _

variable (aloof : i.Aloof) (r : Recommender ρ) (registered : r.registry = some i.registry)
include aloof

section Plugins

include registered

omit aloof in
theorem requireRegistry_preserves (slug : String) (next : Host.PluginRegistry (Site ρ) → SiteWork ρ Unit)
    (rest : Preserves (fun site : Site ρ => Stays i.data i.cache.directory start site.files) (next i.registry)) :
    Preserves (fun site : Site ρ => Stays i.data i.cache.directory start site.files)
      (SiteWork.ask (fun _ => r.requireRegistry slug) >>= next) := by
  refine preserves_bind_given _ _ (SiteWork.preserves_ask _) fun site registry site' ok => ?_
  rw [SiteWork.ask_run,Recommender.requireRegistry,registered] at ok
  cases ok
  exact rest

theorem installPlugin_preserves (slug : String) :
    Preserves (fun site : Site ρ => Stays i.data i.cache.directory start site.files) (installPlugin r slug) := by
  refine preserves_bind _ _ ?_ fun _ => ?_
  · unfold Recommender.install
    split
    · exact preserves_pure _
    · refine preserves_bind _ _ (SiteWork.preserves_ask _) fun there => ?_
      split
      · exact preserves_pure _
      · refine i.requireRegistry_preserves start r registered slug _ (SiteWork.preserves_step _ ?_)
        exact fun site stays => stays.trans (aloof.installing slug site stays.housed)
  · unfold Recommender.activate
    split
    · exact preserves_pure _
    · refine preserves_bind _ _ (SiteWork.preserves_ask _) fun active => ?_
      split
      · exact preserves_pure _
      · refine i.requireRegistry_preserves start r registered slug _ ?_
        refine preserves_bind _ _ (SiteWork.preserves_ask _) fun there => ?_
        split
        · exact preserves_throw _
        · refine SiteWork.preserves_step _ fun site stays => ?_
          exact stays.trans (aloof.activating slug site stays.housed)

theorem installChoice_preserves (batch : Batch) (choice : String × String) :
    Preserves (fun site : Site ρ => Stays i.data i.cache.directory start site.files) (installChoice r batch choice) := by
  unfold installChoice
  dsimp only
  split
  · exact preserves_pure _
  · refine preserves_bind _ _ (SiteWork.preserves_ask _) fun active => ?_
    split
    · exact preserves_pure _
    · refine preserves_bind _ _ (SiteWork.preserves_outcome _
        (i.installPlugin_preserves start aloof r registered choice.2)) fun outcome => ?_
      cases outcome with
      | ok => exact preserves_pure _
      | error failure =>
        unfold reportLine
        dsimp only
        split
        · exact preserves_pure _
        · exact preserves_throw _

end Plugins

theorem pluginBatch_preserves :
    Preserves (fun site : Site ρ => Stays i.data i.cache.directory start site.files) (i.pluginBatch choices options) := by
  unfold pluginBatch
  split
  · refine preserves_bind_given _ _ (SiteWork.preserves_ofWork _ ?_) fun site r site' ok => ?_
    · exact preserves_bind _ _ Work.preserves_proOverride fun _ => preserves_pure _
    · have registered : r.registry = some i.registry := by
        obtain ⟨w,given,_⟩ := SiteWork.ofWork_success site _ r site' ok
        obtain ⟨override,w₁,_,given⟩ := run_bind_success _ _ _ _ _ given
        cases given
        rfl
      exact preserves_foldlM _ choices .empty fun batch choice =>
        i.installChoice_preserves start aloof r registered batch choice
  · exact preserves_pure _

theorem publishPages_preserves (style : Option Style.StyleData) (pages : List Project.SourceFile) :
    Preserves (fun site : Site ρ => Stays i.data i.cache.directory start site.files) (i.publishPages style pages) := by
  intro site before
  have creates (document : Host.NewDocument) (site : Site ρ) (stays : Stays i.data i.cache.directory start site.files) :
      Stays i.data i.cache.directory start (i.store.create document site).2.files :=
    stays.trans (aloof.creating document site stays.housed)
  have after := publish_preserves i.store (Page.settingsOf style) "draft" creates true pages
    (site,site.workspace.drawnIds) before
  rcases ran : Page.publish i.store (Page.settingsOf style) "draft" true pages (site,site.workspace.drawnIds) with
    ⟨progress,left⟩
  rw [ran] at after
  rw [i.publishPages_run style pages site progress left ran]
  exact after

end Parts

end Importer

end Import

end Pagewright
