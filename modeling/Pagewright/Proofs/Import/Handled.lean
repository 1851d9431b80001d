import Pagewright.Proofs.Import.Asking
import Pagewright.Proofs.Import.Pages

/-! Items handled one after another. Where the batches of an import go through, every choice, page and image
has met one fate, in order, by the calls that were made for it. -/
namespace Pagewright.Import
open Detection (Recommender)
open Document (Node)
open Host (DocumentStore MediaLibrary NewDocument Site SiteWork)

section Relation

variable {σ α β : Type}

/-- Items handled one after another, from a first state to a last one, each with its fate. -/
inductive Handled (handle : α → σ → Fate β → σ → Prop) : List α → σ → List (Fate β) → σ → Prop
  | nil (s : σ) : Handled handle [] s [] s
  | cons (item : α) (s : σ) (fate : Fate β) (s₁ : σ) (items : List α) (fates : List (Fate β)) (s₂ : σ)
      (head : handle item s fate s₁) (tail : Handled handle items s₁ fates s₂) :
      Handled handle (item :: items) s (fate :: fates) s₂

variable {handle : α → σ → Fate β → σ → Prop} {items : List α} {s s' : σ} {fates : List (Fate β)}

theorem Handled.length (handled : Handled handle items s fates s') : fates.length = items.length := by
  induction handled with
  | nil => rfl
  | cons _ _ _ _ _ _ _ _ _ ih => rw [List.length_cons,List.length_cons,ih]

/-- Where no item is idle, every item counts once, as a value or as a line. -/
theorem Handled.counts (handled : Handled handle items s fates s')
    (busy : ∀ item s fate s', handle item s fate s' → fate ≠ .idle) :
    (values fates).length + (lines fates).length = items.length := by
  induction handled with
  | nil => rfl
  | cons item s fate _ _ _ _ head _ ih =>
    rw [values_cons,lines_cons,List.length_append,List.length_append,List.length_cons,← ih]
    cases fate with
    | idle => exact absurd rfl (busy _ _ _ _ head)
    | done value => simp [Fate.value?,Fate.line?]; omega
    | failed line failure => simp [Fate.value?,Fate.line?]; omega

end Relation

variable {ρ σ : Type}

/-- What becomes of a choice: it is idle, its plugin is installed and activated, or it is refused. -/
inductive ChoiceFate (r : Recommender ρ) (choice : String × String) : Site ρ → Fate String → Site ρ → Prop
  | skipped (site : Site ρ) (idle : Importer.isSkipped choice = true) : ChoiceFate r choice site .idle site
  | active (site : Site ρ) (answer : r.isActive choice.2 site = .ok true) : ChoiceFate r choice site .idle site
  | installed (site site' : Site ρ) (answer : r.isActive choice.2 site = .ok false)
      (done : (Importer.installPlugin r choice.2).run.run site = (.ok (),site')) :
      ChoiceFate r choice site (.done choice.2) site'
  | refused (site site' : Site ρ) (failure : Failure) (answer : r.isActive choice.2 site = .ok false)
      (ended : (Importer.installPlugin r choice.2).run.run site = (.error failure,site'))
      (reported : failure.isReported = true) :
      ChoiceFate r choice site (.failed (Importer.refusedLine choice.2 failure) failure) site'

/-- What becomes of an image: the library takes its file, or refuses it. -/
inductive ImageFate (media : MediaLibrary σ) (image : Project.AssetFile) : σ → Fate String → σ → Prop
  | taken (s s' : σ) (file : Path) (id : String) (path : Cache.Store.imagePath image = .ok file)
      (added : media.add file image.name s = (.ok id,s')) : ImageFate media image s (.done id) s'
  | refused (s s' : σ) (file : Path) (failure : Failure) (path : Cache.Store.imagePath image = .ok file)
      (ended : media.add file image.name s = (.error failure,s')) (reported : failure.isReported = true) :
      ImageFate media image s (.failed (Importer.imageLine image failure) failure) s'

/-- The document that is made of a page with its tree. -/
def documentOf (settings : Table Value) (page : Project.SourceFile) (tree : List Node) : NewDocument :=
  ⟨page.name,Document.toValues tree,.str "page",settings,"draft"⟩

/-- What becomes of a page whose source is translated in this state: the store takes the document of its
tree, which is held then, or refuses it. -/
inductive PageFate (store : DocumentStore σ) (settings : Table Value) (held : String → NewDocument → Prop)
    (page : Project.SourceFile) : σ × Nat → Fate Page.Published → σ × Nat → Prop
  | stored (s s' : σ) (drawn drawn' : Nat) (source id : String) (tree : List Node)
      (content : page.content = .str source)
      (translated : (Page.translate source.toList).run.run drawn = (.ok tree,drawn'))
      (created : store.create (documentOf settings page tree) s = (.ok id,s'))
      (kept : held id (documentOf settings page tree)) :
      PageFate store settings held page (s,drawn) (.done ⟨page.name,id,tree.length⟩) (s',drawn')
  | refused (s s' : σ) (drawn drawn' : Nat) (source : String) (tree : List Node) (failure : Failure)
      (content : page.content = .str source)
      (translated : (Page.translate source.toList).run.run drawn = (.ok tree,drawn'))
      (ended : store.create (documentOf settings page tree) s = (.error failure,s'))
      (reported : failure.isReported = true) :
      PageFate store settings held page (s,drawn) (.failed (Page.refusalLine page failure) failure)
        (s',drawn')

theorem ImageFate.busy (media : MediaLibrary σ) (image : Project.AssetFile) (s : σ) (fate : Fate String)
    (s' : σ) (handled : ImageFate media image s fate s') : fate ≠ .idle := by
  cases handled <;> exact nofun

theorem PageFate.busy (store : DocumentStore σ) (settings : Table Value)
    (held : String → NewDocument → Prop) (page : Project.SourceFile) (s : σ × Nat)
    (fate : Fate Page.Published) (s' : σ × Nat) (handled : PageFate store settings held page s fate s') :
    fate ≠ .idle := by
  cases handled <;> exact nofun

/-- A batch that goes through accounts for its items, where each of its steps does for one item. -/
theorem fold_handled {α : Type} (step : Batch → α → SiteWork ρ Batch)
    (handle : α → Site ρ → Fate String → Site ρ → Prop)
    (one : ∀ batch item site batch' site', (step batch item).run.run site = (.ok batch',site') →
      ∃ fate, handle item site fate site' ∧ batch' = batch.add fate)
    (items : List α) (batch batch' : Batch) (site site' : Site ρ)
    (ok : (items.foldlM step batch).run.run site = (.ok batch',site')) :
    ∃ fates, Handled handle items site fates site' ∧ batch' = batch.addAll fates := by
  induction items generalizing batch site with
  | nil =>
    cases ok
    exact ⟨[],.nil site',by simp [Batch.addAll,values,lines]⟩
  | cons item items ih =>
    rw [List.foldlM_cons] at ok
    obtain ⟨next,site₁,first,rest⟩ := run_bind_success _ _ _ _ _ ok
    obtain ⟨fate,head,rfl⟩ := one batch item site next site₁ first
    obtain ⟨fates,tail,rfl⟩ := ih (batch.add fate) site₁ rest
    exact ⟨fate :: fates,.cons item site fate site₁ items fates site' head tail,(addAll_cons batch fate fates).symm⟩

theorem ended_success (batch batch' : Batch) (fate : Fate String) (s s' : σ)
    (ok : ended batch fate s = (.ok batch',s')) : fate.isSound = true ∧ batch' = batch.add fate ∧ s' = s := by
  cases sound : fate.isSound with
  | true =>
    rw [ended_sound batch fate s sound] at ok
    cases ok
    exact ⟨rfl,rfl,rfl⟩
  | false =>
    obtain ⟨failure,stopped,_⟩ := ended_unsound batch fate s sound
    rw [stopped] at ok
    cases ok

namespace Importer

theorem installChoice_handled (r : Recommender ρ) (batch : Batch) (choice : String × String) (site : Site ρ)
    (batch' : Batch) (site' : Site ρ) (ok : (installChoice r batch choice).run.run site = (.ok batch',site')) :
    ∃ fate, ChoiceFate r choice site fate site' ∧ batch' = batch.add fate := by
  cases skipped : isSkipped choice with
  | true =>
    rw [skipped_run r batch choice site skipped] at ok
    cases ok
    exact ⟨.idle,.skipped site skipped,rfl⟩
  | false =>
    rw [chosen_run r batch choice site skipped] at ok
    cases answer : r.isActive choice.2 site with
    | error failure =>
      rw [answer] at ok
      cases ok
    | ok active =>
      rw [answer] at ok
      cases active with
      | true =>
        cases ok
        exact ⟨.idle,.active site answer,rfl⟩
      | false =>
        dsimp only at ok
        rw [withOutcome_ended] at ok
        obtain ⟨sound,rfl,rfl⟩ := ended_success _ _ _ _ _ ok
        refine ⟨_,?_,rfl⟩
        generalize ran : (installPlugin r choice.2).run.run site = outcome at sound ⊢
        obtain ⟨failure | _,left⟩ := outcome
        · exact .refused site left failure answer ran sound
        · exact .installed site left answer ran

theorem importImage_handled (i : Importer ρ) (batch : Batch) (image : Project.AssetFile) (site : Site ρ)
    (batch' : Batch) (site' : Site ρ) (ok : (i.importImage batch image).run.run site = (.ok batch',site')) :
    ∃ fate, ImageFate i.media image site fate site' ∧ batch' = batch.add fate := by
  rw [importImage_ended,imageWork_run] at ok
  obtain ⟨sound,rfl,rfl⟩ := ended_success _ _ _ _ _ ok
  refine ⟨_,?_,rfl⟩
  cases path : Cache.Store.imagePath image with
  | error fault =>
    rw [path] at sound
    cases sound
  | ok file =>
    rw [path] at sound
    dsimp only at sound ⊢
    generalize ran : i.media.add file image.name site = outcome at sound ⊢
    obtain ⟨failure | id,left⟩ := outcome
    · exact .refused site left file failure path ran sound
    · exact .taken site left file id path ran

/-- An image with its fate is what a batch does with it. -/
theorem importImage_run (i : Importer ρ) (batch : Batch) (image : Project.AssetFile) (site site' : Site ρ)
    (fate : Fate String) (handled : ImageFate i.media image site fate site') :
    (i.importImage batch image).run.run site = (.ok (batch.add fate),site') := by
  rw [importImage_ended,imageWork_run]
  cases handled with
  | taken _ _ _ path added =>
    rw [path]
    dsimp only
    rw [added]
    rfl
  | refused _ _ _ path ended reported =>
    rw [path]
    dsimp only
    rw [ended]
    exact ended_sound batch _ _ reported

theorem sourceText_success (page : Project.SourceFile) (chars : List Char)
    (ok : Page.sourceText page = .ok chars) : ∃ source, page.content = .str source ∧ chars = source.toList := by
  unfold Page.sourceText at ok
  split at ok
  next source content => exact ⟨source,content,(Except.ok.inj ok).symm⟩
  next => cases ok

/-- One page that does not end the work: its source was translated, and the store was asked once. -/
theorem publishPage_success (store : DocumentStore σ) (settings : Table Value) (page : Project.SourceFile)
    (s s' : σ) (drawn drawn' : Nat) (answer : Except Failure Page.Published)
    (ok : (Page.publishPage store settings "draft" page).run.run (s,drawn) = (.ok answer,(s',drawn'))) :
    ∃ source tree result, page.content = .str source ∧
      (Page.translate source.toList).run.run drawn = (.ok tree,drawn') ∧
      store.create (documentOf settings page tree) s = (result,s') ∧
      answer = result.map fun id => ⟨page.name,id,tree.length⟩ := by
  obtain ⟨tree,⟨s₁,drawn₁⟩,built,asked⟩ := run_bind_success _ _ _ _ _ ok
  obtain ⟨result,⟨s₂,drawn₂⟩,stepped,given⟩ := run_bind_success _ _ _ _ _ asked
  cases stepped
  cases given
  rw [Page.ofBuild_run] at built
  obtain ⟨given,ended⟩ := Prod.mk.inj built
  obtain ⟨rfl,left⟩ := Prod.mk.inj ended
  have ran : (do Page.translate (← (Page.sourceText page : Except Fault _)) :
      Document.Build (List Node)).run.run drawn = (.ok tree,drawn') := Prod.ext given left
  obtain ⟨chars,drawn₁,read,translated⟩ := run_bind_success _ _ _ _ _ ran
  cases text : Page.sourceText page with
  | error fault =>
    rw [text] at read
    cases read
  | ok chars' =>
    rw [text] at read
    cases read
    obtain ⟨source,content,rfl⟩ := sourceText_success page chars text
    exact ⟨source,tree,_,content,translated,rfl,rfl⟩

/-- A page whose source can be translated is handed to the store. -/
theorem publishPage_run (store : DocumentStore σ) (settings : Table Value) (page : Project.SourceFile)
    (s : σ) (drawn drawn' : Nat) (source : String) (tree : List Node) (content : page.content = .str source)
    (translated : (Page.translate source.toList).run.run drawn = (.ok tree,drawn')) :
    (Page.publishPage store settings "draft" page).run.run (s,drawn) =
      (.ok ((store.create (documentOf settings page tree) s).1.map fun id => ⟨page.name,id,tree.length⟩),
        ((store.create (documentOf settings page tree) s).2,drawn')) := by
  have text : Page.sourceText page = .ok source.toList := by
    unfold Page.sourceText
    rw [content]
  have built : (do Page.translate (← (Page.sourceText page : Except Fault _)) :
      Document.Build (List Node)).run.run drawn = (.ok tree,drawn') := by
    rw [run_bind,text]
    exact translated
  unfold Page.publishPage
  rw [run_bind,Page.ofBuild_run,built]
  rfl

end Importer

end Pagewright.Import
