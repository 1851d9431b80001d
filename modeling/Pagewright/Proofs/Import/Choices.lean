import Pagewright.Proofs.Import.Plugins

/-! The choices of an import. A choice is idle, goes through, or is refused with nothing changed; when
the same choices are made again, those that went through are idle and those refused are refused again or
idle. -/
namespace Pagewright.Import.Importer
open Detection (Recommender proSlug)
open Detection.Recommender (Ordinary reportedBy stepped)
open Host (RegistryFile Site SiteWork)

variable {ρ : Type} (file : RegistryFile) (r : Recommender ρ)

section Plugins

variable (registered : r.registry = some (file.onSite ρ)) (slug : String) (site : Site ρ)
  (ordinary : Ordinary slug)
include registered ordinary

/-- An installed slug that is not active comes down to its activation. -/
theorem installPlugin_there (inactive : file.isActive slug site.files = .ok false)
    (there : file.isInstalled slug site.files = .ok true) :
    (installPlugin r slug).run.run site = stepped site (file.activated slug site.files) := by
  have there' := r.isInstalled_file file slug site registered ordinary
  have inactive' := r.isActive_file file slug site registered ordinary
  rw [there] at there'
  rw [inactive] at inactive'
  unfold installPlugin
  rw [run_bind,r.install_run file slug site registered ordinary.notNative,there']
  dsimp only
  rw [r.activate_run file slug site registered ordinary.notNative,inactive']
  dsimp only
  rw [there]

/-- A slug that is refused is not activated. -/
theorem installPlugin_refused (missing : file.isInstalled slug site.files = .ok false) (failure : Failure)
    (refused : file.installed slug site.files = .error failure) :
    (installPlugin r slug).run.run site = (.error (reportedBy "file" failure),site) := by
  have missing' := r.isInstalled_file file slug site registered ordinary
  rw [missing] at missing'
  unfold installPlugin
  rw [run_bind,r.install_run file slug site registered ordinary.notNative,missing']
  dsimp only
  rw [refused]
  rfl

/-- A slug that was not there is installed and activated. -/
theorem installPlugin_new (missing : file.isInstalled slug site.files = .ok false) (middle : FileTree)
    (installed : file.installed slug site.files = .ok middle) :
    (installPlugin r slug).run.run site = stepped (site.withFiles middle) (file.activated slug middle) := by
  have missing' := r.isInstalled_file file slug site registered ordinary
  rw [missing] at missing'
  obtain ⟨off,there,_⟩ := file.installed_then_activated slug site.files middle missing installed
  have off' := r.isActive_file file slug (site.withFiles middle) registered ordinary
  have same : (site.withFiles middle).files = middle := rfl
  rw [same,off] at off'
  unfold installPlugin
  rw [run_bind,r.install_run file slug site registered ordinary.notNative,missing']
  dsimp only
  rw [installed]
  unfold stepped
  dsimp only
  rw [r.activate_run file slug _ registered ordinary.notNative,off']
  dsimp only
  rw [same,there]
  rfl

/-- What becomes of a slug that is not active, now and when it is tried again later on. -/
theorem installPlugin_cases (inactive : file.isActive slug site.files = .ok false) :
    (∃ files, (installPlugin r slug).run.run site = (.ok (),site.withFiles files) ∧
      file.Settles site.files files ∧ file.isActive slug files = .ok true) ∨
    ∃ failure, (installPlugin r slug).run.run site = (.error failure,site) ∧
      ∀ later : Site ρ, file.Settles site.files later.files →
        file.isActive slug later.files = .ok true ∨ (file.isActive slug later.files = .ok false ∧
          (installPlugin r slug).run.run later = (.error failure,later)) := by
  obtain ⟨there,answered⟩ := file.isInstalled_answered slug site.files false inactive
  cases there with
  | true =>
    rw [installPlugin_there file r registered slug site ordinary inactive answered]
    cases change : file.activated slug site.files with
    | ok files =>
      left
      exact ⟨files,rfl,file.settles_activated slug _ files change,
        (file.activate_step RegistryFile.AnyState slug _ files change).2⟩
    | error failure =>
      right
      refine ⟨reportedBy "file" failure,rfl,fun later settles => Or.inr ?_⟩
      have closed : ¬ file.Writable site.files := by
        intro writable
        obtain ⟨files,done⟩ := file.activated_writable slug _ writable answered inactive
        rw [change] at done
        cases done
      have same := settles.still closed
      rw [← same] at inactive answered change
      rw [installPlugin_there file r registered slug later ordinary inactive answered,change]
      exact ⟨inactive,rfl⟩
  | false =>
    cases change : file.installed slug site.files with
    | ok middle =>
      left
      obtain ⟨_,_,files,done,settles⟩ := file.installed_then_activated slug _ middle answered change
      refine ⟨files,?_,settles,(file.activate_step RegistryFile.AnyState slug _ files done).2⟩
      rw [installPlugin_new file r registered slug site ordinary answered middle change,done]
      rfl
    | error failure =>
      right
      refine ⟨reportedBy "file" failure,
        installPlugin_refused file r registered slug site ordinary answered failure change,
        fun later settles => ?_⟩
      rcases file.refused_installed slug _ later.files settles answered failure change with
        active | ⟨off,missing,refused⟩
      · exact Or.inl active
      · exact Or.inr ⟨off,installPlugin_refused file r registered slug later ordinary missing failure
          refused⟩

end Plugins

/-- The line about a slug that was refused. -/
def refusedLine (slug : String) (failure : Failure) : String :=
  s!"Failed to install {slug}: {failure.message}"

/-- A batch with the outcome of a slug. -/
def withOutcome (batch : Batch) (slug : String) : Except Failure Unit × Site ρ → Except Failure Batch × Site ρ
  | (.ok (),site) => (.ok (batch.withSuccess slug),site)
  | (.error failure,site) =>
    if failure.isReported then (.ok (batch.withError (refusedLine slug failure)),site)
    else (.error failure,site)

/-- Whether there is nothing to do for a choice, whatever the plugins of the site. -/
def isSkipped (choice : String × String) : Bool := choice.2.isEmpty || choice.2 == skipSlug

section Steps

variable (batch : Batch) (choice : String × String) (site : Site ρ)

theorem skipped_run (skipped : isSkipped choice = true) :
    (installChoice r batch choice).run.run site = (.ok batch,site) := by
  unfold isSkipped at skipped
  unfold installChoice
  dsimp only
  rw [if_pos skipped]
  rfl

theorem chosen_run (chosen : isSkipped choice = false) : (installChoice r batch choice).run.run site =
    match r.isActive choice.2 site with
    | .error failure => (.error failure,site)
    | .ok true => (.ok batch,site)
    | .ok false => withOutcome batch choice.2 ((installPlugin r choice.2).run.run site) := by
  unfold isSkipped at chosen
  unfold installChoice
  dsimp only
  rw [if_neg (ne_true_of_eq_false chosen),run_bind,SiteWork.ask_run]
  rcases r.isActive choice.2 site with failure | active
  · rfl
  · cases active with
    | true => rfl
    | false =>
      dsimp only
      rw [if_neg nofun,run_bind,SiteWork.outcome_run]
      dsimp only
      rcases (installPlugin r choice.2).run.run site with ⟨failure | _,after⟩
      · unfold withOutcome reportLine
        dsimp only
        split <;> rfl
      · rfl

end Steps

/-- What work on a batch came to, where it can be done again: the slugs that it added stay active, and
done again later it adds nothing but lines that it has added now. -/
structure Settled (work : Batch → SiteWork ρ Batch) (batch batch' : Batch) (site site' : Site ρ) : Prop where
  place : site' = site.withFiles site'.files
  settles : file.Settles site.files site'.files
  report : ∃ added lines, batch' = ⟨batch.succeeded ++ added,batch.errors ++ lines⟩ ∧
    (∀ slug ∈ added, ∀ later : Site ρ, file.Settles site'.files later.files → r.isActive slug later = .ok true) ∧
    ∀ later : Site ρ, file.Settles site'.files later.files → ∃ again, again.Sublist lines ∧
      ∀ b, (work b).run.run later = (.ok ⟨b.succeeded,b.errors ++ again⟩,later)

section Batches

variable (batch middle batch' : Batch) (site site₁ site' : Site ρ)

theorem settled_bind (first second : Batch → SiteWork ρ Batch)
    (one : Settled file r first batch middle site site₁) (two : Settled file r second middle batch' site₁ site') :
    Settled file r (fun b => first b >>= second) batch batch' site site' where
  place := by rw [two.place,one.place]; rfl
  settles := file.settles_trans _ _ _ one.settles two.settles
  report := by
    obtain ⟨added,lines,rfl,active,repeats⟩ := one.report
    obtain ⟨added',lines',rfl,active',repeats'⟩ := two.report
    refine ⟨added ++ added',lines ++ lines',by simp,?_,?_⟩
    · intro slug member later settles
      rcases List.mem_append.mp member with early | late
      · exact active slug early later (file.settles_trans _ _ _ two.settles settles)
      · exact active' slug late later settles
    · intro later settles
      obtain ⟨again,fewer,run⟩ := repeats later (file.settles_trans _ _ _ two.settles settles)
      obtain ⟨again',fewer',run'⟩ := repeats' later settles
      refine ⟨again ++ again',fewer.append fewer',fun b => ?_⟩
      rw [run_bind,run]
      dsimp only
      rw [run',List.append_assoc]

/-- Work that leaves a batch alone, now and later. -/
theorem settled_idle (work : Batch → SiteWork ρ Batch)
    (idle : ∀ later : Site ρ, file.Settles site.files later.files → ∀ b, (work b).run.run later = (.ok b,later)) :
    Settled file r work batch batch site site where
  place := rfl
  settles := file.settles_refl _
  report := by
    refine ⟨[],[],by simp,nofun,fun later settles => ⟨[],List.Sublist.refl _,fun b => ?_⟩⟩
    rw [idle later settles b,List.append_nil]

theorem settled_done (work : Batch → SiteWork ρ Batch) (slug : String) (files : FileTree)
    (settles : file.Settles site.files files)
    (stays : ∀ later : Site ρ, file.Settles files later.files →
      r.isActive slug later = .ok true ∧ ∀ b, (work b).run.run later = (.ok b,later)) :
    Settled file r work batch (batch.withSuccess slug) site (site.withFiles files) where
  place := rfl
  settles := settles
  report := by
    refine ⟨[slug],[],by simp [Batch.withSuccess],?_,fun later settles => ?_⟩
    · intro other member later settles
      rw [List.mem_singleton.mp member]
      exact (stays later settles).1
    · refine ⟨[],List.Sublist.refl _,fun b => ?_⟩
      rw [(stays later settles).2 b,List.append_nil]

theorem settled_refused (work : Batch → SiteWork ρ Batch) (line : String)
    (retry : ∀ later : Site ρ, file.Settles site.files later.files →
      (∀ b, (work b).run.run later = (.ok b,later)) ∨
        ∀ b, (work b).run.run later = (.ok (b.withError line),later)) :
    Settled file r work batch (batch.withError line) site site where
  place := rfl
  settles := file.settles_refl _
  report := by
    refine ⟨[],[line],by simp [Batch.withError],nofun,fun later settles => ?_⟩
    rcases retry later settles with idle | again
    · refine ⟨[],List.nil_sublist _,fun b => ?_⟩
      rw [idle b,List.append_nil]
    · exact ⟨[line],List.Sublist.refl _,again⟩

end Batches

section Choosing

variable (registered : r.registry = some (file.onSite ρ)) (choice : String × String)
  (kept : choice.2 = proSlug → r.proOverride = some true)
include registered kept

theorem active_later (site later : Site ρ) (settles : file.Settles site.files later.files)
    (active : r.isActive choice.2 site = .ok true) : r.isActive choice.2 later = .ok true := by
  rcases r.slug_cases choice.2 kept with always | ordinary
  · exact (always later).2
  · rw [r.isActive_file file _ _ registered ordinary] at active ⊢
    exact file.grows_isActive settles.grows _ active

omit registered kept in
theorem installChoice_active (b : Batch) (site : Site ρ) (active : r.isActive choice.2 site = .ok true) :
    (installChoice r b choice).run.run site = (.ok b,site) := by
  cases kind : isSkipped choice with
  | true => exact skipped_run r b choice site kind
  | false => rw [chosen_run r b choice site kind,active]

omit kept in
/-- A choice whose slug is not active comes to an end: its plugin is active, or it is refused again. -/
theorem inactive_settled (batch batch' : Batch) (site site' : Site ρ) (ordinary : Ordinary choice.2)
    (chosen : isSkipped choice = false)
    (inactive : file.isActive choice.2 site.files = .ok false)
    (ok : withOutcome batch choice.2 ((installPlugin r choice.2).run.run site) = (.ok batch',site')) :
    Settled file r (installChoice r · choice) batch batch' site site' := by
  have asked := fun later : Site ρ => r.isActive_file file choice.2 later registered ordinary
  rcases installPlugin_cases file r registered choice.2 site ordinary inactive with
    ⟨files,run,settles,active⟩ | ⟨failure,run,retry⟩
  · rw [run] at ok
    cases ok
    refine settled_done file r batch site _ choice.2 files settles fun later further => ?_
    have still : r.isActive choice.2 later = .ok true := by
      rw [asked]
      exact file.grows_isActive further.grows _ active
    exact ⟨still,fun b => installChoice_active r choice b later still⟩
  · rw [run] at ok
    by_cases reported : failure.isReported = true
    · have line := (if_pos reported).symm.trans ok
      cases line
      refine settled_refused file r batch site _ _ fun later settles => ?_
      rcases retry later settles with active | ⟨off,run'⟩
      · exact Or.inl fun b => installChoice_active r choice b later ((asked later).trans active)
      · right
        intro b
        rw [chosen_run r b choice later chosen,asked,off]
        dsimp only
        rw [run']
        exact if_pos reported
    · have raised := (if_neg reported).symm.trans ok
      cases raised

/-- A choice that comes to an end settles. -/
theorem installChoice_settled (batch batch' : Batch) (site site' : Site ρ)
    (ok : (installChoice r batch choice).run.run site = (.ok batch',site')) :
    Settled file r (installChoice r · choice) batch batch' site site' := by
  cases kind : isSkipped choice with
  | true =>
    rw [skipped_run r batch choice site kind] at ok
    cases ok
    exact settled_idle file r batch site _ fun later _ b => skipped_run r b choice later kind
  | false =>
    rw [chosen_run r batch choice site kind] at ok
    cases answer : r.isActive choice.2 site with
    | error failure => rw [answer] at ok; cases ok
    | ok active =>
      rw [answer] at ok
      cases active with
      | true =>
        cases ok
        refine settled_idle file r batch site _ fun later settles b => ?_
        exact installChoice_active r choice b later
          (active_later file r registered choice kept site later settles answer)
      | false =>
        rcases r.slug_cases choice.2 kept with always | ordinary
        · rw [(always site).2] at answer
          cases answer
        · rw [r.isActive_file file _ _ registered ordinary] at answer
          exact inactive_settled file r registered choice batch batch' site site' ordinary kind answer ok

end Choosing

/-- Choices that come to an end settle, one after the other. -/
theorem choices_settled (registered : r.registry = some (file.onSite ρ)) (choices : Table String)
    (kept : ∀ choice ∈ choices, choice.2 = proSlug → r.proOverride = some true) (batch batch' : Batch)
    (site site' : Site ρ)
    (ok : (choices.foldlM (installChoice r) batch).run.run site = (.ok batch',site')) :
    Settled file r (choices.foldlM (installChoice r)) batch batch' site site' := by
  induction choices generalizing batch site with
  | nil =>
    cases ok
    exact settled_idle file r batch' site' _ fun later _ b => rfl
  | cons choice rest ih =>
    rw [List.foldlM_cons,run_bind] at ok
    cases first : (installChoice r batch choice).run.run site with
    | mk outcome site₁ =>
      rw [first] at ok
      cases outcome with
      | error failure => cases ok
      | ok middle =>
        have one := installChoice_settled file r registered choice (kept choice List.mem_cons_self) _ _ _ _
          first
        have two := ih (fun other member => kept other (List.mem_cons_of_mem choice member)) middle site₁ ok
        exact settled_bind file r batch middle batch' site site₁ site' _ _ one two

end Pagewright.Import.Importer
