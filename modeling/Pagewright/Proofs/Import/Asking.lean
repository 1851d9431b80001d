import Pagewright.Proofs.Import.Fates
import Pagewright.Proofs.Registry.Answers

/-! The plugins of an import and a registry file that cannot be read. A choice that has the registry asked
ends the batch then; any other trouble with a plugin is accounted for, or is a fault. -/
namespace Pagewright.Detection.Recommender
open Host (RegistryFile Site SiteWork)

variable {ρ : Type} (file : RegistryFile) (r : Recommender ρ) (slug : String)

/-- Whether the registry is asked for a slug is active. -/
def Asks : Prop := nativeSlugs.contains slug = false ∧ (slug = proSlug → r.proOverride = none)

theorem isActive_unasked (unasked : ¬ r.Asks slug) : ∃ active, ∀ site, r.isActive slug site = .ok active := by
  by_cases native : nativeSlugs.contains slug = true
  · exact ⟨true,fun site => r.isActive_native slug site native⟩
  · by_cases pro : slug = proSlug
    · cases fixed : r.proOverride with
      | none => exact absurd ⟨eq_false_of_ne_true native,fun _ => fixed⟩ unasked
      | some active =>
        refine ⟨active,fun site => ?_⟩
        rw [pro]
        unfold isActive isProActive
        rw [fixed]
        rfl
    · exact absurd ⟨eq_false_of_ne_true native,fun same => absurd same pro⟩ unasked

section Registered

variable (registered : r.registry = some (file.onSite ρ))
include registered

/-- Where the registry is asked, its sections are loaded and give the answer. -/
theorem isActive_asked (asked : r.Asks slug) : ∃ answer : Table Value → Except Failure Bool,
    (∀ data, Silent (answer data)) ∧ ∀ site, r.isActive slug site = file.load site.files >>= answer := by
  by_cases pro : slug = proSlug
  · refine ⟨RegistryFile.proIn,RegistryFile.proIn_silent,fun site => ?_⟩
    rw [pro]
    have same : r.isActive proSlug site = file.proActive site.files := by
      unfold isActive isProActive askRegistry
      rw [asked.2 pro,registered]
      rfl
    exact same.trans (file.proActive_split site.files)
  · refine ⟨(RegistryFile.activeIn · slug),fun data => RegistryFile.activeIn_silent data slug,fun site => ?_⟩
    rw [r.isActive_file file slug site registered ⟨asked.1,beq_false_of_ne pro⟩]
    exact file.isActive_split slug site.files

theorem isActive_silent (site : Site ρ) (readable : r.Asks slug → ¬ file.Unreadable site.files) :
    Silent (r.isActive slug site) := by
  by_cases asked : r.Asks slug
  · obtain ⟨answer,silent,same⟩ := r.isActive_asked file slug registered asked
    rw [same]
    exact file.question_refused site.files answer silent (readable asked)
  · obtain ⟨active,same⟩ := r.isActive_unasked slug asked
    rw [same]
    exact silent_ok active

theorem isActive_unreadable (site : Site ρ) (asked : r.Asks slug) (cause : Fault)
    (refused : file.load site.files = .error (file.unreadable cause)) :
    r.isActive slug site = .error (file.unreadable cause) := by
  obtain ⟨answer,_,same⟩ := r.isActive_asked file slug registered asked
  rw [same,refused]
  rfl

/-- Where the pro tier is fixed not to be active, the registry is still asked whether it is there. -/
theorem isInstalled_unreadable (site : Site ρ) (unasked : ¬ r.Asks slug)
    (inactive : r.isActive slug site = .ok false) (cause : Fault)
    (refused : file.load site.files = .error (file.unreadable cause)) :
    nativeSlugs.contains slug = false ∧ r.isInstalled slug site = .error (file.unreadable cause) := by
  have notNative : nativeSlugs.contains slug = false := by
    refine eq_false_of_ne_true fun native => ?_
    rw [r.isActive_native slug site native] at inactive
    cases inactive
  refine ⟨notNative,?_⟩
  by_cases pro : slug = proSlug
  · subst pro
    have defined : file.proDefined site.files = .error (file.unreadable cause) := by
      unfold RegistryFile.proDefined
      rw [refused]
      rfl
    have notFixed : r.proOverride ≠ some true := by
      intro fixed
      rw [r.isActive_fixed site fixed] at inactive
      cases inactive
    unfold isInstalled isProDefined askRegistry
    rw [notNative,registered]
    match fixed : r.proOverride,notFixed with
    | none,_ => exact defined
    | some false,_ => exact defined
  · exact absurd ⟨notNative,fun same => absurd same pro⟩ unasked

/-- A step leaves the files alone or a registry that can be loaded. -/
def Leaves (file : RegistryFile) (site site' : Site ρ) : Prop :=
  site'.files = site.files ∨ ∃ data, file.load site'.files = .ok data

omit registered in
theorem stepped_leaves (site : Site ρ) (change : Except Failure FileTree)
    (loads : ∀ files, change = .ok files → ∃ data, file.load files = .ok data) :
    Leaves file site (stepped site change).2 := by
  cases change with
  | error failure => exact Or.inl rfl
  | ok files => exact Or.inr (loads files rfl)

omit registered in
theorem installed_loads (files files' : FileTree) (ok : file.installed slug files = .ok files') :
    ∃ data, file.load files' = .ok data := by
  obtain ⟨data,loaded,_⟩ := file.installed_success slug files files' ok
  obtain ⟨data',loaded',_⟩ := (file.install_step RegistryFile.AnyState slug files files' trivial ok).1 data loaded
  exact ⟨data',loaded'⟩

omit registered in
theorem activated_loads (files files' : FileTree) (ok : file.activated slug files = .ok files') :
    ∃ data, file.load files' = .ok data := by
  obtain ⟨data,_,loaded,_⟩ := file.activated_success slug files files' ok
  obtain ⟨data',loaded',_⟩ := (file.activate_step RegistryFile.AnyState slug files files' ok).1 data loaded
  exact ⟨data',loaded'⟩

theorem install_leaves (site : Site ρ) : Leaves file site ((r.install slug).run.run site).2 := by
  by_cases native : nativeSlugs.contains slug = true
  · unfold install
    rw [if_pos native]
    exact Or.inl rfl
  · rw [r.install_run file slug site registered (eq_false_of_ne_true native)]
    rcases r.isInstalled slug site with failure | _ | _
    · exact Or.inl rfl
    · exact stepped_leaves file site _ fun files => installed_loads file slug site.files files
    · exact Or.inl rfl

theorem activate_leaves (site : Site ρ) : Leaves file site ((r.activate slug).run.run site).2 := by
  by_cases native : nativeSlugs.contains slug = true
  · unfold activate
    rw [if_pos native]
    exact Or.inl rfl
  · rw [r.activate_run file slug site registered (eq_false_of_ne_true native)]
    rcases r.isActive slug site with failure | _ | _
    · exact Or.inl rfl
    · dsimp only
      rcases file.isInstalled slug site.files with failure | _ | _
      · exact Or.inl rfl
      · exact Or.inl rfl
      · exact stepped_leaves file site _ fun files => activated_loads file slug site.files files
    · exact Or.inl rfl

end Registered

end Pagewright.Detection.Recommender

namespace Pagewright.Import.Importer
open Detection (Recommender nativeSlugs proSlug)
open Detection.Recommender (Leaves stepped)
open Host (RegistryFile Site SiteWork)

variable {ρ : Type} (file : RegistryFile) (r : Recommender ρ)

/-- Whether a choice has the registry asked for its slug. -/
def AsksFor (choice : String × String) : Prop := isSkipped choice = false ∧ r.Asks choice.2

theorem choiceWork_run (choice : String × String) (site : Site ρ) : (choiceWork r choice.2).run.run site =
    if isSkipped choice then (.ok none,site)
    else match r.isActive choice.2 site with
      | .error failure => (.error failure,site)
      | .ok true => (.ok none,site)
      | .ok false => (((installPlugin r choice.2).run.run site).1.map fun _ => some choice.2,
          ((installPlugin r choice.2).run.run site).2) := by
  unfold choiceWork isSkipped
  split
  · rfl
  · rw [run_bind,SiteWork.ask_run]
    rcases r.isActive choice.2 site with failure | _ | _
    · rfl
    · dsimp only
      rw [if_neg nofun,run_bind]
      rcases (installPlugin r choice.2).run.run site with ⟨_ | _,_⟩ <;> rfl
    · rfl

theorem withOutcome_ended (batch : Batch) (slug : String) (ran : Except Failure Unit × Site ρ) :
    withOutcome batch slug ran =
      ended batch (Fate.of (refusedLine slug) (ran.1.map fun _ => some slug)) ran.2 := by
  rcases ran with ⟨_ | _,_⟩ <;> rfl

/-- A choice does with its slug what is tried, unless the registry refuses to say whether it is active. -/
theorem installChoice_ended (batch : Batch) (choice : String × String) (site : Site ρ)
    (silent : isSkipped choice = false → Silent (r.isActive choice.2 site)) : (installChoice r batch choice).run.run site =
      ended batch (Fate.of (refusedLine choice.2) ((choiceWork r choice.2).run.run site).1)
        ((choiceWork r choice.2).run.run site).2 := by
  rw [choiceWork_run]
  cases skipped : isSkipped choice with
  | true => exact skipped_run r batch choice site skipped
  | false =>
    rw [chosen_run r batch choice site skipped,if_neg nofun]
    cases answer : r.isActive choice.2 site with
    | error failure =>
      have unreported := silent skipped failure answer
      dsimp only [Fate.of,ended]
      rw [unreported]
      rfl
    | ok active =>
      cases active with
      | true => rfl
      | false => exact withOutcome_ended batch choice.2 _

section Registered

variable (registered : r.registry = some (file.onSite ρ))
include registered

theorem installPlugin_leaves (slug : String) (site : Site ρ) :
    Leaves file site ((installPlugin r slug).run.run site).2 := by
  have first := r.install_leaves file slug registered site
  unfold installPlugin
  rw [run_bind]
  generalize (r.install slug).run.run site = ran at first
  rcases ran with ⟨failure | _,site₁⟩
  · exact first
  · rcases r.activate_leaves file slug registered site₁ with same | loads
    · unfold Leaves
      dsimp only
      rw [same]
      exact first
    · exact Or.inr loads

theorem choiceWork_leaves (choice : String × String) (site : Site ρ) :
    Leaves file site ((choiceWork r choice.2).run.run site).2 := by
  rw [choiceWork_run]
  split
  · exact Or.inl rfl
  · rcases r.isActive choice.2 site with failure | _ | _
    · exact Or.inl rfl
    · exact installPlugin_leaves file r registered choice.2 site
    · exact Or.inl rfl

omit registered in
theorem readable_later (site site' : Site ρ) (leaves : Leaves file site site')
    (readable : ¬ file.Unreadable site.files) : ¬ file.Unreadable site'.files := by
  rcases leaves with same | ⟨data,loaded⟩
  · rw [same]
    exact readable
  · rintro ⟨cause,refused⟩
    rw [loaded] at refused
    cases refused

/-- The choices of an import follow their fates, unless one has an unreadable registry asked. -/
theorem choices_follow (choices : Table String) (site : Site ρ)
    (calm : (∃ choice ∈ choices, AsksFor r choice) → ¬ file.Unreadable site.files) :
    Follows (choices.foldlM (installChoice r) .empty)
      (choices.mapM fun choice => attempt (refusedLine choice.2) (choiceWork r choice.2))
      Batch.empty.addAll allSound site := by
  refine follows_fold _ _ (fun site => (∃ choice ∈ choices, AsksFor r choice) → ¬ file.Unreadable site.files)
    choices ?_ ?_ .empty site calm
  · intro choice member batch site calm
    have readable := fun chosen asked => calm ⟨choice,member,chosen,asked⟩
    exact follows_attempt _ batch _ _ site (installChoice_ended r batch choice site fun chosen =>
      r.isActive_silent file choice.2 registered site (readable chosen))
  · intro choice member site fate site' calm tried asked
    rw [attempt_run] at tried
    cases tried
    exact readable_later file site _ (choiceWork_leaves file r registered choice site) (calm asked)

/-- A choice that does not have the registry asked leaves a site with an unreadable one alone. -/
theorem unasked_still (choice : String × String) (batch : Batch) (site : Site ρ)
    (unasked : ¬ AsksFor r choice) (unreadable : file.Unreadable site.files) :
    ∃ batch', (installChoice r batch choice).run.run site = (.ok batch',site) := by
  cases skipped : isSkipped choice with
  | true => exact ⟨batch,skipped_run r batch choice site skipped⟩
  | false =>
    have unasked : ¬ r.Asks choice.2 := fun asks => unasked ⟨skipped,asks⟩
    rw [chosen_run r batch choice site skipped]
    obtain ⟨active,answer⟩ := r.isActive_unasked choice.2 unasked
    rw [answer]
    cases active with
    | true => exact ⟨batch,rfl⟩
    | false =>
      obtain ⟨cause,refused⟩ := unreadable
      obtain ⟨notNative,installed⟩ :=
        r.isInstalled_unreadable file choice.2 registered site unasked (answer site) cause refused
      have tried : (installPlugin r choice.2).run.run site = (.error (file.unreadable cause),site) := by
        unfold installPlugin
        rw [run_bind,r.install_run file choice.2 site registered notNative,installed]
      exact ⟨_,by rw [tried]; rfl⟩

/-- With an unreadable registry the batch ends where it is asked first. -/
theorem choices_blocked (choices : Table String) (batch : Batch) (site : Site ρ) (cause : Fault)
    (refused : file.load site.files = .error (file.unreadable cause))
    (asked : ∃ choice ∈ choices, AsksFor r choice) :
    (choices.foldlM (installChoice r) batch).run.run site = (.error (file.unreadable cause),site) := by
  induction choices generalizing batch with
  | nil => obtain ⟨_,never,_⟩ := asked; cases never
  | cons choice rest ih =>
    rw [List.foldlM_cons,run_bind]
    by_cases asks : AsksFor r choice
    · have stops : (installChoice r batch choice).run.run site = (.error (file.unreadable cause),site) := by
        rw [chosen_run r batch choice site asks.1,
          r.isActive_unreadable file choice.2 registered site asks.2 cause refused]
      rw [stops]
    · -- The site is as before, so the next choice that asks meets the same file.
      obtain ⟨batch',still⟩ := unasked_still file r registered choice batch site asks ⟨cause,refused⟩
      rw [still]
      obtain ⟨other,member,asks'⟩ := asked
      rcases List.mem_cons.mp member with rfl | later
      · exact absurd asks' asks
      · exact ih batch' ⟨other,later,asks'⟩

end Registered

end Pagewright.Import.Importer
