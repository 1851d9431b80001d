import Pagewright.Proofs.Detection.Ranking

/-! Counts over the functionalities of a project. What is active on the host is installed there, whichever way the two
are asked, so the counts can only go down from what is needed to what is active. -/
namespace Pagewright.Detection.Recommender
open Host (RegistryFile Site)

/-- Counts that go together, over so many candidates. -/
structure Stats.Coherent (stats : Stats) (candidates : Nat) : Prop where
  active : stats.active ≤ stats.installed
  installed : stats.installed ≤ stats.needed
  split : stats.needed + stats.native = candidates

variable {ρ : Type} (r : Recommender ρ) (site : Site ρ)

/-- Whether there is a candidate for a functionality. -/
def offers (key : String) : Bool := ((r.signatures.get? key).map fun signature => !signature.solutions.isEmpty).getD false

theorem offers_iff (key : String) : r.offers key = true ↔
    ∃ signature, r.signatures.get? key = some signature ∧ signature.solutions ≠ [] := by
  unfold offers
  cases r.signatures.get? key <;> simp

section Choosing

variable (key : String)

theorem solutionsFor_unlisted (unlisted : r.signatures.get? key = none) : r.solutionsFor key site = .ok [] := by
  unfold solutionsFor
  rw [unlisted]

/-- Something comes out exactly where something is offered. -/
theorem solutionsFor_offers (ranked : List Candidate) (ok : r.solutionsFor key site = .ok ranked) :
    ranked ≠ [] ↔ r.offers key = true := by
  rw [offers_iff]
  cases listed : r.signatures.get? key with
  | none =>
    rw [r.solutionsFor_unlisted site key listed] at ok
    cases ok
    simp
  | some signature =>
    obtain ⟨proActive,stamped,_,each,rfl⟩ := (r.solutionsFor_iff site key signature listed ranked).mp ok
    have part := r.coverage.kept_sublist proActive key signature.solutions
    have proper := r.coverage.kept_ne_nil proActive key signature.solutions
    have sizes : (stamped.mergeSort (Candidate.before proActive)).length =
        (r.coverage.kept proActive key signature.solutions).length :=
      (List.mergeSort_perm stamped _).length_eq.trans each.length_eq.symm
    rw [← List.length_pos_iff,sizes,List.length_pos_iff]
    constructor
    · exact fun kept => ⟨signature,rfl,fun none => kept (List.sublist_nil.mp (none ▸ part))⟩
    · rintro ⟨_,same,offered⟩
      cases same
      exact proper offered

theorem preferred_success (choice : Option Candidate) (ok : r.preferred key site = .ok choice) :
    ∃ ranked, r.solutionsFor key site = .ok ranked ∧ (∀ c ∈ choice, c ∈ ranked) ∧ (choice = none ↔ ranked = []) := by
  obtain ⟨ranked,found,ok⟩ := except_bind_success _ _ _ ok
  obtain ⟨saved,_,ok⟩ := except_bind_success _ _ _ ok
  have chosen := Except.ok.inj ok
  refine ⟨ranked,found,?_⟩
  cases wanted : ((saved.get? key).filter (!·.isEmpty)).bind fun slug => ranked.find? (·.slug == slug) with
  | none =>
    rw [wanted] at chosen
    subst chosen
    exact ⟨fun c first => List.mem_of_mem_head? first,by simp⟩
  | some c =>
    rw [wanted] at chosen
    subst chosen
    obtain ⟨slug,_,there⟩ := Option.bind_eq_some_iff.mp wanted
    have member := List.mem_of_find?_eq_some there
    refine ⟨fun _ same => by cases same; exact member,by simp,fun empty => ?_⟩
    rw [empty] at member
    cases member

theorem preferred_returns : (∃ choice, r.preferred key site = .ok choice) ↔
    (∃ ranked, r.solutionsFor key site = .ok ranked) ∧ ∃ saved, r.savedPreferences site = .ok saved := by
  constructor
  · rintro ⟨choice,ok⟩
    obtain ⟨ranked,found,ok⟩ := except_bind_success _ _ _ ok
    obtain ⟨saved,loaded,_⟩ := except_bind_success _ _ _ ok
    exact ⟨⟨ranked,found⟩,saved,loaded⟩
  · rintro ⟨⟨ranked,found⟩,saved,loaded⟩
    unfold preferred
    rw [found]
    dsimp only [bind,Except.bind]
    rw [loaded]
    exact ⟨_,rfl⟩

end Choosing

section Counting

theorem add_coherent (stats : Stats) (candidates : Nat) (coherent : Stats.Coherent stats candidates)
    (choice : Option Candidate) (implied : ∀ c ∈ choice, c.active = true → c.installed = true) :
    Stats.Coherent (stats.add choice) (candidates + choice.toList.length) := by
  obtain ⟨active,installed,split⟩ := coherent
  cases choice with
  | none => exact ⟨active,installed,split⟩
  | some c =>
    have there := implied c rfl
    unfold Stats.add
    dsimp only [Option.toList,List.length]
    split
    · exact ⟨active,installed,by dsimp only; omega⟩
    · refine ⟨?_,?_,by dsimp only; omega⟩
      · dsimp only
        cases on : c.active with
        | false => simp; omega
        | true => simp [there on]; omega
      · dsimp only
        split <;> omega

theorem add_total (stats : Stats) (choice : Option Candidate) : (stats.add choice).total = stats.total := by
  unfold Stats.add
  split
  · rfl
  · split <;> rfl

end Counting

section Registered

variable (file : RegistryFile) (registered : r.registry = some (file.onSite ρ))
include registered

/-- A slug that is active is installed, whichever way the two are known. -/
theorem installed_of_active (slug : String) (installed : Bool) (asked : r.isInstalled slug site = .ok installed)
    (active : r.isActive slug site = .ok true) : installed = true := by
  by_cases native : nativeSlugs.contains slug = true
  · rw [r.isInstalled_native slug site native] at asked
    exact (Except.ok.inj asked).symm
  · by_cases pro : (slug == proSlug) = true
    · unfold isInstalled at asked
      unfold isActive at active
      rw [if_neg native,if_pos pro] at asked active
      rw [r.isProDefined_file file registered] at asked
      rw [r.isProActive_file file registered] at active
      -- An override that is on answers both questions; one that is off answers the second with no.
      cases fixed : r.proOverride with
      | none =>
        rw [fixed] at asked active
        have defined := file.proDefined_of_proActive site.files active
        exact Except.ok.inj (asked.symm.trans defined)
      | some fixedActive =>
        rw [fixed] at asked active
        cases active
        exact (Except.ok.inj asked).symm
    · have ordinary : Ordinary slug := ⟨eq_false_of_ne_true native,eq_false_of_ne_true pro⟩
      rw [r.isInstalled_file file slug site registered ordinary] at asked
      rw [r.isActive_file file slug site registered ordinary] at active
      exact Except.ok.inj (asked.symm.trans (file.isInstalled_of_isActive slug site.files active))

theorem solutions_implied (key : String) (ranked : List Candidate) (ok : r.solutionsFor key site = .ok ranked)
    (c : Candidate) (member : c ∈ ranked) (active : c.active = true) : c.installed = true := by
  cases listed : r.signatures.get? key with
  | none =>
    rw [r.solutionsFor_unlisted site key listed] at ok
    cases ok
    cases member
  | some signature =>
    obtain ⟨proActive,stamped,_,each,rfl⟩ := (r.solutionsFor_iff site key signature listed ranked).mp ok
    obtain ⟨kept,_,installed,on,there,asked,rfl⟩ := (forall₂_partner each).2 c (List.mem_mergeSort.mp member)
    obtain rfl : on = true := active
    exact r.installed_of_active site file registered kept.slug installed there asked

/-- What one more functionality adds to the counts. -/
theorem step_coherent (key : String) (stats stats' : Stats) (candidates : Nat)
    (coherent : Stats.Coherent stats candidates)
    (ok : (do return stats.add (← r.preferred key site) : Except Failure Stats) = .ok stats') :
    Stats.Coherent stats' (candidates + (if r.offers key then 1 else 0)) ∧ stats'.total = stats.total := by
  obtain ⟨choice,chosen,ok⟩ := except_bind_success _ _ _ ok
  cases Except.ok.inj ok
  obtain ⟨ranked,found,member,none⟩ := r.preferred_success site key choice chosen
  have more := add_coherent stats candidates coherent choice fun c there =>
    r.solutions_implied site file registered key ranked found c (member c there)
  have offered := r.solutionsFor_offers site key ranked found
  refine ⟨?_,add_total stats choice⟩
  cases choice with
  | none =>
    have nothing : r.offers key = false := eq_false_of_ne_true fun some => offered.mpr some (none.mp rfl)
    rw [nothing]
    exact more
  | some c =>
    have something : r.offers key = true := offered.mp fun empty => by cases none.mpr empty
    rw [something]
    exact more

/-- The counts over functionalities, from any counts on. -/
theorem stats_coherent (keys : List String) (stats stats' : Stats) (candidates : Nat)
    (coherent : Stats.Coherent stats candidates)
    (ok : keys.foldlM (fun stats key => do return stats.add (← r.preferred key site)) stats = .ok stats') :
    Stats.Coherent stats' (candidates + keys.countP r.offers) ∧ stats'.total = stats.total := by
  induction keys generalizing stats candidates with
  | nil =>
    cases ok
    exact ⟨coherent,rfl⟩
  | cons key keys ih =>
    rw [List.foldlM_cons] at ok
    obtain ⟨next,first,rest⟩ := except_bind_success _ _ _ ok
    obtain ⟨coherent,total⟩ := r.step_coherent site file registered key stats next candidates coherent first
    obtain ⟨coherent',total'⟩ := ih next _ coherent rest
    rw [List.countP_cons,Nat.add_comm (keys.countP _),← Nat.add_assoc]
    exact ⟨coherent',total'.trans total⟩

end Registered

/-- The counts are there exactly where each functionality has a preferred candidate or none. -/
theorem stats_returns (keys : List String) : (∃ stats, r.stats keys site = .ok stats) ↔
    ∀ key ∈ keys, ∃ choice, r.preferred key site = .ok choice := by
  unfold stats
  generalize (⟨keys.length,0,0,0,0⟩ : Stats) = start
  induction keys generalizing start with
  | nil => simp [pure,Except.pure]
  | cons key keys ih =>
    rw [List.foldlM_cons,List.forall_mem_cons]
    cases chosen : r.preferred key site with
    | error failure => simp [bind,Except.bind]
    | ok choice =>
      rw [← ih (start.add choice)]
      simp [bind,Except.bind,pure,Except.pure]

/-- How the counts over functionalities stand on a site with a registry file. -/
structure Counts (file : RegistryFile) (keys : List String) : Prop where
  implied : ∀ key ranked, r.solutionsFor key site = .ok ranked →
    ∀ c ∈ ranked, c.active = true → c.installed = true
  ordered : ∀ stats, r.stats keys site = .ok stats → stats.active ≤ stats.installed ∧
    stats.installed ≤ stats.needed ∧ stats.needed + stats.native ≤ stats.total ∧ stats.total = keys.length
  complete : ∀ stats, r.stats keys site = .ok stats → (stats.needed + stats.native = stats.total ↔
    ∀ key ∈ keys, ∃ signature, r.signatures.get? key = some signature ∧ signature.solutions ≠ [])
  returns : ∀ saved, r.savedPreferences site = .ok saved → ((∃ stats, r.stats keys site = .ok stats) ↔
    ∀ key ∈ keys, ∀ signature, r.signatures.get? key = some signature → r.Answered site key signature.solutions)
  tabular : ∀ data, file.load site.files = .ok data → RegistryFile.Tabular data →
    ∀ key (signature : Signature), r.Answered site key signature.solutions

end Pagewright.Detection.Recommender
