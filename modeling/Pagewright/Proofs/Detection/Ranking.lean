import Mathlib.Data.List.Forall2
import Pagewright.Proofs.Detection.Ordering
import Pagewright.Proofs.Import.Plugins
import Pagewright.Proofs.Registry.Answers
import Pagewright.Proofs.Registry.SlugSet

/-! The candidates for a functionality. Those kept are given the state that the host has for them and put in order, so
the list that comes out is determined by the answers of the host; without an answer there is no list. -/
namespace Pagewright

theorem except_mapM_iff {ε α β : Type} (f : α → Except ε β) (items : List α) (results : List β) :
    items.mapM f = .ok results ↔ List.Forall₂ (fun item result => f item = .ok result) items results := by
  constructor
  · intro ok
    induction items generalizing results with
    | nil => cases ok; exact .nil
    | cons item items ih =>
      obtain ⟨first,rest,head,tail,rfl⟩ := except_mapM_cons_success f item items results ok
      exact .cons head (ih rest tail)
  · intro each
    induction each with
    | nil => rfl
    | cons head _ ih => rw [List.mapM_cons,head,ih]; rfl

theorem except_mapM_refused {ε α β : Type} (f : α → Except ε β) (items : List α) (refusal : ε)
    (refused : items.mapM f = .error refusal) : ∃ item ∈ items, f item = .error refusal := by
  induction items with
  | nil => cases refused
  | cons item items ih =>
    rw [List.mapM_cons] at refused
    cases head : f item with
    | error reason =>
      rw [head] at refused
      cases refused
      exact ⟨item,List.mem_cons_self,head⟩
    | ok first =>
      rw [head] at refused
      cases tail : items.mapM f with
      | error reason =>
        rw [tail] at refused
        cases refused
        obtain ⟨other,member,found⟩ := ih tail
        exact ⟨other,List.mem_cons_of_mem item member,found⟩
      | ok rest =>
        rw [tail] at refused
        cases refused

/-- In lists that are related item by item, every item has its partner. -/
theorem forall₂_partner {α β : Type} {related : α → β → Prop} {items : List α} {others : List β}
    (each : List.Forall₂ related items others) :
    (∀ a ∈ items, ∃ b ∈ others, related a b) ∧ ∀ b ∈ others, ∃ a ∈ items, related a b := by
  induction each with
  | nil => simp
  | cons head _ ih =>
    obtain ⟨left,right⟩ := ih
    constructor
    · refine List.forall_mem_cons.mpr ⟨⟨_,List.mem_cons_self,head⟩,fun a member => ?_⟩
      obtain ⟨b,inside,same⟩ := left a member
      exact ⟨b,List.mem_cons_of_mem _ inside,same⟩
    · refine List.forall_mem_cons.mpr ⟨⟨_,List.mem_cons_self,head⟩,fun b member => ?_⟩
      obtain ⟨a,inside,same⟩ := right b member
      exact ⟨a,List.mem_cons_of_mem _ inside,same⟩

namespace Detection.Recommender
open Host (RegistryFile Site)

variable {ρ : Type} (r : Recommender ρ) (site : Site ρ) (key : String)

/-- A candidate with the state that the host has for it. -/
def Stamped (c stamped : Candidate) : Prop := ∃ installed active, r.isInstalled c.slug site = .ok installed ∧
  r.isActive c.slug site = .ok active ∧ stamped = c.withStatus installed active

theorem stamp_iff (c stamped : Candidate) : r.stamp site c = .ok stamped ↔ r.Stamped site c stamped := by
  unfold stamp Stamped
  cases r.isInstalled c.slug site with
  | error failure => simp [bind,Except.bind]
  | ok installed =>
    cases r.isActive c.slug site with
    | error failure => simp [bind,Except.bind]
    | ok active => simp [bind,Except.bind,pure,Except.pure,eq_comm]

theorem stamp_refused (c : Candidate) (failure : Failure) (refused : r.stamp site c = .error failure) :
    r.isInstalled c.slug site = .error failure ∨ r.isActive c.slug site = .error failure := by
  unfold stamp at refused
  cases installed : r.isInstalled c.slug site with
  | error reason => rw [installed] at refused; cases refused; exact .inl rfl
  | ok there =>
    rw [installed] at refused
    cases active : r.isActive c.slug site with
    | error reason => rw [active] at refused; cases refused; exact .inr rfl
    | ok on => rw [active] at refused; cases refused

/-- Whether both questions about a candidate have an answer. -/
def Known (c : Candidate) : Prop := (∃ installed, r.isInstalled c.slug site = .ok installed) ∧
  ∃ active, r.isActive c.slug site = .ok active

theorem stamp_known (c : Candidate) : (∃ stamped, r.stamp site c = .ok stamped) ↔ r.Known site c := by
  constructor
  · rintro ⟨stamped,ok⟩
    obtain ⟨installed,active,there,on,_⟩ := (r.stamp_iff site c stamped).mp ok
    exact ⟨⟨installed,there⟩,active,on⟩
  · rintro ⟨⟨installed,there⟩,active,on⟩
    exact ⟨_,(r.stamp_iff site c _).mpr ⟨installed,active,there,on,rfl⟩⟩

/-- Whether everything that the ranking asks the host has an answer. -/
def Answered (solutions : List Candidate) : Prop :=
  ∃ proActive, r.isProActive site = .ok proActive ∧ ∀ c ∈ r.coverage.kept proActive key solutions, r.Known site c

/-- Whether something that the ranking asks the host is refused in this way. -/
def Refused (solutions : List Candidate) (failure : Failure) : Prop := r.isProActive site = .error failure ∨
  ∃ c ∈ solutions, r.isInstalled c.slug site = .error failure ∨ r.isActive c.slug site = .error failure

/-- The ranking of candidates: as they are given but for their state, in the one stable order. -/
structure Ranking (proActive : Bool) (kept ranked : List Candidate) : Prop where
  ordered : ∃ stamped, List.Forall₂ (r.Stamped site) kept stamped ∧
    ∀ list, StableOrder (Candidate.before proActive) stamped list ↔ list = ranked
  unchanged : (ranked.map (·.withStatus false false)).Perm (kept.map (·.withStatus false false))

theorem ranking_mergeSort (proActive : Bool) (kept stamped : List Candidate)
    (each : List.Forall₂ (r.Stamped site) kept stamped) :
    r.Ranking site proActive kept (stamped.mergeSort (Candidate.before proActive)) where
  ordered := ⟨stamped,each,stableOrder_iff (Candidate.before_preorder proActive) stamped⟩
  unchanged := by
    have cleared : stamped.map (·.withStatus false false) = kept.map (·.withStatus false false) := by
      induction each with
      | nil => rfl
      | cons head _ ih =>
        obtain ⟨installed,active,_,_,rfl⟩ := head
        rw [List.map_cons,List.map_cons,ih]
        rfl
    rw [← cleared]
    exact (List.mergeSort_perm stamped _).map _

section Listed

variable (signature : Signature) (listed : r.signatures.get? key = some signature)
include listed

theorem solutionsFor_listed : r.solutionsFor key site = do
    let proActive ← r.isProActive site
    let stamped ← (r.coverage.kept proActive key signature.solutions).mapM (r.stamp site)
    return stamped.mergeSort (Candidate.before proActive) := by
  unfold solutionsFor
  rw [listed]
  rfl

theorem solutionsFor_iff (ranked : List Candidate) : r.solutionsFor key site = .ok ranked ↔
    ∃ proActive stamped, r.isProActive site = .ok proActive ∧
      List.Forall₂ (r.Stamped site) (r.coverage.kept proActive key signature.solutions) stamped ∧
      ranked = stamped.mergeSort (Candidate.before proActive) := by
  rw [r.solutionsFor_listed site key signature listed]
  constructor
  · intro ok
    obtain ⟨proActive,pro,ok⟩ := except_bind_success _ _ _ ok
    obtain ⟨stamped,each,ok⟩ := except_bind_success _ _ _ ok
    simp only [except_mapM_iff,stamp_iff] at each
    exact ⟨proActive,stamped,pro,each,(Except.ok.inj ok).symm⟩
  · rintro ⟨proActive,stamped,pro,each,rfl⟩
    have marked : (r.coverage.kept proActive key signature.solutions).mapM (r.stamp site) = .ok stamped := by
      simpa only [except_mapM_iff,stamp_iff] using each
    rw [pro]
    dsimp only [bind,Except.bind]
    rw [marked]
    rfl

theorem solutionsFor_answered :
    (∃ ranked, r.solutionsFor key site = .ok ranked) ↔ r.Answered site key signature.solutions := by
  constructor
  · rintro ⟨ranked,ok⟩
    obtain ⟨proActive,stamped,pro,each,_⟩ := (r.solutionsFor_iff site key signature listed ranked).mp ok
    refine ⟨proActive,pro,fun c member => ?_⟩
    obtain ⟨s,_,stamped⟩ := (forall₂_partner each).1 c member
    exact (r.stamp_known site c).mp ⟨s,(r.stamp_iff site c s).mpr stamped⟩
  · rintro ⟨proActive,pro,known⟩
    obtain ⟨stamped,each⟩ := except_mapM_total (r.stamp site) _ fun c member =>
      (r.stamp_known site c).mpr (known c member)
    simp only [except_mapM_iff,stamp_iff] at each
    exact ⟨_,(r.solutionsFor_iff site key signature listed _).mpr ⟨proActive,stamped,pro,each,rfl⟩⟩

theorem solutionsFor_refused (failure : Failure) (refused : r.solutionsFor key site = .error failure) :
    r.Refused site signature.solutions failure := by
  rw [r.solutionsFor_listed site key signature listed] at refused
  cases pro : r.isProActive site with
  | error reason =>
    rw [pro] at refused
    cases refused
    exact .inl pro
  | ok proActive =>
    rw [pro] at refused
    dsimp only [bind,Except.bind] at refused
    cases marked : (r.coverage.kept proActive key signature.solutions).mapM (r.stamp site) with
    | error reason =>
      rw [marked] at refused
      cases refused
      obtain ⟨c,member,stopped⟩ := except_mapM_refused _ _ _ marked
      exact .inr ⟨c,(r.coverage.kept_sublist proActive key _).subset member,r.stamp_refused site c _ stopped⟩
    | ok stamped =>
      rw [marked] at refused
      cases refused

end Listed

section Registered

variable (file : RegistryFile) (registered : r.registry = some (file.onSite ρ))
include registered

theorem isProActive_file (site : Site ρ) : r.isProActive site =
    match r.proOverride with
    | some active => .ok active
    | none => file.proActive site.files := by
  unfold isProActive askRegistry
  rw [registered]
  rfl

theorem isProDefined_file (site : Site ρ) : r.isProDefined site =
    match r.proOverride with
    | some true => .ok true
    | _ => file.proDefined site.files := by
  unfold isProDefined askRegistry
  rw [registered]
  rfl

section Tables

variable (data : Table Value) (loaded : file.load site.files = .ok data) (tabular : RegistryFile.Tabular data)
include loaded tabular

theorem isProActive_tabular : ∃ active, r.isProActive site = .ok active := by
  rw [r.isProActive_file file registered]
  cases r.proOverride with
  | some active => exact ⟨active,rfl⟩
  | none => exact tabular.proActive loaded

theorem isProDefined_tabular : ∃ defined, r.isProDefined site = .ok defined := by
  rw [r.isProDefined_file file registered]
  split
  · exact ⟨true,rfl⟩
  · exact tabular.proDefined loaded

theorem known_tabular (c : Candidate) : r.Known site c := by
  by_cases native : nativeSlugs.contains c.slug = true
  · exact ⟨⟨true,r.isInstalled_native _ site native⟩,true,r.isActive_native _ site native⟩
  · by_cases pro : (c.slug == proSlug) = true
    · unfold Known isInstalled isActive
      rw [if_neg native,if_neg native,if_pos pro,if_pos pro]
      exact ⟨r.isProDefined_tabular site file registered data loaded tabular,
        r.isProActive_tabular site file registered data loaded tabular⟩
    · have ordinary : Ordinary c.slug := ⟨eq_false_of_ne_true native,eq_false_of_ne_true pro⟩
      unfold Known
      rw [r.isInstalled_file file _ site registered ordinary,r.isActive_file file _ site registered ordinary]
      exact ⟨tabular.isInstalled _ loaded,tabular.isActive _ loaded⟩

theorem answered_tabular (solutions : List Candidate) : r.Answered site key solutions := by
  obtain ⟨proActive,pro⟩ := r.isProActive_tabular site file registered data loaded tabular
  exact ⟨proActive,pro,fun c _ => r.known_tabular site file registered data loaded tabular c⟩

end Tables

end Registered

section Samples

/-- A candidate of which only slug, type and fit are told. -/
def sampleCandidate (slug type : String) (compatibility : Int) : Candidate :=
  ⟨slug,.str slug,.str "",.str type,.str "free",compatibility,[],.str genericConversion,false,false⟩

def formsSignature : Signature :=
  ⟨"forms",.str "Forms",[],[sampleCandidate "jetpack" "plugin" 70,sampleCandidate builderSlug "native" 60]⟩

def layoutSignature : Signature := ⟨"layout",.str "Layout",[],[sampleCandidate builderSlug "native" 90]⟩

def sampleRecommender : Recommender Unit :=
  ⟨[("forms",formsSignature),("layout",layoutSignature)],some (RegistryFile.rootRegistry.onSite Unit),none,none,.standard⟩

def siteOf (files : FileTree) : Site Unit := ⟨.start files [] ⟨1,["tmp"]⟩ 0.0,()⟩

/-- A registry file that is cut off. -/
def cutOff : FileTree := ⟨[(["plugins.yaml"],.file (.ofText "a: [b"))],[]⟩

theorem cutOff_unreadable : RegistryFile.rootRegistry.Unreadable cutOff :=
  RegistryFile.rootRegistry.unreadable_text _ _ _ _ (RegistryFile.rootRegistry_located _) rfl rfl

theorem layout_refused : ∃ cause, sampleRecommender.solutionsFor "layout" (siteOf cutOff) =
    .error (RegistryFile.rootRegistry.unreadable cause) := by
  obtain ⟨cause,refused⟩ := cutOff_unreadable
  have pro : sampleRecommender.isProActive (siteOf cutOff) = .error (RegistryFile.rootRegistry.unreadable cause) := by
    rw [sampleRecommender.isProActive_file RegistryFile.rootRegistry rfl]
    have asked : RegistryFile.rootRegistry.proActive cutOff = .error (RegistryFile.rootRegistry.unreadable cause) := by
      rw [RegistryFile.proActive_split,refused]
      rfl
    exact asked
  refine ⟨cause,?_⟩
  rw [sampleRecommender.solutionsFor_listed _ "layout" layoutSignature rfl,pro]
  rfl

end Samples

/-- How candidates are ranked on a site with a registry file. -/
structure Ranks (file : RegistryFile) (solutions : List Candidate) : Prop where
  preorder : ∀ proActive, TotalPreorder (Candidate.before proActive)
  order : ∀ proActive a b, Candidate.before proActive a b = true ↔ a.rank proActive ≤ b.rank proActive
  part : ∀ proActive, (r.coverage.kept proActive key solutions).Sublist solutions
  proper : ∀ proActive, solutions ≠ [] → r.coverage.kept proActive key solutions ≠ []
  ranking : ∀ ranked, r.solutionsFor key site = .ok ranked ↔ ∃ proActive, r.isProActive site = .ok proActive ∧
    r.Ranking site proActive (r.coverage.kept proActive key solutions) ranked
  returns : (∃ ranked, r.solutionsFor key site = .ok ranked) ↔ r.Answered site key solutions
  refused : ∀ failure, r.solutionsFor key site = .error failure → r.Refused site solutions failure
  missing : site.files.isFile file.path = .ok false → r.Answered site key solutions
  tabular : ∀ data, file.load site.files = .ok data → RegistryFile.Tabular data → r.Answered site key solutions

end Detection.Recommender
end Pagewright
