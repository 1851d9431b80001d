import Mathlib.Data.List.Basic
import Mathlib.Data.Prod.Lex
import Mathlib.Order.Fin.Basic
import Pagewright.Detection.Recommend

/-! The order of candidates. It compares them by rank, and a list that is sorted by it with the order of ties kept is
the only one of its kind. -/
namespace Pagewright.Detection

section Sorting

variable {α : Type} (before : α → α → Bool)

/-- Two items of which each may stand before the other. -/
def ties (a b : α) : Bool := before a b && before b a

/-- Any two items can be compared, and comparisons go together. -/
structure TotalPreorder : Prop where
  total : ∀ a b, before a b = true ∨ before b a = true
  trans : ∀ a b c, before a b = true → before b c = true → before a c = true

/-- A list of the items of another one in order, of which those that tie stand as they stand there. -/
structure StableOrder (items ordered : List α) : Prop where
  perm : ordered.Perm items
  sorted : ordered.Pairwise fun a b => before a b = true
  stable : ∀ a, ordered.filter (ties before a) = items.filter (ties before a)

variable {before} (preorder : TotalPreorder before)
include preorder

theorem ties_self (a : α) : ties before a a = true := by
  simp [ties,(preorder.total a a).elim id id]

/-- The first item of a sorted list may stand before all of its items. -/
theorem before_of_mem (a b : α) (items : List α) (sorted : (a :: items).Pairwise fun a b => before a b = true)
    (member : b ∈ a :: items) : before a b = true := by
  obtain rfl | later := List.mem_cons.mp member
  · exact (preorder.total b b).elim id id
  · exact List.rel_of_pairwise_cons sorted later

/-- Sorted lists are the same where they have the same items tied with each item. -/
theorem eq_of_ties (first second : List α) (one : first.Pairwise fun a b => before a b = true)
    (two : second.Pairwise fun a b => before a b = true)
    (same : ∀ a, first.filter (ties before a) = second.filter (ties before a)) : first = second := by
  have tied (items others : List α) (same : ∀ a, items.filter (ties before a) = others.filter (ties before a))
      (a : α) (member : a ∈ items) : a ∈ others := by
    have inside : a ∈ items.filter (ties before a) := List.mem_filter.mpr ⟨member,ties_self preorder a⟩
    rw [same a] at inside
    exact (List.mem_filter.mp inside).1
  induction first generalizing second with
  | nil =>
    cases second with
    | nil => rfl
    | cons b second => cases tied _ _ (fun a => (same a).symm) b List.mem_cons_self
  | cons a first ih =>
    cases second with
    | nil => cases tied _ _ same a List.mem_cons_self
    | cons b second =>
      have before_b : before a b = true :=
        before_of_mem preorder a b first one (tied _ _ (fun a => (same a).symm) b List.mem_cons_self)
      have before_a : before b a = true :=
        before_of_mem preorder b a second two (tied _ _ same a List.mem_cons_self)
      -- The two heads tie, so both are the first item of the same list of ties.
      have heads := same a
      rw [List.filter_cons_of_pos (ties_self preorder a),
        List.filter_cons_of_pos (by simp [ties,before_a,before_b])] at heads
      obtain ⟨rfl,_⟩ := List.cons.inj heads
      congr 1
      refine ih second one.of_cons two.of_cons fun c => ?_
      have tails := same c
      rw [List.filter_cons,List.filter_cons] at tails
      split at tails
      · exact (List.cons.inj tails).2
      · exact tails

/-- Sorting gives a stable order, and there is no other one. -/
theorem stableOrder_iff (items ordered : List α) :
    StableOrder before items ordered ↔ ordered = items.mergeSort before := by
  have trans := fun a b c => preorder.trans a b c
  have total : ∀ a b, (before a b || before b a) = true := fun a b => by simpa using preorder.total a b
  have perm := List.mergeSort_perm items before
  have sorted := List.pairwise_mergeSort trans total items
  have stable (a : α) : (items.mergeSort before).filter (ties before a) = items.filter (ties before a) := by
    have inOrder : (items.filter (ties before a)).Pairwise fun x y => before x y = true := by
      refine List.pairwise_of_forall_mem_list fun x inside y inside' => ?_
      have tied := (List.mem_filter.mp inside).2
      have tied' := (List.mem_filter.mp inside').2
      simp only [ties,Bool.and_eq_true] at tied tied'
      exact preorder.trans x a y tied.2 tied'.1
    have part := (List.sublist_mergeSort trans total inOrder List.filter_sublist).filter (ties before a)
    rw [List.filter_filter] at part
    simp only [Bool.and_self] at part
    exact (part.eq_of_length (perm.filter _).length_eq.symm).symm
  constructor
  · exact fun order => eq_of_ties preorder _ _ order.sorted sorted fun a => (order.stable a).trans (stable a).symm
  · rintro rfl
    exact ⟨perm,sorted,stable⟩

end Sorting

namespace Candidate

/-- The rank of a candidate, least first: the active ones, then those installed, then the pro tier while it is active,
then those that fit best. -/
def rank (proActive : Bool) (c : Candidate) : Bool ×ₗ Bool ×ₗ Bool ×ₗ Int :=
  toLex (!c.active,toLex (!c.installed,toLex (proActive && c.slug != proSlug,-c.compatibility)))

variable (proActive : Bool)

theorem before_iff (a b : Candidate) : before proActive a b = true ↔ rank proActive a ≤ rank proActive b := by
  unfold before rank
  simp only [Prod.Lex.toLex_le_toLex]
  cases a.active <;> cases b.active <;> cases a.installed <;> cases b.installed <;> cases proActive <;>
    cases proA : a.slug == proSlug <;> cases proB : b.slug == proSlug <;> simp [bne,proA,proB]

/-- Candidates are totally preordered. -/
theorem before_preorder : TotalPreorder (before proActive) where
  total a b := by
    rw [before_iff,before_iff]
    exact le_total _ _
  trans a b c := by
    rw [before_iff,before_iff,before_iff]
    exact le_trans

end Candidate

section Keeping

variable (coverage : ProCoverage) (proActive : Bool) (key : String) (solutions : List Candidate)

/-- The candidates that are kept, whether the pro tier is active or not. -/
def ProCoverage.kept : List Candidate :=
  if proActive then coverage.filter key solutions else solutions

/-- The candidates are all kept, or those that meet some condition, of which there are some. -/
theorem ProCoverage.kept_cases : coverage.kept proActive key solutions = solutions ∨
    ∃ keep : Candidate → Bool, coverage.kept proActive key solutions = solutions.filter keep ∧
      solutions.filter keep ≠ [] := by
  cases proActive with
  | false => exact .inl rfl
  | true =>
    unfold kept filter
    rw [if_pos rfl]
    dsimp only
    split
    next replaced =>
      rw [Bool.and_eq_true] at replaced
      exact .inr ⟨_,rfl,by simpa using replaced.2⟩
    next =>
      cases coverage.supplements.get? key with
      | none => exact .inl rfl
      | some allowed =>
        dsimp only
        split
        next supplemented => exact .inr ⟨_,rfl,by simpa using supplemented⟩
        next => exact .inl rfl

theorem ProCoverage.kept_sublist : (coverage.kept proActive key solutions).Sublist solutions := by
  obtain same | ⟨keep,same,_⟩ := coverage.kept_cases proActive key solutions
  · rw [same]
  · rw [same]
    exact List.filter_sublist

/-- Something is kept wherever there is something. -/
theorem ProCoverage.kept_ne_nil (some : solutions ≠ []) : coverage.kept proActive key solutions ≠ [] := by
  obtain same | ⟨keep,same,proper⟩ := coverage.kept_cases proActive key solutions
  · rwa [same]
  · rwa [same]

end Keeping

end Pagewright.Detection
