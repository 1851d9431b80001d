import Mathlib.Data.List.Nodup
import Pagewright.Proofs.Style.Redeclared
import Pagewright.Proofs.Text.Lowering

/-! Ids of palette entries. A name is made an id character by character: ASCII letters are kept in lower case, digits, the
low line and the hyphen as they are, and of all other characters only the two whose lower case is an ASCII letter. So ids
are as many as names, but neither filled nor apart when the names are told apart by what is not kept. -/
namespace Pagewright.Style
open Text (lower lowerChar lowerFrom lowerRuns casePartner? casePartner_run)

/-- What becomes of a character in an id. -/
def keyChar? (c : Char) : Option Char :=
  if c.toNat < 128 then if isKeyChar c.toLower then some c.toLower else none
  else if c = 'İ' then some 'i'
  else if c = Char.ofNat 0x212a then some 'k'
  else none

theorem isKeyChar_ascii (c : Char) (key : isKeyChar c = true) : c.toNat < 128 := by
  simp only [isKeyChar,Bool.or_eq_true,Bool.and_eq_true,decide_eq_true_eq,beq_iff_eq] at key
  have small (a b : Char) (le : a ≤ b) : a.toNat ≤ b.toNat := le
  rcases key with ((⟨_,le⟩ | ⟨_,le⟩) | rfl) | rfl
  · exact Nat.lt_of_le_of_lt (small _ _ le) (by decide)
  · exact Nat.lt_of_le_of_lt (small _ _ le) (by decide)
  · decide
  · decide

/-- The Kelvin sign has `k` as its lower case, and a run of letters that are no ASCII ones with ASCII partners is that
sign alone. -/
theorem lowerRuns_kelvin : casePartner? lowerRuns 0x212a = some 'k'.toNat ∧
    (lowerRuns.all fun r => 128 ≤ r.target || r.last < 128 ||
      r.first == 0x212a && r.last == 0x212a && r.target == 'k'.toNat) = true := by
  decide +kernel

/-- Of all letters that are no ASCII ones and stay one letter in lower case, the Kelvin sign alone becomes an ASCII one. -/
theorem casePartner_key (n partner : Nat) (found : casePartner? lowerRuns n = some partner) (wide : 128 ≤ n)
    (key : isKeyChar (Char.ofNat partner) = true) : n = 0x212a ∧ Char.ofNat partner = 'k' := by
  obtain ⟨r,among,first,last,rfl,code⟩ := casePartner_run n partner found
  have here := List.all_eq_true.mp lowerRuns_kelvin.2 r among
  simp only [Bool.and_eq_true,Bool.or_eq_true,decide_eq_true_eq,beq_iff_eq] at here
  rcases here with (large | small) | ⟨⟨single,_⟩,target⟩
  · have ascii := isKeyChar_ascii _ key
    omega
  · omega
  · obtain rfl : n = 0x212a := by omega
    refine ⟨rfl,?_⟩
    rw [single,target]
    rfl

theorem lowerChar_key (c : Char) : (lowerChar c).filter isKeyChar = (keyChar? c).toList := by
  unfold lowerChar keyChar?
  dsimp only
  split
  next ascii =>
    rw [List.filter_singleton]
    cases isKeyChar c.toLower <;> rfl
  next wide =>
    by_cases dotted : c = 'İ'
    · subst dotted
      decide
    · have other : c.toNat ≠ 0x130 := fun same => dotted (Char.ext (UInt32.toNat_inj.mp same))
      rw [if_neg (by simpa using other),if_neg dotted,List.filter_singleton]
      have unkept : isKeyChar c = false := eq_false_of_ne_true fun key => wide (isKeyChar_ascii c key)
      split
      next kelvin =>
        subst kelvin
        have code : (Char.ofNat 0x212a).toNat = 0x212a := rfl
        rw [code,lowerRuns_kelvin.1]
        rfl
      next plain =>
        cases found : casePartner? lowerRuns c.toNat with
        | none => simp [unkept]
        | some partner =>
          have lost : isKeyChar (Char.ofNat partner) = false := by
            refine eq_false_of_ne_true fun key => plain ?_
            obtain ⟨same,_⟩ := casePartner_key c.toNat partner found (Nat.not_lt.mp wide) key
            rw [← same,Char.ofNat_toNat]
          simp [lost]

theorem lowerFrom_key (afterCased : Bool) (s : List Char) :
    (lowerFrom afterCased s).filter isKeyChar = s.filterMap keyChar? := by
  induction s generalizing afterCased with
  | nil => rfl
  | cons c s ih =>
    have first : (if c == 'Σ' then [if afterCased && !Text.startsCased s then 'ς' else 'σ'] else lowerChar c).filter
        isKeyChar = (keyChar? c).toList := by
      split
      next sigma =>
        obtain rfl := beq_iff_eq.mp sigma
        cases afterCased && !Text.startsCased s <;> decide
      next => exact lowerChar_key c
    rw [lowerFrom,List.filter_append,ih,first,List.filterMap_cons]
    cases keyChar? c <;> rfl

/-- The part of a name that an id keeps. -/
def keptName (name : String) : String := String.ofList (name.toList.filterMap keyChar?)

theorem sanitizeKey_kept (name : String) : sanitizeKey name = keptName name :=
  congrArg String.ofList (lowerFrom_key false name.toList)

theorem keptName_filled (name : String) : keptName name ≠ "" ↔ ∃ c ∈ name.toList, keyChar? c ≠ none := by
  rw [keptName,Ne,String.ofList_eq_empty_iff,List.filterMap_eq_nil_iff]
  simp only [not_forall,exists_prop]

theorem keyChar?_ascii (c : Char) (proper : isNameChar c = true) (ascii : c.toNat < 128) : keyChar? c = some c.toLower := by
  have table : ((List.range 128).all fun n =>
      !isNameChar (Char.ofNat n) || keyChar? (Char.ofNat n) == some (Char.ofNat n).toLower) = true := by
    rfl
  have here := List.all_eq_true.mp table c.toNat (List.mem_range.mpr ascii)
  rw [Char.ofNat_toNat,proper] at here
  simpa using here

theorem toList_toLower (name : String) : name.toLower.toList = name.toList.map Char.toLower := String.toList_map

/-- Of a name of ASCII letters, digits, low lines and hyphens all is kept. -/
theorem keptName_ascii (name : String) (proper : ∀ c ∈ name.toList, isNameChar c = true)
    (ascii : ∀ c ∈ name.toList, c.toNat < 128) : keptName name = name.toLower := by
  have kept : name.toList.filterMap keyChar? = name.toList.map Char.toLower := by
    rw [← List.filterMap_eq_map]
    exact List.filterMap_congr fun c member => keyChar?_ascii c (proper c member) (ascii c member)
  rw [keptName,kept,← String.toList_inj,String.toList_ofList,toList_toLower]

section Palette

variable (data : StyleData)

theorem palette_kept (swatches : List Swatch) (painted : palette data = .ok swatches) :
    swatches.map Swatch.id = data.colors.map fun color => keptName color.1 := by
  unfold palette at painted
  generalize data.colors = colors at painted ⊢
  induction colors generalizing swatches with
  | nil => cases painted; rfl
  | cons color colors ih =>
    obtain ⟨first,rest,head,tail,rfl⟩ := except_mapM_cons_success _ _ _ _ painted
    obtain ⟨code,_,head⟩ := except_bind_success _ _ _ head
    cases head
    rw [List.map_cons,List.map_cons,ih rest tail,sanitizeKey_kept]

/-- There is a palette just if every value has a color code. -/
theorem palette_answers : (∃ swatches, palette data = .ok swatches) ↔
    ∀ color ∈ data.colors, ∃ code, hslToRgb color.2 = .ok code := by
  unfold palette
  constructor
  · rintro ⟨swatches,painted⟩
    generalize data.colors = colors at painted ⊢
    induction colors generalizing swatches with
    | nil => exact List.forall_mem_nil _
    | cons color colors ih =>
      obtain ⟨first,rest,head,tail,rfl⟩ := except_mapM_cons_success _ _ _ _ painted
      obtain ⟨code,converted,_⟩ := except_bind_success _ _ _ head
      exact List.forall_mem_cons.mpr ⟨⟨code,converted⟩,ih rest tail⟩
  · intro converted
    refine except_mapM_total _ _ fun color member => ?_
    obtain ⟨code,found⟩ := converted color member
    exact ⟨⟨sanitizeKey color.1,humanize color.1,code⟩,by rw [found]; rfl⟩

end Palette

/-- The ids of a palette are what is kept of the names of the colors, one after the other: they are filled if of every
name something is kept, and apart if no two names are the same but for what is not kept. Of names in ASCII nothing but the
case of the letters is lost. -/
theorem palette_ids (project : Project) (data : StyleData) (extracted : extract project = .ok data) :
    ((∃ swatches, palette data = .ok swatches) ↔ ∀ color ∈ data.colors, ∃ code, hslToRgb color.2 = .ok code) ∧
    ∀ swatches, palette data = .ok swatches →
      swatches.map Swatch.id = data.colors.map (fun color => keptName color.1) ∧
      ((∀ swatch ∈ swatches, swatch.id ≠ "") ↔ ∀ color ∈ data.colors, ∃ c ∈ color.1.toList, keyChar? c ≠ none) ∧
      ((swatches.map Swatch.id).Nodup ↔
        ∀ color ∈ data.colors, ∀ other ∈ data.colors, keptName color.1 = keptName other.1 → color = other) ∧
      ((∀ color ∈ data.colors, ∀ c ∈ color.1.toList, c.toNat < 128) →
        (∀ swatch ∈ swatches, swatch.id ≠ "") ∧
        ((swatches.map Swatch.id).Nodup ↔
          ∀ color ∈ data.colors, ∀ other ∈ data.colors, color.1.toLower = other.1.toLower → color = other)) := by
  refine ⟨palette_answers data,fun swatches painted => ?_⟩
  have colors := extract_colors project data extracted
  have declared (color : String × String) (member : color ∈ data.colors) : Declared (asProperty color) :=
    colorProperties_declared _ _ (extractColors_declared _ color (colors ▸ member))
  have once : data.colors.Nodup := List.Nodup.of_map _ (colors ▸ extractColors_nodup _ : (data.colors.map (·.1)).Nodup)
  have ids := palette_kept data swatches painted
  have filled : (∀ swatch ∈ swatches, swatch.id ≠ "") ↔
      ∀ color ∈ data.colors, ∃ c ∈ color.1.toList, keyChar? c ≠ none := by
    rw [← List.forall_mem_map (P := (· ≠ "")),ids,List.forall_mem_map]
    exact forall₂_congr fun color _ => keptName_filled color.1
  have apart := List.nodup_map_iff_inj_on (f := fun color : String × String => keptName color.1) once
  refine ⟨ids,filled,by rw [ids,apart],fun ascii => ⟨?_,?_⟩⟩
  · refine filled.mpr fun color member => ?_
    obtain ⟨c,first⟩ := List.exists_mem_of_ne_nil _ (declared color member).named
    exact ⟨c,first,by rw [keyChar?_ascii c ((declared color member).name c first) (ascii color member c first)]; simp⟩
  · rw [ids,apart]
    refine forall₂_congr fun color member => forall₂_congr fun other inside => ?_
    rw [keptName_ascii _ (declared color member).name (ascii color member),
      keptName_ascii _ (declared other inside).name (ascii other inside)]

theorem palette_ids_apart : ∃ data swatches,
    extract (styledProject ":root \x7b --brand-Ink: #123; --brand: #abc; \x7d") = .ok data ∧
    palette data = .ok swatches ∧ (∀ swatch ∈ swatches, swatch.id ≠ "") ∧ (swatches.map Swatch.id).Nodup := by
  have colors : extractColors (combinedCss (styledProject ":root \x7b --brand-Ink: #123; --brand: #abc; \x7d")) =
      [("brand-Ink","#123"),("brand","#abc")] := by
    decide +kernel
  obtain ⟨data,extracted⟩ : ∃ data,
      extract (styledProject ":root \x7b --brand-Ink: #123; --brand: #abc; \x7d") = .ok data := ⟨_,rfl⟩
  have declared := (extract_colors _ _ extracted).trans colors
  obtain ⟨answers,painted⟩ := palette_ids _ data extracted
  rw [declared] at answers painted
  obtain ⟨swatches,found⟩ := answers.mpr (by simp; exact ⟨⟨_,rfl⟩,⟨_,rfl⟩⟩)
  obtain ⟨filled,apart⟩ := (painted swatches found).2.2.2 (by simp)
  exact ⟨data,swatches,extracted,found,filled,apart.mpr (by simp [← String.toList_inj,toList_toLower])⟩

/-- Names that differ in the case of a letter have one id, and a name without an ASCII character has an empty one. -/
theorem palette_ids_collide : ∃ data swatches,
    extract (styledProject ":root \x7b --Primary: #fff; --primary: #000; --é: #111; \x7d") = .ok data ∧
    palette data = .ok swatches ∧ data.colors.keys = ["primary","Primary","é"] ∧
    swatches.map Swatch.id = ["primary","primary",""] ∧
    ¬ ((∀ swatch ∈ swatches, swatch.id ≠ "") ∧ (swatches.map Swatch.id).Nodup) := by
  have colors : extractColors (combinedCss (styledProject
      ":root \x7b --Primary: #fff; --primary: #000; --é: #111; \x7d")) =
      [("primary","#000"),("Primary","#fff"),("é","#111")] := by
    decide +kernel
  obtain ⟨data,extracted⟩ : ∃ data, extract (styledProject
      ":root \x7b --Primary: #fff; --primary: #000; --é: #111; \x7d") = .ok data := ⟨_,rfl⟩
  have declared := (extract_colors _ _ extracted).trans colors
  obtain ⟨swatches,painted⟩ := (palette_answers data).mpr (by simp [declared]; exact ⟨⟨_,rfl⟩,⟨_,rfl⟩,⟨_,rfl⟩⟩)
  have ids : swatches.map Swatch.id = ["primary","primary",""] := by
    rw [palette_kept data swatches painted,declared]
    rfl
  refine ⟨data,swatches,extracted,painted,by rw [declared]; rfl,ids,fun apart => ?_⟩
  rw [ids] at apart
  exact absurd apart.2 (by decide)

end Pagewright.Style
