import Mathlib.Data.List.Basic
import Pagewright.Proofs.Placeholder.Passes

/-! Replacing all placeholders of a text at once, and the texts for which passes do the same. -/
namespace Pagewright.Placeholder
open Fields (FieldSource)

/-- The value that takes the place of a placeholder. None does where the namespace is unknown or has
no source, and where a post attribute is unknown. -/
def valueOf? (sources : Table FieldSource) (context : Context) (t : Token) : Option (List Char) :=
  if t.namespaceName = "post" then (context.attributes.get? t.field).map String.toList
  else if t.namespaceName = "taxonomy" then
    some (", ".intercalate ((context.terms.get? t.field).getD [])).toList
  else if t.namespaceName ∈ Fields.namespaces then
    (sources.get? t.namespaceName).bind fun source =>
      (source.value t.field context.id).toOption.map fun v => (formatValue v).toList
  else none

/-- A piece replaced by its value; a placeholder without value stays. -/
def replacePiece (sources : Table FieldSource) (context : Context) : Piece → List Char
  | .char c => [c]
  | .token t => (valueOf? sources context t).getD t.text

/-- A text with all its placeholders replaced at once. -/
def replaceAll (sources : Table FieldSource) (context : Context) (text : String) : String :=
  String.ofList ((pieces text.toList).flatMap (replacePiece sources context))

/-- Opening braces stand in the placeholders of the text only. -/
def BracesInPlaceholders (text : String) : Prop := ∀ c, .char c ∈ pieces text.toList → c ≠ '\x7b'

/-- No value that takes the place of a placeholder of the text has an opening brace. -/
def ValuesWithoutBraces (sources : Table FieldSource) (context : Context) (text : String) : Prop :=
  ∀ t ∈ find text, ∀ value, valueOf? sources context t = some value → '\x7b' ∉ value

/-- No source refuses a field that the text names. -/
def SourcesAnswer (sources : Table FieldSource) (context : Context) (text : String) : Prop :=
  ∀ t ∈ find text, ∀ source, sources.get? t.namespaceName = some source →
    ∃ v, source.value t.field context.id = .ok v

theorem lookup_value (sources : Table FieldSource) (context : Context) (t : Token)
    (found : Option String) (known : t.namespaceName ∈ namespaceOrder)
    (looked : lookup sources context t = .ok found) :
    found.map String.toList = valueOf? sources context t := by
  unfold lookup at looked
  unfold valueOf?
  split at looked
  next post =>
    rw [if_pos (beq_iff_eq.mp post)]
    exact congrArg _ (Except.ok.inj looked).symm
  next notPost =>
    rw [if_neg (by simpa using notPost)]
    split at looked
    next taxonomy =>
      rw [if_pos (beq_iff_eq.mp taxonomy)]
      exact congrArg _ (Except.ok.inj looked).symm
    next notTaxonomy =>
      have space : t.namespaceName ∈ Fields.namespaces := by
        simp only [namespaceOrder,Fields.namespaces,List.mem_cons,List.not_mem_nil,or_false] at known ⊢
        simp only [beq_iff_eq] at notPost notTaxonomy
        tauto
      rw [if_neg (by simpa using notTaxonomy),if_pos space]
      cases chosen : sources.get? t.namespaceName with
      | none =>
        rw [chosen] at looked
        cases looked
        rfl
      | some source =>
        rw [chosen] at looked
        obtain ⟨v,given,looked⟩ := except_bind_success _ _ _ looked
        cases looked
        unfold fieldValue at given
        split at given
        next answer =>
          cases given
          simp [answer,Except.toOption]
        next => cases given
        next => cases given

theorem lookup_total (sources : Table FieldSource) (context : Context) (t : Token)
    (answers : ∀ source, sources.get? t.namespaceName = some source →
      ∃ v, source.value t.field context.id = .ok v) :
    ∃ found, lookup sources context t = .ok found := by
  unfold lookup
  split
  · exact ⟨_,rfl⟩
  · split
    · exact ⟨_,rfl⟩
    · split
      next => exact ⟨_,rfl⟩
      next source chosen =>
        obtain ⟨v,answer⟩ := answers source chosen
        refine ⟨some (formatValue v),?_⟩
        simp only [fieldValue,answer]
        rfl

theorem known_of_value (sources : Table FieldSource) (context : Context) (t : Token)
    (value : List Char) (found : valueOf? sources context t = some value) :
    t.namespaceName ∈ namespaceOrder := by
  unfold valueOf? at found
  simp only [namespaceOrder,Fields.namespaces,List.mem_cons,List.not_mem_nil,or_false] at found ⊢
  split at found
  · tauto
  · split at found
    · tauto
    · split at found
      · tauto
      · cases found

theorem plain_pieces (text : String) (tidy : BracesInPlaceholders text) :
    ∀ p ∈ pieces text.toList, p.Plain := by
  intro p member
  cases p with
  | char c => exact tidy c member
  | token t => exact valid_of_mem_pieces _ t member

theorem write_settle (sources : Table FieldSource) (context : Context) (order : List String)
    (complete : ∀ space ∈ namespaceOrder, space ∈ order) (ps : List Piece) :
    write (ps.flatMap (settle (valueOf? sources context) order)) =
      ps.flatMap (replacePiece sources context) := by
  induction ps with
  | nil => rfl
  | cons p ps ih =>
    rw [List.flatMap_cons,List.flatMap_cons,write_append,ih]
    congr 1
    cases p with
    | char c => rfl
    | token t =>
      cases found : valueOf? sources context t with
      | none => simp [settle,replacePiece,found,Piece.text]
      | some value =>
        have inside := complete _ (known_of_value sources context t value found)
        simp [settle,replacePiece,found,inside,write_chars]

theorem replaceAll_without_values (sources : Table FieldSource) (context : Context) (text : String)
    (stay : ∀ t ∈ find text, valueOf? sources context t = none) :
    replaceAll sources context text = text := by
  have same : ∀ p ∈ pieces text.toList, replacePiece sources context p = p.text := by
    intro p member
    cases p with
    | char c => rfl
    | token t => simp [replacePiece,stay t ((mem_find text t).mpr member),Piece.text]
  rw [replaceAll,List.flatMap_congr same]
  exact (congrArg String.ofList (write_pieces text.toList)).trans String.ofList_toList

theorem occurs_append (piece s t : List Char) (occurs : Text.occurs piece t = true) :
    Text.occurs piece (s ++ t) = true := by
  induction s with
  | nil => exact occurs
  | cons c s ih => simp [Text.occurs,ih]

/-- A text with a placeholder has two opening braces in a row. -/
theorem occurs_of_mem_pieces (s : List Char) (t : Token) (member : .token t ∈ pieces s) :
    Text.occurs "\x7b\x7b".toList s = true := by
  have opening : "\x7b\x7b".toList = ['\x7b','\x7b'] := by decide
  induction s using pieces_induct with
  | nil => cases member
  | token t' rest valid ih =>
    rw [token_text]
    simp [opening,Text.occurs,Text.startsWith,Text.after?]
  | char c s absent ih =>
    rw [pieces_char c s absent] at member
    have later : .token t ∈ pieces s := by simpa using member
    exact occurs_append _ [c] s (ih later)

section Agreement

variable (sources : Table FieldSource) (context : Context) (text : String)

theorem inert_pieces (without : ValuesWithoutBraces sources context text) :
    Inert (valueOf? sources context) (pieces text.toList) :=
  fun t member => without t ((mem_find text t).mpr member)

/-- Passes in any order that has all namespaces replace all placeholders at once. -/
theorem passes_eq (answer : SourcesAnswer sources context text) (tidy : BracesInPlaceholders text)
    (without : ValuesWithoutBraces sources context text) (order : List String)
    (perm : order.Perm namespaceOrder) :
    order.foldlM (resolveNamespace (lookup sources context)) text.toList =
      .ok (replaceAll sources context text).toList := by
  have answers : Answers (valueOf? sources context) (lookup sources context) order
      (pieces text.toList) :=
    fun t _ inside found looked =>
      lookup_value sources context t found (perm.mem_iff.mp inside) looked
  have plain := plain_pieces text tidy
  have inert := inert_pieces sources context text without
  have start := write_unsettled (valueOf? sources context) text.toList
  obtain ⟨result,ok⟩ := passes_total _ _ order [] _ plain inert answers fun t member _ =>
    lookup_total sources context t (answer t ((mem_find text t).mpr member))
  have settled := passes_success _ _ order [] _ result plain inert answers ok
  rw [List.nil_append,write_settle sources context order fun space => perm.mem_iff.mpr] at settled
  rw [start] at ok
  rw [ok,settled,replaceAll,String.toList_ofList]

/-- The same for a text resolved for a content item, also where it is not looked at for want of braces. -/
theorem resolve_at_once (contexts : Contexts) (id : String) (known : contexts id = .ok (some context))
    (answer : SourcesAnswer sources context text) (tidy : BracesInPlaceholders text)
    (without : ValuesWithoutBraces sources context text) :
    resolve sources contexts text id = .ok (replaceAll sources context text) := by
  unfold resolve resolveWith
  split
  next absent =>
    have stay : ∀ t ∈ find text, valueOf? sources context t = none := by
      intro t member
      have occurs := occurs_of_mem_pieces _ t ((mem_find text t).mp member)
      rw [Text.occursIn,occurs] at absent
      cases absent
    rw [replaceAll_without_values sources context text stay]
    rfl
  next =>
    have passes := passes_eq sources context text answer tidy without namespaceOrder (.refl _)
    rw [known]
    change (fun s => String.ofList s) <$> resolveIn (lookup sources context) text.toList = _
    rw [resolveIn,passes]
    exact congrArg Except.ok String.ofList_toList

/-- What is left after all placeholders are replaced: braces in placeholders only, which have no values
and stand in the text before. -/
theorem replaceAll_settled (tidy : BracesInPlaceholders text)
    (without : ValuesWithoutBraces sources context text) :
    BracesInPlaceholders (replaceAll sources context text) ∧
      ∀ t ∈ find (replaceAll sources context text), t ∈ find text ∧ valueOf? sources context t = none := by
  have plain := settle_plain _ namespaceOrder _ (plain_pieces text tidy)
    (inert_pieces sources context text without)
  have read : pieces (replaceAll sources context text).toList =
      (pieces text.toList).flatMap (settle (valueOf? sources context) namespaceOrder) := by
    rw [replaceAll,String.toList_ofList,
      ← write_settle sources context namespaceOrder (fun _ inside => inside),pieces_write _ plain]
  refine ⟨fun c member => ?_,fun t member => ?_⟩
  · rw [read] at member
    exact plain _ member
  · rw [mem_find,read] at member
    obtain ⟨present,kept⟩ := settle_tokens _ _ _ t member
    refine ⟨(mem_find text t).mpr present,?_⟩
    cases found : valueOf? sources context t with
    | none => rfl
    | some value =>
      exact found.symm.trans (kept (known_of_value sources context t value found))

/-- Where opening braces stand in placeholders only, in the text and in no value, resolving a text
replaces its placeholders all at once. Other orders of the passes give the same text, and resolving it
once more changes nothing. -/
theorem resolve_eq_replaceAll (contexts : Contexts) (id : String)
    (known : contexts id = .ok (some context)) (answer : SourcesAnswer sources context text)
    (tidy : BracesInPlaceholders text) (without : ValuesWithoutBraces sources context text) :
    resolve sources contexts text id = .ok (replaceAll sources context text) ∧
      (∀ order : List String, order.Perm namespaceOrder →
        order.foldlM (resolveNamespace (lookup sources context)) text.toList =
          .ok (replaceAll sources context text).toList) ∧
      resolve sources contexts (replaceAll sources context text) id =
        .ok (replaceAll sources context text) := by
  obtain ⟨tidyAfter,after⟩ := replaceAll_settled sources context text tidy without
  refine ⟨resolve_at_once sources context text contexts id known answer tidy without,
    passes_eq sources context text answer tidy without,?_⟩
  have again := resolve_at_once sources context (replaceAll sources context text) contexts id known
    (fun t member => answer t (after t member).1) tidyAfter
    (fun t member value found => by rw [(after t member).2] at found; cases found)
  rwa [replaceAll_without_values sources context _ fun t member => (after t member).2] at again

end Agreement

def samplePost : Context := ⟨"42",[("title","Hello")],[("category",["News","Tech"])]⟩

def sampleSources : Table FieldSource :=
  [("acf",⟨"lists",fun field _ => .ok (.list [.str field,.int 7])⟩)]

/-- Values, an unknown attribute, a namespace without source and an unknown namespace. -/
def sampleText : String :=
  "\x7b\x7bacf.sku\x7d\x7d, \x7b\x7bpost.title\x7d\x7d \x7b\x7btaxonomy.category\x7d\x7d" ++
  "\x7b\x7bpost.x\x7d\x7d\x7b\x7bjet.y\x7d\x7d\x7b\x7bwoo.z\x7d\x7d"

/-- A text with values next to each other and with a field that nothing answers. -/
theorem resolve_sampleText : SourcesAnswer sampleSources samplePost sampleText ∧
    BracesInPlaceholders sampleText ∧ ValuesWithoutBraces sampleSources samplePost sampleText ∧
    resolve sampleSources (fun _ => .ok (some samplePost)) sampleText "42" =
      .ok "sku, 7, Hello News, Tech\x7b\x7bpost.x\x7d\x7d\x7b\x7bjet.y\x7d\x7d\x7b\x7bwoo.z\x7d\x7d" := by
  have answer : SourcesAnswer sampleSources samplePost sampleText := by
    intro t _ source chosen
    simp only [sampleSources,Table.get?,List.lookup_cons] at chosen
    split at chosen
    · cases chosen
      exact ⟨_,rfl⟩
    · cases chosen
  have tidy : BracesInPlaceholders sampleText := by
    rintro c member rfl
    revert member
    decide
  have without : ValuesWithoutBraces sampleSources samplePost sampleText := by
    have none : ∀ t ∈ find sampleText,
        '\x7b' ∉ (valueOf? sampleSources samplePost t).getD [] := by decide +kernel
    intro t member value found
    simpa [found] using none t member
  have all := resolve_eq_replaceAll sampleSources samplePost sampleText
    (fun _ => .ok (some samplePost)) "42" rfl answer tidy without
  refine ⟨answer,tidy,without,all.1.trans (congrArg _ ?_)⟩
  decide +kernel

end Pagewright.Placeholder
