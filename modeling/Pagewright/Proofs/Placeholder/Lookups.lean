import Pagewright.Proofs.Placeholder.AtOnce

/-! What is looked up while a text is resolved. The passes run over a look-up that records every
placeholder it is asked for; the record goes on up to a refusal and changes no outcome. -/
namespace Pagewright.Placeholder
open Fields (FieldSource)

abbrev Recorded := ExceptT Failure (StateM (List Token))

/-- A look-up that records the placeholders it is asked for. -/
def recording (look : Token → Except Failure (Option String)) (t : Token) :
    Recorded (Option String) := do
  modify (· ++ [t])
  ExceptT.mk (pure (look t))

/-- A text resolved with recorded look-ups: the outcome and the record. -/
def resolveRecorded (sources : Table FieldSource) (contexts : Contexts) (text id : String) :
    Except Failure String × List Token :=
  (resolveWith (fun context => recording (lookup sources context))
    (fun id => ExceptT.mk (pure (contexts id))) text id).run.run []

def lookups (sources : Table FieldSource) (contexts : Contexts) (text id : String) : List Token :=
  (resolveRecorded sources contexts text id).2

/-- Recorded work has the outcome of plain work, and adds placeholders of a kind to the record. -/
def Records {α : Type} (work : Recorded α) (plain : Except Failure α) (kind : Token → Prop) : Prop :=
  ∀ log, ∃ added, work.run.run log = (plain,log ++ added) ∧ ∀ t ∈ added, kind t

theorem records_silent {α : Type} (plain : Except Failure α) (kind : Token → Prop) :
    Records (ExceptT.mk (pure plain)) plain kind :=
  fun log => ⟨[],by rw [List.append_nil]; rfl,fun _ member => by cases member⟩

theorem records_bind {α β : Type} (work : Recorded α) (next : α → Recorded β)
    (plain : Except Failure α) (after : α → Except Failure β) (kind : Token → Prop)
    (first : Records work plain kind)
    (rest : ∀ a, plain = .ok a → Records (next a) (after a) kind) :
    Records (work >>= next) (plain >>= after) kind := by
  intro log
  obtain ⟨added,ran,kinds⟩ := first log
  rw [run_bind,ran]
  cases plain with
  | error failure => exact ⟨added,rfl,kinds⟩
  | ok a =>
    obtain ⟨more,ranNext,kindsNext⟩ := rest a rfl (log ++ added)
    refine ⟨added ++ more,?_,?_⟩
    · rw [← List.append_assoc]
      exact ranNext
    · intro t member
      rcases List.mem_append.mp member with early | late
      · exact kinds t early
      · exact kindsNext t late

theorem records_weaken {α : Type} (work : Recorded α) (plain : Except Failure α)
    (kind wider : Token → Prop) (records : Records work plain kind) (within : ∀ t, kind t → wider t) :
    Records work plain wider := by
  intro log
  obtain ⟨added,ran,kinds⟩ := records log
  exact ⟨added,ran,fun t member => within t (kinds t member)⟩

section Passes

variable (look : Token → Except Failure (Option String))

theorem recording_records (t : Token) : Records (recording look t) (look t) (· = t) :=
  fun _ => ⟨[t],rfl,fun _ member => List.mem_singleton.mp member⟩

theorem expand_records (space : String) (p : Piece) :
    Records (expand (recording look) space p) (expand look space p)
      (fun t => p = .token t ∧ t.namespaceName = space) := by
  cases p with
  | char c => exact records_silent _ _
  | token t =>
    simp only [expand,beq_iff_eq]
    split
    next same =>
      refine records_bind _ _ _ _ _ ?_ fun found _ => ?_
      · exact records_weaken _ _ _ _ (recording_records look t)
          fun other equal => by subst equal; exact ⟨rfl,same⟩
      · cases found <;> exact records_silent _ _
    next => exact records_silent _ _

theorem expand_all_records (space : String) (ps : List Piece) :
    Records (ps.mapM (expand (recording look) space)) (ps.mapM (expand look space))
      (fun t => .token t ∈ ps ∧ t.namespaceName = space) := by
  induction ps with
  | nil => exact records_silent _ _
  | cons p ps ih =>
    rw [List.mapM_cons,List.mapM_cons]
    refine records_bind _ _ _ _ _ ?_ fun first _ => records_bind _ _ _ _ _ ?_ fun rest _ =>
      records_silent _ _
    · exact records_weaken _ _ _ _ (expand_records look space p)
        fun t kind => ⟨kind.1 ▸ List.mem_cons_self,kind.2⟩
    · exact records_weaken _ _ _ _ ih fun t kind => ⟨List.mem_cons_of_mem p kind.1,kind.2⟩

/-- A pass looks up placeholders of its namespace that its text holds, and none that it puts in. -/
theorem resolveNamespace_records (text : List Char) (space : String) :
    Records (resolveNamespace (recording look) text space) (resolveNamespace look text space)
      (fun t => .token t ∈ pieces text ∧ t.namespaceName = space) :=
  records_bind _ _ _ _ _ (expand_all_records look space (pieces text)) fun _ _ => records_silent _ _

/-- A placeholder that the passes before its own left in a text. -/
def LeftFor (order : List String) (text : List Char) (t : Token) : Prop :=
  ∃ before after left, order = before ++ t.namespaceName :: after ∧
    before.foldlM (resolveNamespace look) text = .ok left ∧ .token t ∈ pieces left

theorem passes_records (order : List String) (text : List Char) :
    Records (order.foldlM (resolveNamespace (recording look)) text)
      (order.foldlM (resolveNamespace look) text) (LeftFor look order text) := by
  induction order generalizing text with
  | nil => exact records_silent _ _
  | cons space order ih =>
    rw [List.foldlM_cons,List.foldlM_cons]
    refine records_bind _ _ _ _ _ ?_ fun next passed => ?_
    · refine records_weaken _ _ _ _ (resolveNamespace_records look text space) ?_
      rintro t ⟨member,rfl⟩
      exact ⟨[],order,text,rfl,rfl,member⟩
    · refine records_weaken _ _ _ _ (ih next) ?_
      rintro t ⟨before,after,left,split,ran,member⟩
      refine ⟨space :: before,after,left,by rw [split,List.cons_append],?_,member⟩
      rw [List.foldlM_cons,passed]
      exact ran

end Passes

/-- All that is looked up for a text was left for its pass, in a context that is known. -/
theorem resolve_records (sources : Table FieldSource) (contexts : Contexts) (text id : String) :
    Records (resolveWith (fun context => recording (lookup sources context))
        (fun id => ExceptT.mk (pure (contexts id))) text id)
      (resolve sources contexts text id)
      (fun t => ∃ context, contexts id = .ok (some context) ∧
        LeftFor (lookup sources context) namespaceOrder text.toList t) := by
  unfold resolve resolveWith
  split
  next => exact records_silent _ _
  next =>
    refine records_bind _ _ _ _ _ (records_silent _ _) fun known asked => ?_
    cases known with
    | none => exact records_silent _ _
    | some context =>
      refine records_bind _ _ _ _ _ ?_ fun _ _ => records_silent _ _
      exact records_weaken _ _ _ _ (passes_records _ namespaceOrder text.toList)
        fun t left => ⟨context,asked,left⟩

/-- Without stray opening braces nothing is left for a pass but placeholders of the text. -/
theorem mem_find_of_leftFor (sources : Table FieldSource) (context : Context) (text : String)
    (t : Token) (left : LeftFor (lookup sources context) namespaceOrder text.toList t)
    (tidy : BracesInPlaceholders text) (without : ValuesWithoutBraces sources context text) :
    t ∈ find text := by
  obtain ⟨before,after,rest,split,ran,member⟩ := left
  have plain := plain_pieces text tidy
  have inert := inert_pieces sources context text without
  have answers : Answers (valueOf? sources context) (lookup sources context) before
      (pieces text.toList) :=
    fun t _ inside found looked => lookup_value sources context t found
      (by rw [split]; exact List.mem_append_left _ inside) looked
  have start := write_unsettled (valueOf? sources context) text.toList
  rw [← start] at ran
  have settled := passes_success _ _ before [] _ rest plain inert answers ran
  rw [settled,pieces_write _ (settle_plain _ _ _ plain inert)] at member
  exact (mem_find text t).mpr (settle_tokens _ _ _ t member).1

/-- A title that writes a placeholder of a later pass. -/
theorem lookup_named_by_value :
    ⟨"acf","price"⟩ ∈ lookups [("acf",⟨"prices",fun _ _ => .ok (.str "19.99")⟩)]
      (fun _ => .ok (some ⟨"42",[("title","\x7b\x7bacf.price\x7d\x7d")],[]⟩))
      "\x7b\x7bpost.title\x7d\x7d" "42" ∧
    ⟨"acf","price"⟩ ∉ find "\x7b\x7bpost.title\x7d\x7d" := by
  decide +kernel

/-- The record changes no outcome. Every placeholder looked up stands in the text that the passes
before its own left, so those of the first pass stand in the text itself; the others do, too, where
opening braces stand in placeholders only, in the text and in no value. -/
theorem lookups_stand_in_text (sources : Table FieldSource) (contexts : Contexts) (text id : String) :
    (resolveRecorded sources contexts text id).1 = resolve sources contexts text id ∧
      (∀ t ∈ lookups sources contexts text id, ∃ context, contexts id = .ok (some context) ∧
        LeftFor (lookup sources context) namespaceOrder text.toList t) ∧
      (∀ t ∈ lookups sources contexts text id, t.namespaceName = "post" → t ∈ find text) ∧
      (BracesInPlaceholders text →
        (∀ context, contexts id = .ok (some context) → ValuesWithoutBraces sources context text) →
        ∀ t ∈ lookups sources contexts text id, t ∈ find text) := by
  obtain ⟨added,ran,kinds⟩ := resolve_records sources contexts text id []
  have recorded : resolveRecorded sources contexts text id =
      (resolve sources contexts text id,added) := ran
  rw [lookups,recorded]
  refine ⟨rfl,kinds,fun t member post => ?_,fun tidy without t member => ?_⟩
  · obtain ⟨context,_,before,after,left,split,passed,found⟩ := kinds t member
    have first : before = [] := by
      cases before with
      | nil => rfl
      | cons space before =>
        -- No later pass has the namespace of the first one.
        have twice : "post" ∈ ["acf","jet","mb","taxonomy"] := by
          rw [(List.cons.inj split).2,post]
          simp
        exact absurd twice (by decide)
    subst first
    cases passed
    exact (mem_find text t).mpr found
  · obtain ⟨context,known,left⟩ := kinds t member
    exact mem_find_of_leftFor sources context text t left tidy (without context known)

end Pagewright.Placeholder
