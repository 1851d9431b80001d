import Pagewright.Design.Convert
import Pagewright.Proofs.Document.Translators
import Pagewright.Proofs.Import.Pages

/-! Designs stored and designs written out. Both take the same document under the same title; the document that storing
gives back keeps the title of its translation, which is another one where a project has no name. -/
namespace Pagewright.Design
open Document (Build fieldD)
open Host (DocumentStore NewDocument)

section Titles

variable (fields : Table Value)

/-- The title of a layout. -/
def outerTitle : Value := (fieldD fields "title" .null).orElse (.str defaultTitle)

/-- The title that the translation of a design carries. -/
def translatedTitle : Value :=
  match fieldD fields "proyecto" .null with
  | .object project => (fieldD project "nombre" .null).orElse (.str defaultProjectTitle)
  | _ => outerTitle fields

/-- A project has a name, or else goes by the name that its translation would give it. -/
def Titled : Prop := ∀ project, fieldD fields "proyecto" .null = .object project →
  (fieldD project "nombre" .null).isTruthy = true ∨ outerTitle fields = .str defaultProjectTitle

section Project

variable (project : Table Value) (described : fieldD fields "proyecto" .null = .object project)
include described

theorem title_project : title fields = (fieldD project "nombre" .null).orElse (outerTitle fields) := by
  unfold title
  rw [described]
  rfl

theorem translatedTitle_project :
    translatedTitle fields = (fieldD project "nombre" .null).orElse (.str defaultProjectTitle) := by
  unfold translatedTitle
  rw [described]

end Project

theorem titles_layout (layout : ∀ project, fieldD fields "proyecto" .null ≠ .object project) :
    title fields = outerTitle fields ∧ translatedTitle fields = outerTitle fields := by
  unfold title translatedTitle
  cases kind : fieldD fields "proyecto" .null with
  | object project => exact absurd kind (layout project)
  | _ => exact ⟨rfl,rfl⟩

theorem translatedTitle_iff : translatedTitle fields = title fields ↔ Titled fields := by
  unfold Titled
  by_cases shape : ∃ project, fieldD fields "proyecto" .null = .object project
  · obtain ⟨project,described⟩ := shape
    rw [title_project fields project described,translatedTitle_project fields project described]
    unfold Value.orElse
    -- The two titles fall back in the same case, each to a title of its own.
    constructor
    · intro same other described'
      cases described.symm.trans described'
      by_cases named : (fieldD project "nombre" .null).isTruthy = true
      · exact .inl named
      · rw [if_neg named,if_neg named] at same
        exact .inr same.symm
    · intro titled
      obtain named | same := titled project described
      · rw [if_pos named,if_pos named]
      · rw [same]
  · have layout : ∀ project, fieldD fields "proyecto" .null ≠ .object project := not_exists.mp shape
    obtain ⟨stored,made⟩ := titles_layout fields layout
    rw [stored,made]
    exact ⟨fun _ project described => absurd described (layout project),fun _ => rfl⟩

variable (document : DesignDocument) (s s' : Nat)

theorem convertProject_title (ran : (convertProject fields).run.run s = (.ok document,s')) :
    document.title = (fieldD fields "nombre" .null).orElse (.str defaultProjectTitle) := by
  obtain ⟨plan,_,_,ran⟩ := run_bind_success _ _ _ _ _ ran
  obtain ⟨pages,_,_,ran⟩ := run_bind_success _ _ _ _ _ ran
  obtain ⟨content,_,_,ran⟩ := run_bind_success _ _ _ _ _ ran
  cases ran
  rfl

theorem convertLayout_title (ran : (convertLayout fields).run.run s = (.ok document,s')) :
    document.title = outerTitle fields := by
  obtain ⟨parts,_,_,ran⟩ := run_bind_success _ _ _ _ _ ran
  obtain ⟨content,_,_,ran⟩ := run_bind_success _ _ _ _ _ ran
  cases ran
  rfl

theorem convert_title (ran : (convert (.object fields)).run.run s = (.ok document,s')) :
    document.title = translatedTitle fields := by
  rw [convert_eq] at ran
  obtain ⟨made,_,traversed,ran⟩ := run_bind_success _ _ _ _ _ ran
  obtain ⟨_,_,_,ran⟩ := run_bind_success _ _ _ _ _ ran
  cases ran
  unfold traverse at traversed
  split at traversed
  next project described =>
    rw [translatedTitle_project fields project described]
    exact convertProject_title _ _ _ _ traversed
  next layout =>
    rw [(titles_layout fields layout).2]
    exact convertLayout_title _ _ _ _ traversed

end Titles

/-- A store that keeps in mind what it is given. -/
def recording {σ : Type} (store : DocumentStore σ) : DocumentStore (σ × List NewDocument) where
  name := store.name
  create document state :=
    let (result,inner) := store.create document state.1
    (result,(inner,state.2 ++ [document]))

theorem recording_create {σ : Type} (store : DocumentStore σ) (document : NewDocument) (state : σ)
    (log : List NewDocument) : (recording store).create document (state,log) =
      ((store.create document state).1,((store.create document state).2,log ++ [document])) := rfl

/-- A translated design as a store is given it. -/
def handedOver (fields : Table Value) (document : DesignDocument) : NewDocument :=
  ⟨title fields,Document.toValues document.content,document.type,[],"publish"⟩

section Exports

variable {σ : Type} (store : DocumentStore σ) (text source : String) (fields : Table Value) (document : DesignDocument)
  (drawn drawn' : Nat) (parsed : parse text source = .ok (.object fields))
  (translated : (convert (.object fields)).run.run drawn = (.ok document,drawn'))
include parsed translated

theorem publish_run (state : σ) : (publish store text source).run.run (state,drawn) =
    ((store.create (handedOver fields document) state).1.map fun id => (id,document),
      ((store.create (handedOver fields document) state).2,drawn')) := by
  unfold publish
  rw [parsed]
  show (Page.Storing.ofBuild (convert (.object fields)) >>= _).run.run (state,drawn) = _
  rw [run_bind,Page.ofBuild_run,translated]
  dsimp only
  have step : (Page.Storing.ofStep (store.create (handedOver fields document))).run.run (state,drawn') =
      (.ok (store.create (handedOver fields document) state).1,
        ((store.create (handedOver fields document) state).2,drawn')) := rfl
  show (Page.Storing.ofStep (store.create (handedOver fields document)) >>= _).run.run (state,drawn') = _
  rw [run_bind,step]
  dsimp only
  cases (store.create (handedOver fields document) state).1 <;> rfl

theorem template_run : (template text source).run.run drawn = (.ok { document with title := title fields },drawn') := by
  unfold template
  rw [parsed]
  show (convert (.object fields) >>= _).run.run drawn = _
  rw [run_bind,translated]
  rfl

end Exports

/-- What is given back and what is written are both the stored document, but for the title that is given back. -/
structure SameDocument (given written : DesignDocument) (stored : NewDocument) : Prop where
  type : given.type = stored.type
  content : Document.toValues given.content = stored.content
  writtenTitle : written.title = stored.title
  writtenType : written.type = stored.type
  writtenContent : Document.toValues written.content = stored.content

/-- An export stores one document, the one that is written without it. What it gives back has another title exactly
where a project has no name. -/
theorem export_agrees_iff {σ : Type} (store : DocumentStore σ) (text source : String) (fields : Table Value)
    (document : DesignDocument) (drawn drawn' : Nat) (parsed : parse text source = .ok (.object fields))
    (translated : (convert (.object fields)).run.run drawn = (.ok document,drawn')) (state state' : σ) (id : String)
    (created : store.create (handedOver fields document) state = (.ok id,state')) :
    ∃ given written stored,
      (publish (recording store) text source).run.run ((state,[]),drawn) = (.ok (id,given),((state',[stored]),drawn')) ∧
      (template text source).run.run drawn = (.ok written,drawn') ∧ SameDocument given written stored ∧
      stored.title = title fields ∧ (given.title = stored.title ↔ Titled fields) := by
  have recorded : (recording store).create (handedOver fields document) (state,[]) =
      (.ok id,(state',[handedOver fields document])) := by
    rw [recording_create,created]
    rfl
  refine ⟨document,{ document with title := title fields },handedOver fields document,?_,
    template_run text source fields document drawn drawn' parsed translated,⟨rfl,rfl,rfl,rfl,rfl⟩,rfl,?_⟩
  · rw [publish_run (recording store) text source fields document drawn drawn' parsed translated,recorded]
    rfl
  · rw [convert_title fields document drawn drawn' translated]
    exact translatedTitle_iff fields

/-- A store that keeps its documents in a list. -/
def listStore : DocumentStore (List NewDocument) := ⟨"list",fun document log => (.ok "1",log ++ [document])⟩

/-- A project without a name is given back under another title than it is stored and written under. -/
theorem nameless_differs : ∃ given written stored,
    (publish listStore "\x7b\"proyecto\":\x7b\x7d\x7d" "design").run.run ([],0) = (.ok ("1",given),([stored],0)) ∧
    (template "\x7b\"proyecto\":\x7b\x7d\x7d" "design").run.run 0 = (.ok written,0) ∧
    stored.title = .str "Lovable Design" ∧ written.title = stored.title ∧ given.title = .str "Lovable Project" :=
  ⟨_,_,_,rfl,rfl,rfl,rfl,rfl⟩

def shopText : String := "\x7b\"proyecto\":\x7b\"nombre\":\"Shop\"\x7d\x7d"

def shopFields : Table Value := [("proyecto",.object [("nombre",.str "Shop")])]

/-- A project with a name is given back under the title it is stored under. -/
theorem shop_agrees : parse shopText "design" = .ok (.object shopFields) ∧
    ∃ given written stored state, (publish (recording listStore) shopText "design").run.run (([],[]),0) =
      (.ok ("1",given),((state,[stored]),0)) ∧ (template shopText "design").run.run 0 = (.ok written,0) ∧
      SameDocument given written stored ∧ given.title = stored.title := by
  have parsed : parse shopText "design" = .ok (.object shopFields) := rfl
  obtain ⟨given,written,stored,stores,writes,same,_,titled⟩ := export_agrees_iff listStore shopText "design" shopFields
    ⟨.str "Shop",.str "page",[]⟩ 0 0 parsed rfl [] _ "1" rfl
  refine ⟨parsed,given,written,stored,_,stores,writes,same,titled.mpr fun project described => ?_⟩
  cases described
  exact .inl rfl

end Pagewright.Design
