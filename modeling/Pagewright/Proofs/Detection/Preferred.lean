import Pagewright.Proofs.Detection.Entries
import Pagewright.Proofs.Detection.Statistics
import Pagewright.Proofs.Files.Progress

/-! The preferred candidate. A preferences file chooses among the candidates, and where it chooses none of them the
first one is taken. The file may hold anything that is no YAML, or a value whose preferences are absent or a table of
values that can be written; with anything else there is no answer. -/
namespace Pagewright

namespace Preferences

/-- What stands under the key of the preferences in a decoded file. -/
def entryIn (data : Value) : Value :=
  match data with
  | .object fields => (Table.get? fields "preferences").getD (.object [])
  | _ => .object []

/-- The preferences in a decoded file are absent, or a table of values that can be written. -/
def Tabled (data : Value) : Prop := (entryIn data).isTruthy = true →
  ∃ entries : Table Value, entryIn data = .object entries ∧ ∀ entry ∈ entries, entry.2.isWritable = true

/-- The texts in a table of preferences; anything else holds none. -/
def textsOf (v : Value) : Table String :=
  match v with
  | .object entries => Table.mapValues Value.text entries
  | _ => []

/-- The preferences that a decoded file saves. -/
def savedIn (data : Value) : Table String := textsOf (entryIn data)

theorem writtenEntries_iff (entries : Table Value) (saved : Table String) :
    (entries.mapM fun (key,v) => do return (key,← v.written) : Except Fault (Table String)) = .ok saved ↔
      (∀ entry ∈ entries, entry.2.isWritable = true) ∧ saved = entries.mapValues Value.text := by
  induction entries generalizing saved with
  | nil =>
    constructor
    · intro ok
      cases ok
      exact ⟨nofun,rfl⟩
    · rintro ⟨_,rfl⟩
      rfl
  | cons first entries ih =>
    obtain ⟨key,v⟩ := first
    rw [List.forall_mem_cons]
    constructor
    · intro ok
      obtain ⟨entry,rest,head,tail,rfl⟩ := except_mapM_cons_success _ _ _ _ ok
      obtain ⟨text,wrote,head⟩ := except_bind_success _ _ _ head
      obtain ⟨writable,rfl⟩ := (v.written_iff text).mp wrote
      obtain ⟨others,rfl⟩ := (ih rest).mp tail
      cases head
      exact ⟨⟨writable,others⟩,rfl⟩
    · rintro ⟨⟨writable,others⟩,rfl⟩
      rw [List.mapM_cons,(ih _).mpr ⟨others,rfl⟩]
      dsimp only
      rw [(v.written_iff _).mpr ⟨writable,rfl⟩]
      rfl

theorem preferencesOf_entry (data : Value) : Store.preferencesOf (data.orElse (.object [])) =
    (((entryIn data).orElse (.object [])).fieldsFor "items" >>= fun entries : Table Value =>
      entries.mapM fun (key,v) => do return (key,← v.written)) := by
  have absent (v : Value) (plain : v.isObject = false) : entryIn (v.orElse (.object [])) = entryIn v := by
    cases v with
    | object fields => cases plain
    | _ => unfold Value.orElse; split <;> rfl
  have same : entryIn (data.orElse (.object [])) = entryIn data := by
    cases data with
    | object fields => cases fields <;> rfl
    | _ => exact absent _ rfl
  rw [← same]
  rfl

theorem preferencesOf_iff (data : Value) (saved : Table String) :
    Store.preferencesOf (data.orElse (.object [])) = .ok saved ↔ Tabled data ∧ saved = savedIn data := by
  rw [preferencesOf_entry]
  unfold Tabled savedIn
  generalize entryIn data = v
  cases truthy : v.isTruthy with
  | false =>
    rw [Value.orElse,truthy,if_neg Bool.false_ne_true]
    have none : textsOf v = [] := by
      cases v with
      | object entries => cases entries with
        | nil => rfl
        | cons first rest => cases truthy
      | _ => rfl
    rw [none]
    constructor
    · intro ok
      cases ok
      exact ⟨fun truthy => absurd truthy Bool.false_ne_true,rfl⟩
    · rintro ⟨_,rfl⟩
      rfl
  | true =>
    rw [Value.orElse,if_pos truthy]
    cases v with
    | object entries =>
      refine (writtenEntries_iff entries saved).trans (and_congr_left' ?_)
      constructor
      · exact fun writable _ => ⟨entries,rfl,writable⟩
      · intro tabled
        obtain ⟨_,same,writable⟩ := tabled rfl
        cases same
        exact writable
    | _ =>
      constructor
      · intro ok
        cases ok
      · rintro ⟨tabled,_⟩
        obtain ⟨_,same,_⟩ := tabled rfl
        cases same

/-- A content that never blocks: no YAML at all, or a value whose preferences are absent or a table. Bytes that are no
text, nesting beyond all bounds and numerals that are too long are neither. -/
def Legible (content : Content) : Prop :=
  (∃ message, content.yaml = .error (.notYaml message)) ∨ ∃ data, content.yaml = .ok data ∧ Tabled data

/-- The preferences that a content saves. -/
def saved (content : Content) : Table String :=
  match content.yaml with
  | .ok data => savedIn data
  | .error _ => []

theorem yamlOf_refused (distinct : Bool) (text : String) :
    RefusedBy (Fault.isFile · = false) (Content.yamlOf distinct text) := by
  unfold Content.yamlOf
  extract_lets body
  split
  · exact refusedBy_error _ rfl
  · split
    · exact refusedBy_ok _
    · split <;> first | exact refusedBy_ok _ | exact refusedBy_error _ rfl

theorem text_refused (content : Content) : RefusedBy (Fault.isFile · = false) content.text := by
  have decoded (data : ByteArray) : RefusedBy (Fault.isFile · = false) (Content.decode data) := by
    unfold Content.decode
    split
    · exact refusedBy_ok _
    · split
      · exact refusedBy_ok _
      · exact refusedBy_error _ rfl
  unfold Content.text
  rw [map_eq_pure_bind]
  exact refusedBy_bind _ _ (decoded _) fun _ => refusedBy_ok _

theorem yaml_refused (content : Content) : RefusedBy (Fault.isFile · = false) content.yaml := by
  unfold Content.yaml
  split
  · exact refusedBy_ok _
  · exact refusedBy_bind _ _ (text_refused _) fun text => yamlOf_refused false text

/-- Preferences are loaded from a legible content, and only from one. -/
theorem load_iff (s : Store) (files : FileTree) (content : Content) (held : files.read s.path = .ok content)
    (loaded : Table String) : s.load files = .ok loaded ↔ Legible content ∧ loaded = saved content := by
  unfold Store.load Legible saved
  rw [files.isFile_read s.path content held,held]
  dsimp only [bind,Except.bind]
  cases decoded : content.yaml with
  | ok data =>
    have legible : ((∃ message, (Except.ok data : Except Fault Value) = .error (.notYaml message)) ∨
        ∃ v, (Except.ok data : Except Fault Value) = .ok v ∧ Tabled v) ↔ Tabled data := by simp
    rw [legible]
    exact preferencesOf_iff data loaded
  | error fault =>
    have shape := yaml_refused content fault decoded
    cases fault with
    | notYaml message =>
      constructor
      · intro ok
        cases ok
        exact ⟨.inl ⟨message,rfl⟩,rfl⟩
      · rintro ⟨_,rfl⟩
        rfl
    | _ =>
      constructor
      · intro ok
        simp only [shape] at ok
        cases ok
      · rintro ⟨⟨_,same⟩ | ⟨_,same,_⟩,_⟩ <;> cases same

end Preferences

namespace Detection

/-- A candidate that is read from a table has a slug. -/
theorem Candidate.read_slug (c : Candidate) (fields : Table Value) (ok : Candidate.read (.object fields) = .ok c)
    (named : ((fields.get? "slug").getD .null).isTruthy = true) : c.slug ≠ "" := by
  obtain ⟨slug,given,ok⟩ := except_bind_success _ _ _ ok
  obtain ⟨text,wrote,ok⟩ := except_bind_success _ _ _ ok
  obtain ⟨_,_,ok⟩ := except_bind_success _ _ _ ok
  obtain ⟨_,_,ok⟩ := except_bind_success _ _ _ ok
  obtain ⟨_,_,ok⟩ := except_bind_success _ _ _ ok
  cases ok
  rw [(Value.member_object fields _ slug).mp given] at named
  rw [← ((slug.written_iff text).mp wrote).2]
  exact slug.text_ne_empty named

theorem namedSolutions_slug (v item : Value) (member : item ∈ namedSolutions v) :
    ∃ fields : Table Value, item = .object fields ∧ ((fields.get? "slug").getD .null).isTruthy = true := by
  unfold namedSolutions at member
  cases v with
  | list items =>
    obtain ⟨_,named⟩ := List.mem_filter.mp member
    cases item with
    | object fields => exact ⟨fields,rfl,named⟩
    | _ => cases named
  | _ => cases member

/-- Every candidate of a table that has been read has a slug. -/
theorem parsed_slug (data : Value) (signatures : Signatures) (parsed : parseSignatures data = .ok signatures)
    (entry : String × Signature) (member : entry ∈ signatures) (c : Candidate) (listed : c ∈ entry.2.solutions) :
    c.slug ≠ "" := by
  rw [parseSignatures_eq,readEntries_iff] at parsed
  rw [parsed.2] at member
  obtain ⟨⟨key,v⟩,_,found⟩ := List.mem_filterMap.mp member
  obtain ⟨signature,given,rfl⟩ := Option.map_eq_some_iff.mp found
  obtain ⟨fields,_,read⟩ := signatureOf_some _ _ signature given
  obtain ⟨patterns,_,read⟩ := except_bind_success _ _ _ read
  obtain ⟨solutions,solved,read⟩ := except_bind_success _ _ _ read
  cases read
  obtain ⟨item,named,ok⟩ := except_mapM_member _ _ _ solved c listed
  obtain ⟨own,rfl,slug⟩ := namedSolutions_slug _ item named
  exact c.read_slug own ok slug

namespace Recommender
open Host (Site)

variable {ρ : Type} (r : Recommender ρ) (site : Site ρ) (key : String)

/-- The candidates that are ranked are those of the table but for their state. -/
theorem solutionsFor_slug (ranked : List Candidate) (ok : r.solutionsFor key site = .ok ranked) (c : Candidate)
    (member : c ∈ ranked) :
    ∃ signature, r.signatures.get? key = some signature ∧ ∃ own ∈ signature.solutions, own.slug = c.slug := by
  cases listed : r.signatures.get? key with
  | none =>
    unfold solutionsFor at ok
    rw [listed] at ok
    cases ok
    cases member
  | some signature =>
    obtain ⟨proActive,stamped,_,each,rfl⟩ := (r.solutionsFor_iff site key signature listed ranked).mp ok
    obtain ⟨own,kept,installed,active,_,_,rfl⟩ := (forall₂_partner each).2 c (List.mem_mergeSort.mp member)
    exact ⟨signature,rfl,own,(r.coverage.kept_sublist proActive key _).subset kept,rfl⟩

/-- The candidate that preferences and ranking agree on: the one that is saved for the functionality where it is among
those ranked, the first of them otherwise. -/
structure Chosen (slug : Option String) (ranked : List Candidate) (choice : Option Candidate) : Prop where
  saved : ∀ wanted, slug = some wanted → (∃ c ∈ ranked, c.slug = wanted) →
    choice = ranked.find? (·.slug == wanted)
  first : (∀ wanted, slug = some wanted → ∀ c ∈ ranked, c.slug ≠ wanted) → choice = ranked.head?
  none : choice = none ↔ ranked = []

theorem find_slug_none (ranked : List Candidate) (wanted : String) :
    ranked.find? (·.slug == wanted) = none ↔ ∀ c ∈ ranked, c.slug ≠ wanted := by
  simp

theorem chosen_among (slug : Option String) (ranked : List Candidate) (named : ∀ c ∈ ranked, c.slug ≠ "") :
    Chosen slug ranked
      (((slug.filter (!·.isEmpty)).bind fun wanted => ranked.find? (·.slug == wanted)) <|> ranked.head?) := by
  -- No candidate has an empty slug, so passing over an empty one is not noticed.
  have found : ((slug.filter (!·.isEmpty)).bind fun wanted => ranked.find? (·.slug == wanted)) =
      slug.bind fun wanted => ranked.find? (·.slug == wanted) := by
    cases slug with
    | none => rfl
    | some wanted =>
      rw [Option.filter_some]
      split
      · rfl
      next empty =>
        obtain rfl : wanted = "" := by simpa using empty
        exact ((find_slug_none ranked "").mpr named).symm
  rw [found]
  cases chosen : slug.bind fun wanted => ranked.find? (·.slug == wanted) with
  | none =>
    have absent (wanted : String) (same : slug = some wanted) : ∀ c ∈ ranked, c.slug ≠ wanted := by
      rw [same] at chosen
      exact (find_slug_none ranked wanted).mp chosen
    refine ⟨fun wanted same there => ?_,fun _ => rfl,by simp⟩
    obtain ⟨c,member,own⟩ := there
    exact absurd own (absent wanted same c member)
  | some c =>
    obtain ⟨wanted,rfl,there⟩ := Option.bind_eq_some_iff.mp chosen
    have member := List.mem_of_find?_eq_some there
    refine ⟨fun other same _ => ?_,fun absent => ?_,?_⟩
    · cases same
      exact there.symm
    · exact absurd (by simpa using List.find?_some there) (absent wanted rfl c member)
    · constructor
      · intro none
        cases none
      · intro empty
        rw [empty] at member
        cases member

section Samples

def choiceTable : Value := .object [("functionality_mappings",.object [("forms",.object [("recommended_solutions",.list [
  .object [("slug",.str "elementor"),("type",.str "native")],.object [("slug",.str "jetpack")]])])])]

/-- A candidate as it is read where only its slug and its type are told. -/
def plainCandidate (slug type : String) : Candidate :=
  ⟨slug,.str slug,.str "",.str type,.str "free",0,[],.str genericConversion,false,false⟩

def choiceSignature : Signature :=
  ⟨"forms",.str "forms",[],[plainCandidate "elementor" "native",plainCandidate "jetpack" "plugin"]⟩

def choicePath : Path := ⟨1,["preferences.yaml"]⟩

/-- A host without a registry, where preferences are saved in a file. -/
def choosing : Recommender Unit := ⟨[("forms",choiceSignature)],none,some ⟨choicePath⟩,none,.standard⟩

def preferring (content : Content) : Site Unit := siteOf ⟨[(["preferences.yaml"],.file content)],[]⟩

theorem preferring_held (content : Content) : (preferring content).files.read choicePath = .ok content :=
  FileTree.read_standing _ choicePath ["preferences.yaml"] content
    (FileTree.locate_child _ ⟨1,[]⟩ "preferences.yaml" ⟨rfl,rfl⟩ ⟨by decide,by decide,by decide⟩) rfl

theorem choosing_ranked (content : Content) : choosing.solutionsFor "forms" (preferring content) =
    .ok [(plainCandidate "elementor" "native").withStatus true true,plainCandidate "jetpack" "plugin"] := by
  have plugin : choosing.Stamped (preferring content) (plainCandidate "jetpack" "plugin") (plainCandidate "jetpack" "plugin") :=
    ⟨false,false,rfl,rfl,rfl⟩
  have native : choosing.Stamped (preferring content) (plainCandidate "elementor" "native")
      ((plainCandidate "elementor" "native").withStatus true true) := ⟨true,true,rfl,rfl,rfl⟩
  refine (choosing.solutionsFor_iff _ "forms" choiceSignature rfl _).mpr
    ⟨false,_,rfl,.cons native (.cons plugin .nil),?_⟩
  refine (List.mergeSort_of_pairwise ?_).symm
  simp [Candidate.before,Candidate.withStatus,plainCandidate]

end Samples

/-- A list in place of a table of preferences. -/
def listedPreferences : Content := .document .yaml (.object [("preferences",.list [.str "forms"])])

/-- A table of preferences that chooses the second candidate. -/
def tabledPreferences : Content := .document .yaml (.object [("preferences",.object [("forms",.str "jetpack")])])

end Recommender

end Detection

end Pagewright
