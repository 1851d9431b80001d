import Pagewright.Document.Node
import Pagewright.Proofs.Except
import Pagewright.Proofs.Table
import Pagewright.Proofs.Text.Marks
import Pagewright.Proofs.Text.Replacing
import Pagewright.Proofs.Value

/-! Attributes of nodes. An animation of any shape becomes attributes whose values are allowed ones, unless its delay is
an infinite number. In markup a value is written without quotes and angle brackets, with references in their place, and
the references of a text are read back as the characters that they stand for. So a row of attributes is read back as it
was written, whatever its values are, and no two rows are written the same. -/
namespace Pagewright.Text

/-- The references of markup, each with the character that it stands for. -/
def references : List (List Char × Char) :=
  [(['&','a','m','p',';'],'&'),(['&','l','t',';'],'<'),(['&','g','t',';'],'>'),(['&','q','u','o','t',';'],'"'),
    (['&','#','x','2','7',';'],'\'')]

/-- A reference at the start of a text, as the character that it stands for. -/
def reference? (s : List Char) : Option (List Char × List Char) :=
  references.findSome? fun reference => (after? reference.1 s).map fun rest => ([reference.2],rest)

/-- A text with the characters that its references stand for. -/
def unescapeMarkup (s : List Char) : List Char := substitute reference? s

theorem reference?_shortens : Shortens fun s => (reference? s).map Prod.snd := by
  intro c s rest found
  obtain ⟨⟨_,_⟩,recognised,rfl⟩ := Option.map_eq_some_iff.mp found
  obtain ⟨⟨written,_⟩,known,passed⟩ := List.exists_of_findSome?_eq_some recognised
  obtain ⟨rest,behind,same⟩ := Option.map_eq_some_iff.mp passed
  cases same
  have proper : ∀ reference ∈ references, 0 < reference.1.length := by decide
  have long : 0 < written.length := proper _ known
  have size := congrArg List.length (after?_eq_some_iff.mp behind)
  simp only [List.length_cons,List.length_append] at size ⊢
  omega

/-- A character is written as a reference that stands for it, or as it is. -/
theorem escapeChar_cases (c : Char) :
    (escapeChar c,c) ∈ references ∨ escapeChar c = [c] ∧ c ∉ ['&','<','>','"','\''] := by
  unfold escapeChar
  split
  · exact .inl (by decide)
  · exact .inl (by decide)
  · exact .inl (by decide)
  · exact .inl (by decide)
  · exact .inl (by decide)
  next ampersand less greater quote apostrophe =>
    refine .inr ⟨rfl,?_⟩
    simp only [List.mem_cons,List.not_mem_nil,or_false,not_or]
    exact ⟨ampersand,less,greater,quote,apostrophe⟩

theorem unescapeMarkup_reference (written rest : List Char) (c : Char) (known : (written,c) ∈ references) :
    unescapeMarkup (written ++ rest) = c :: unescapeMarkup rest := by
  simp only [references,List.mem_cons,List.not_mem_nil,or_false,Prod.mk.injEq] at known
  obtain ⟨rfl,rfl⟩ | ⟨rfl,rfl⟩ | ⟨rfl,rfl⟩ | ⟨rfl,rfl⟩ | ⟨rfl,rfl⟩ := known
  all_goals exact substitute_found reference? reference?_shortens '&' _ [_] rest rfl

theorem unescapeMarkup_plain (c : Char) (rest : List Char) (plain : c ≠ '&') :
    unescapeMarkup (c :: rest) = c :: unescapeMarkup rest :=
  substitute_kept _ c rest (by simp [reference?,references,after?,Ne.symm plain])

/-- A text is read back from what is written for it. -/
theorem unescapeMarkup_escapeMarkup (s : List Char) : unescapeMarkup (escapeMarkup s) = s := by
  induction s with
  | nil => rfl
  | cons c s ih =>
    have split : escapeMarkup (c :: s) = escapeChar c ++ escapeMarkup s := List.flatMap_cons
    rw [split]
    obtain known | ⟨same,plain⟩ := escapeChar_cases c
    · rw [unescapeMarkup_reference _ _ c known,ih]
    · rw [same,List.singleton_append,unescapeMarkup_plain c _ (fun ampersand => plain (by simp [ampersand])),ih]

/-- Of the characters that end quotes or open tags, none is written for any text. -/
theorem mem_escapeMarkup (s : List Char) (c : Char) (inside : c ∈ escapeMarkup s) : c ∉ ['"','\'','<','>'] := by
  obtain ⟨d,_,inside⟩ := List.mem_flatMap.mp inside
  have harmless : ∀ reference ∈ references, (reference.1.all fun c => c ∉ ['"','\'','<','>']) = true := by decide
  obtain known | ⟨same,plain⟩ := escapeChar_cases d
  · exact of_decide_eq_true (List.all_eq_true.mp (harmless _ known) c inside)
  · rw [same,List.mem_singleton] at inside
    subst inside
    simp only [List.mem_cons,List.not_mem_nil,or_false,not_or] at plain ⊢
    exact ⟨plain.2.2.2.1,plain.2.2.2.2,plain.2.1,plain.2.2.1⟩

end Pagewright.Text

namespace Pagewright.Document
open Text (escapeMarkup unescapeMarkup)

section Animation

/-- A row of at most one attribute, under a key and with an allowed text. -/
inductive AtMost (key : String) (allowed : String → Prop) : Table String → Prop where
  | absent : AtMost key allowed []
  | given (text : String) (proper : allowed text) : AtMost key allowed [(key,text)]

/-- The texts of delays. -/
def IsDelay (text : String) : Prop := ∃ n : Int, 1 ≤ n ∧ n ≤ 3000 ∧ text = toString n

/-- The attributes that an animation may have: none at all, or a name that is not empty and, of the other three, those
that are given, with allowed texts. -/
structure AnimationShaped (attributes : Table String) : Prop where
  known : attributes.keys.Sublist ["data-lovable-anim","data-lovable-delay","data-lovable-duration","data-lovable-once"]
  named : attributes = [] ∨ ∃ name, attributes.get? "data-lovable-anim" = some name ∧ name ≠ ""
  delay : ∀ text, attributes.get? "data-lovable-delay" = some text → IsDelay text
  duration : ∀ text, attributes.get? "data-lovable-duration" = some text → text ∈ ["fast","normal","slow"]
  once : ∀ text, attributes.get? "data-lovable-once" = some text → text ∈ ["true","false"]

/-- An animation with an infinite number for its delay. -/
def EndlessDelay (animation : Value) : Prop := ∃ (fields : Table Value) (delay : Value),
  animation = .object fields ∧ fields.get? "delay" = some delay ∧ delay.Endless

theorem animationShaped_nil : AnimationShaped [] := by
  refine ⟨List.nil_sublist _,.inl rfl,?_,?_,?_⟩ <;>
    intro _ given <;> cases given

theorem animationShaped_cons (name : String) (proper : name ≠ "") (delay duration once : Table String)
    (delayed : AtMost "data-lovable-delay" IsDelay delay)
    (lasting : AtMost "data-lovable-duration" (· ∈ ["fast","normal","slow"]) duration)
    (replayed : AtMost "data-lovable-once" (· ∈ ["true","false"]) once) :
    AnimationShaped (("data-lovable-anim",name) :: delay ++ duration ++ once) := by
  cases delayed <;> cases lasting <;> cases replayed <;>
    constructor <;> simp_all [Table.keys,Table.get?_cons]

/-- A delay is read as a number within its bounds, or not at all, but for an infinite one. -/
theorem clampDelay_finite (v : Value) (finite : ¬ v.Endless) :
    ∃ delay, clampDelay v = .ok delay ∧ ∀ n ∈ delay, 0 ≤ n ∧ n ≤ 3000 := by
  unfold clampDelay
  cases whole : v.toInt with
  | ok n =>
    refine ⟨_,rfl,fun m same => ?_⟩
    cases same
    unfold maxDelay
    omega
  | error fault =>
    cases fault with
    | overflow message => exact absurd (v.toInt_overflows.mp ⟨message,whole⟩) finite
    | _ => exact ⟨none,rfl,fun _ given => by cases given⟩

theorem clampDelay_endless (v : Value) (endless : v.Endless) : Overflows (clampDelay v) := by
  obtain ⟨message,refused⟩ := v.toInt_overflows.mpr endless
  exact ⟨message,by rw [clampDelay,refused]⟩

variable (fields : Table Value)

theorem delayAttribute_finite (finite : ∀ delay, fields.get? "delay" = some delay → ¬ delay.Endless) :
    ∃ row, delayAttribute fields = .ok row ∧ AtMost "data-lovable-delay" IsDelay row := by
  have given : ¬ ((fields.get? "delay").getD .null).Endless := by
    cases found : fields.get? "delay" with
    | some delay => exact finite delay found
    | none => rintro ⟨x,same,_⟩; cases same
  obtain ⟨delay,read,bounds⟩ := clampDelay_finite _ given
  unfold delayAttribute
  dsimp only
  rw [read]
  cases ((fields.get? "delay").getD .null).isTruthy with
  | false => exact ⟨[],rfl,.absent⟩
  | true =>
    cases delay with
    | none => exact ⟨[],rfl,.absent⟩
    | some n =>
      obtain ⟨low,high⟩ := bounds n rfl
      by_cases none : n = 0
      · subst none
        exact ⟨[],rfl,.absent⟩
      · refine ⟨[("data-lovable-delay",toString n)],?_,.given _ ⟨n,by omega,high,rfl⟩⟩
        simp [bind,Except.bind,pure,Except.pure,none]

theorem delayAttribute_endless (delay : Value) (found : fields.get? "delay" = some delay) (endless : delay.Endless) :
    Overflows (delayAttribute fields) := by
  unfold delayAttribute
  simp only [found,Option.getD_some,endless.isTruthy,if_true]
  exact (overflows_bind _ _).mpr (.inl (clampDelay_endless delay endless))

theorem durationAttribute_atMost :
    AtMost "data-lovable-duration" (· ∈ ["fast","normal","slow"]) (durationAttribute fields) := by
  unfold durationAttribute
  dsimp only
  split
  · exact .absent
  · split
    next known found => exact .given known (List.mem_of_find?_eq_some found)
    next => exact .given "normal" (by decide)

theorem onceAttribute_atMost : AtMost "data-lovable-once" (· ∈ ["true","false"]) (onceAttribute fields) := by
  unfold onceAttribute
  split
  · exact .absent
  · refine .given _ ?_
    split <;> decide

/-- The name of an animation object is not empty: where its type is empty or absent it has the default one. -/
theorem typeName_ne_empty (type : Value) : (type.orElse (.str defaultAnimation)).text ≠ "" := by
  unfold Value.orElse
  split
  next present => exact Value.text_ne_empty type present
  next => decide

/-- An animation of any shape becomes attributes with allowed texts, unless its delay is infinite. -/
theorem animationAttributes_shaped_iff (animation : Value) :
    (∃ attributes, animationAttributes animation = .ok attributes ∧ AnimationShaped attributes) ↔
      ¬ EndlessDelay animation := by
  constructor
  · rintro ⟨attributes,ok,_⟩ ⟨fields,delay,rfl,found,endless⟩
    obtain ⟨message,refused⟩ := delayAttribute_endless fields delay found endless
    have present : (Value.object fields).isTruthy = true := by
      cases fields with
      | nil => cases found
      | cons => rfl
    simp [animationAttributes,present,refused,bind,Except.bind] at ok
  · intro finite
    unfold animationAttributes
    cases present : animation.isTruthy with
    | false => exact ⟨[],rfl,animationShaped_nil⟩
    | true =>
      cases animation with
      | str name =>
        have proper : name ≠ "" := by simpa [Value.isTruthy] using present
        exact ⟨_,rfl,animationShaped_cons name proper [] [] [] .absent .absent .absent⟩
      | object fields =>
        obtain ⟨delay,read,delayed⟩ := delayAttribute_finite fields
          fun delay found endless => finite ⟨fields,delay,rfl,found,endless⟩
        have named := typeName_ne_empty ((Table.get? fields "type").getD .null)
        refine ⟨_,?_,animationShaped_cons _ named _ _ _ delayed (durationAttribute_atMost fields)
          (onceAttribute_atMost fields)⟩
        simp only [Bool.not_true,Bool.false_eq_true,if_false,read]
        rfl
      | _ => exact ⟨[],rfl,animationShaped_nil⟩

/-- An animation whose delay is negative infinity. -/
def endlessAnimation : Value := .object [("type",.str "fadeIn"),("delay",.float (-(1.0 / 0.0)))]

theorem endlessAnimation_refused :
    ¬ ∃ attributes, animationAttributes endlessAnimation = .ok attributes ∧ AnimationShaped attributes := by
  rintro ⟨attributes,ok,_⟩
  cases ok

end Animation

section Reading

/-- A character in the name of an attribute: no white space, no quote, no equals sign and no angle bracket. -/
def isAttributeChar (c : Char) : Bool := !(c.isWhitespace || ['"','=','<','>'].contains c)

/-- An attribute at the start of a text: a name, an equals sign and a value between double quotes. -/
def attribute? (s : List Char) : Option ((String × String) × List Char) :=
  let name := s.span isAttributeChar
  match name.2 with
  | '=' :: '"' :: quoted =>
    let value := quoted.span (· != '"')
    match value.2 with
    | _ :: rest => some ((String.ofList name.1,String.ofList (unescapeMarkup value.1)),rest)
    | [] => none
  | _ => none

/-- The attributes of a text with single blanks between them; `fuel` bounds their number. -/
def attributesWithin : Nat → List Char → Option (Table String)
  | 0, _ => none
  | fuel + 1, s => match attribute? s with
    | some (entry,[]) => some [entry]
    | some (entry,' ' :: rest) => (attributesWithin fuel rest).map (entry :: ·)
    | _ => none

/-- The attributes that a text writes, if it writes nothing else. -/
def readAttributes (text : String) : Option (Table String) :=
  if text.isEmpty then some [] else attributesWithin text.toList.length text.toList

/-- A name that an attribute can have. -/
def IsAttributeName (name : String) : Prop := ∀ c ∈ name.toList, isAttributeChar c = true

instance (name : String) : Decidable (IsAttributeName name) := List.decidableBAll _ _

/-- A written attribute is read back, whatever stands behind it. -/
theorem attribute?_rendered (name value : String) (named : IsAttributeName name) (rest : List Char) :
    attribute? (renderAttribute name value ++ rest) = some ((name,value),rest) := by
  have written : renderAttribute name value ++ rest =
      name.toList ++ '=' :: '"' :: (escapeMarkup value.toList ++ '"' :: rest) := by
    simp [renderAttribute]
  have front := (Text.span_eq_iff isAttributeChar _ name.toList
    ('"' :: (escapeMarkup value.toList ++ '"' :: rest)) '=').mpr ⟨named,by decide,rfl⟩
  have unquoted : ∀ c ∈ escapeMarkup value.toList, (c != '"') = true := fun c inside =>
    bne_iff_ne.mpr fun quote => Text.mem_escapeMarkup value.toList c inside (by simp [quote])
  have back := (Text.span_eq_iff (· != '"') _ (escapeMarkup value.toList) rest '"').mpr ⟨unquoted,by decide,rfl⟩
  simp only [written,attribute?,front,back,Text.unescapeMarkup_escapeMarkup,String.ofList_toList]

/-- A row of written attributes is read back with enough fuel: the first attribute by `attribute?_rendered`, the others
behind the blank that ends it. -/
theorem attributesWithin_rendered (attributes : Table String) (named : ∀ entry ∈ attributes, IsAttributeName entry.1)
    (filled : attributes ≠ []) (fuel : Nat) (enough : attributes.length ≤ fuel) :
    attributesWithin fuel (Text.join [' '] (attributes.map fun entry => renderAttribute entry.1 entry.2)) =
      some attributes := by
  induction attributes generalizing fuel with
  | nil => exact absurd rfl filled
  | cons entry others ih =>
    obtain ⟨first,later⟩ := List.forall_mem_cons.mp named
    obtain ⟨fuel,rfl⟩ := Nat.exists_eq_succ_of_ne_zero (Nat.ne_of_gt (Nat.lt_of_lt_of_le (Nat.succ_pos _) enough))
    cases others with
    | nil =>
      have read := attribute?_rendered entry.1 entry.2 first []
      rw [List.append_nil] at read
      simp only [List.map_cons,List.map_nil,Text.join,attributesWithin,read]
    | cons next others =>
      have rest := ih later (List.cons_ne_nil _ _) fuel (Nat.le_of_succ_le_succ enough)
      have read := attribute?_rendered entry.1 entry.2 first
        (' ' :: Text.join [' '] ((next :: others).map fun entry => renderAttribute entry.1 entry.2))
      simp only [List.map_cons,Text.join,List.append_assoc,List.singleton_append] at rest read ⊢
      simp only [attributesWithin,read,rest,Option.map_some]

end Reading

theorem count_join (c : Char) (apart : c ≠ ' ') (pieces : List (List Char)) :
    (Text.join [' '] pieces).count c = (pieces.map (List.count c)).sum := by
  induction pieces with
  | nil => rfl
  | cons piece others ih =>
    cases others with
    | nil => simp [Text.join]
    | cons next others =>
      have blank : [' '].count c = 0 := List.count_eq_zero.mpr (by simpa using apart)
      simp only [Text.join,List.count_append,blank,Nat.add_zero,ih,List.map_cons,List.sum_cons]

/-- The only quotes of a written attribute are the two around its value, and it has no angle brackets. -/
theorem count_renderAttribute (name value : String) (named : IsAttributeName name) (c : Char)
    (closing : c ∈ ['"','<','>']) : (renderAttribute name value).count c = if c = '"' then 2 else 0 := by
  have front : c ∉ name.toList := fun inside => by
    have proper := named c inside
    simp only [List.mem_cons,List.not_mem_nil,or_false] at closing
    obtain rfl | rfl | rfl := closing <;> exact absurd proper (by decide)
  have back : c ∉ escapeMarkup value.toList := fun inside => by
    have harmless := Text.mem_escapeMarkup value.toList c inside
    simp only [List.mem_cons,List.not_mem_nil,or_false,not_or] at closing harmless
    obtain rfl | rfl | rfl := closing
    exacts [harmless.1 rfl,harmless.2.2.1 rfl,harmless.2.2.2 rfl]
  have written : renderAttribute name value = name.toList ++ ['=','"'] ++ escapeMarkup value.toList ++ ['"'] := by
    simp [renderAttribute]
  rw [written,List.count_append,List.count_append,List.count_append,List.count_eq_zero.mpr front,
    List.count_eq_zero.mpr back]
  simp only [List.mem_cons,List.not_mem_nil,or_false] at closing
  obtain rfl | rfl | rfl := closing <;> rfl

theorem count_renderAttributes (attributes : Table String) (named : ∀ entry ∈ attributes, IsAttributeName entry.1)
    (c : Char) (closing : c ∈ ['"','<','>']) :
    (renderAttributes attributes).toList.count c = if c = '"' then 2 * attributes.length else 0 := by
  have apart : c ≠ ' ' := by
    rintro rfl
    exact absurd closing (by decide)
  rw [renderAttributes,String.toList_ofList,count_join c apart]
  induction attributes with
  | nil => simp
  | cons entry others ih =>
    obtain ⟨first,later⟩ := List.forall_mem_cons.mp named
    rw [List.map_cons,List.map_cons,List.sum_cons,ih later,count_renderAttribute _ _ first c closing,List.length_cons]
    split <;> omega

/-- The two quotes of each attribute show that the text is long enough as fuel. -/
theorem readAttributes_written (attributes : Table String) (named : ∀ entry ∈ attributes, IsAttributeName entry.1) :
    readAttributes (renderAttributes attributes) = some attributes := by
  cases attributes with
  | nil => rfl
  | cons entry others =>
    have quotes := count_renderAttributes (entry :: others) named '"' (by decide)
    have enough := List.count_le_length (a := '"') (l := (renderAttributes (entry :: others)).toList)
    rw [quotes,if_pos rfl,List.length_cons] at enough
    have filled : (renderAttributes (entry :: others)).isEmpty = false := by
      rw [← Bool.not_eq_true,String.isEmpty_iff]
      intro empty
      rw [empty] at enough
      exact absurd enough (by simp)
    rw [readAttributes,filled,if_neg Bool.false_ne_true]
    have read := attributesWithin_rendered (entry :: others) named (List.cons_ne_nil _ _)
      (renderAttributes (entry :: others)).toList.length (by rw [List.length_cons]; omega)
    simpa only [renderAttributes,String.toList_ofList] using read

/-- A row of attributes, with values of any kind, is read back in its order, and so no other row is written the same. The
only quotes of the markup are the two around each value, and it has no angle brackets. -/
theorem readAttributes_renderAttributes (attributes : Table String)
    (named : ∀ entry ∈ attributes, IsAttributeName entry.1) :
    readAttributes (renderAttributes attributes) = some attributes ∧
    (∀ c ∈ ['"','<','>'], (∀ entry ∈ attributes, c ∉ escapeMarkup entry.2.toList) ∧
      (renderAttributes attributes).toList.count c = if c = '"' then 2 * attributes.length else 0) ∧
    ∀ other : Table String, (∀ entry ∈ other, IsAttributeName entry.1) →
      renderAttributes other = renderAttributes attributes → other = attributes := by
  refine ⟨readAttributes_written attributes named,fun c closing => ⟨?_,count_renderAttributes attributes named c closing⟩,
    fun other proper same => ?_⟩
  · exact fun entry _ inside => Text.mem_escapeMarkup entry.2.toList c inside (by grind)
  · have read := readAttributes_written other proper
    rw [same,readAttributes_written attributes named] at read
    exact (Option.some.inj read).symm

theorem readAttributes_renderAttributes_hostile :
    (∀ entry ∈ [("data-a","x\" y='1' <b> &amp;"),("","&#x27;\""),("title","")], IsAttributeName entry.1) ∧
    readAttributes (renderAttributes [("data-a","x\" y='1' <b> &amp;"),("","&#x27;\""),("title","")]) =
      some [("data-a","x\" y='1' <b> &amp;"),("","&#x27;\""),("title","")] := by
  have named : ∀ entry ∈ [("data-a","x\" y='1' <b> &amp;"),("","&#x27;\""),("title","")], IsAttributeName entry.1 := by
    decide
  exact ⟨named,(readAttributes_renderAttributes _ named).1⟩

end Pagewright.Document
