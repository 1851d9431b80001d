import Pagewright.Proofs.Except
import Pagewright.Proofs.Style.Properties

/-! Colors that are declared again. The root block of a generated stylesheet declares the colors line by line, and it is
read back up to the first color whose value holds a closing brace, which ends the block. -/
namespace Pagewright.Style
open Text (finds firstMatch? span_eq_iff trim)

/-- The line that declares a property. -/
def propertyLine (property : List Char × List Char) : List Char :=
  "  --".toList ++ property.1 ++ ": ".toList ++ property.2 ++ ";\n".toList

theorem propertyLine_parts (property : List Char × List Char) : propertyLine property =
    [' ',' ','-','-'] ++ property.1 ++ [':',' '] ++ property.2 ++ [';','\n'] := rfl

/-- Whether the value of a property can stand in a block. -/
def staysInside (property : List Char × List Char) : Bool := !property.2.contains '\x7d'

theorem rootDeclarations_lines (colors : Table String) (filled : colors ≠ []) : (rootDeclarations colors).toList =
    ":root \x7b\n".toList ++ (colors.map asProperty).flatMap propertyLine ++ "\x7d\n\n".toList := by
  have lines : (String.join (colors.map fun entry => s!"  --{entry.1}: {entry.2};\n")).toList =
      (colors.map asProperty).flatMap propertyLine := by
    rw [String.toList_join,List.flatMap_map,List.flatMap_map]
    refine List.flatMap_congr fun entry _ => ?_
    show ("  --" ++ entry.1 ++ ": " ++ entry.2 ++ ";\n").toList = _
    simp only [String.toList_append]
    rfl
  unfold rootDeclarations
  rw [if_neg (by simpa using filled)]
  simp only [String.toList_append,lines]

theorem customProperty?_elsewhere (c : Char) (s : List Char) (other : c ≠ '-') : customProperty? (c :: s) = none := by
  by_contra found
  obtain ⟨⟨⟨name,value⟩,rest⟩,read⟩ := Option.ne_none_iff_exists'.mp found
  obtain ⟨body,_,⟨_,_,_,_,rfl⟩,_,split⟩ := (customProperty?_eq_some_iff _ _ _ _).mp read
  exact other (List.cons.inj split).1

theorem finds_unended (s : List Char) (unended : ';' ∉ s) : finds customProperty? s = [] := by
  have passed := Text.finds_skip customProperty? s [] fun t _ within => by
    by_contra found
    obtain ⟨⟨⟨name,value⟩,rest⟩,read⟩ := Option.ne_none_iff_exists'.mp found
    obtain ⟨body,_,⟨_,_,_,_,rfl⟩,_,split⟩ := (customProperty?_eq_some_iff _ _ _ _).mp read
    rw [List.append_nil] at split
    exact unended (within.subset (split ▸ by simp))
  rw [List.append_nil] at passed
  exact passed

theorem mark_no_name : isNameChar '\x7d' = false ∧ isNameChar ';' = false := by decide

section Lines

variable (property : List Char × List Char) (declared : Declared property)
include declared

theorem finds_line (rest : List Char) : finds customProperty? ('\n' :: (propertyLine property ++ rest)) =
    property :: finds customProperty? ('\n' :: rest) := by
  obtain ⟨name,value⟩ := property
  have spaced : trim (' ' :: value) = value := declared.trimmed
  have read : customProperty? ("--".toList ++ name ++ ':' :: (' ' :: value ++ [';']) ++ ('\n' :: rest)) =
      some ((name,value),'\n' :: rest) := by
    rw [customProperty?_eq_some_iff]
    exact ⟨' ' :: value,_,⟨declared.named,declared.name,List.cons_ne_nil _ _,by simpa using declared.within,rfl⟩,
      spaced.symm,rfl⟩
  have split : '\n' :: (propertyLine (name,value) ++ rest) =
      ['\n',' ',' '] ++ ("--".toList ++ name ++ ':' :: (' ' :: value ++ [';']) ++ ('\n' :: rest)) := by
    simp [propertyLine_parts]
  rw [split,Text.finds_skip]
  · exact Text.finds_found customProperty? customProperty?_shortens _ _ _ _ read
  · intro s proper within
    cases s with
    | nil => exact absurd rfl proper
    | cons c s =>
      have white : c ∈ ['\n',' ',' '] := within.subset List.mem_cons_self
      exact customProperty?_elsewhere c _ fun same => absurd (same ▸ white) (by decide)

theorem line_open (inside : staysInside property = true) : '\x7d' ∉ propertyLine property := by
  have name : '\x7d' ∉ property.1 := fun within => Bool.eq_false_iff.mp mark_no_name.1 (declared.name _ within)
  have value : '\x7d' ∉ property.2 := by simpa [staysInside] using inside
  simp [propertyLine_parts,name,value]

/-- A line whose value holds a closing brace is cut off at it, before the semicolon. -/
theorem line_cut (outside : staysInside property = false) : ∃ front back, propertyLine property = front ++ '\x7d' :: back ∧
    '\x7d' ∉ front ∧ ';' ∉ front := by
  have name : '\x7d' ∉ property.1 := fun within => Bool.eq_false_iff.mp mark_no_name.1 (declared.name _ within)
  have unended : ';' ∉ property.1 := fun within => Bool.eq_false_iff.mp mark_no_name.2 (declared.name _ within)
  have brace : '\x7d' ∈ property.2 := by simpa [staysInside] using outside
  obtain ⟨first,last,split,fresh⟩ := List.eq_append_cons_of_mem brace
  have within : ';' ∉ first := fun inside => declared.within (split ▸ List.mem_append_left _ inside)
  refine ⟨"  --".toList ++ property.1 ++ ": ".toList ++ first,last ++ ";\n".toList,?_,?_,?_⟩
  · simp [propertyLine_parts,split]
  · simp [name,fresh]
  · simp [unended,within]

end Lines

/-- Lines up to a closing brace behind them, or up to the first one within them: what is read back are the properties
before the first value that holds one. -/
theorem lines_block (properties : List (List Char × List Char)) (declared : ∀ property ∈ properties, Declared property)
    (tail : List Char) : ∃ block rest, properties.flatMap propertyLine ++ '\x7d' :: tail = block ++ '\x7d' :: rest ∧
      '\x7d' ∉ block ∧ finds customProperty? ('\n' :: block) = properties.takeWhile staysInside := by
  induction properties with
  | nil => exact ⟨[],tail,rfl,List.not_mem_nil,finds_unended _ (by decide)⟩
  | cons property properties ih =>
    obtain ⟨first,later⟩ := List.forall_mem_cons.mp declared
    rw [List.flatMap_cons,List.takeWhile_cons]
    cases inside : staysInside property with
    | true =>
      obtain ⟨block,rest,split,within,found⟩ := ih later
      refine ⟨propertyLine property ++ block,rest,by rw [List.append_assoc,split,List.append_assoc],?_,?_⟩
      · rw [List.mem_append,not_or]
        exact ⟨line_open property first inside,within⟩
      · rw [finds_line property first,found]
        rfl
    | false =>
      obtain ⟨front,back,split,within,unended⟩ := line_cut property first inside
      refine ⟨front,back ++ (properties.flatMap propertyLine ++ '\x7d' :: tail),by simp [split],within,?_⟩
      exact finds_unended _ (by simpa using unended)

theorem rootBlock?_block (block rest : List Char) (filled : block ≠ []) (within : '\x7d' ∉ block) :
    rootBlock? (":root \x7b".toList ++ block ++ '\x7d' :: rest) = some (block,rest) := by
  have opened : Text.after? ":root".toList (":root \x7b".toList ++ block ++ '\x7d' :: rest) =
      some (" \x7b".toList ++ block ++ '\x7d' :: rest) := Text.after?_eq_some_iff.mpr (by simp)
  have spanned := (span_eq_iff (· != '\x7d') _ block rest '\x7d').mpr
    ⟨fun c inside => bne_iff_ne.mpr fun same => within (same ▸ inside),by decide,rfl⟩
  have dropped : Text.dropBlanks (" \x7b".toList ++ block ++ '\x7d' :: rest) = '\x7b' :: (block ++ '\x7d' :: rest) := rfl
  unfold rootBlock?
  rw [opened]
  simp only [Option.bind_eq_bind,Option.bind_some,dropped,spanned]

theorem rootBlock?_body (s body rest : List Char) (read : rootBlock? s = some (body,rest)) : '\x7d' ∉ body := by
  obtain ⟨after,opened,read⟩ := Option.bind_eq_some_iff.mp read
  split at read
  · split at read
    · cases read
    · cases read
    · next spanned =>
      cases read
      obtain ⟨passed,_,_⟩ := (span_eq_iff _ _ _ _ _).mp spanned
      exact fun inside => by simpa using passed _ inside
  · cases read

theorem extract_colors (project : Project) (data : StyleData) (extracted : extract project = .ok data) :
    data.colors = extractColors (combinedCss project) := by
  obtain ⟨_,_,extracted⟩ := except_bind_success _ _ _ extracted
  cases extracted
  rfl

/-- A telling property that runs over a closing brace: its declaration lacks the semicolon before the brace. -/
def RunsOver (css : List Char) : Prop :=
  ∃ name body found, IsProperty name body found ∧ isColorName name = true ∧ '\x7d' ∈ body ∧ found <:+: css

theorem colorProperties_closed (css : List Char) (closed : ¬ RunsOver css) (property : List Char × List Char)
    (member : property ∈ colorProperties css) : '\x7d' ∉ property.2 := by
  intro brace
  obtain telling | root := List.mem_append.mp member
  · obtain ⟨found,told⟩ := List.mem_filter.mp telling
    obtain ⟨body,found,is,value,within⟩ := mem_finds_property css property found
    rw [value] at brace
    exact closed ⟨property.1,body,found,is,told,(Text.trim_within body).subset brace,within⟩
  · cases first : firstMatch? rootBlock? css with
    | none => rw [first] at root; cases root
    | some block =>
      rw [first] at root
      obtain ⟨t,rest,_,read⟩ := firstMatch?_success rootBlock? css block first
      obtain ⟨body,_,⟨_,_,_,_,rfl⟩,value,within⟩ := mem_finds_property block property root
      rw [value] at brace
      exact rootBlock?_body t block rest read (within.subset (by simp [(Text.trim_within body).subset brace]))

section Colors

variable (project : Project) (data : StyleData) (extracted : extract project = .ok data)
include extracted

theorem colors_declared : ∀ property ∈ data.colors.map asProperty, Declared property := by
  intro property member
  obtain ⟨color,inside,rfl⟩ := List.mem_map.mp member
  rw [extract_colors project data extracted] at inside
  exact colorProperties_declared _ _ (extractColors_declared _ color inside)

/-- The first root block of a generated stylesheet, and the colors that it declares. -/
theorem generateStylesheet_block (filled : data.colors ≠ []) :
    ∃ block, firstMatch? rootBlock? (generateStylesheet data).toList = some block ∧
      finds customProperty? block = (data.colors.map asProperty).takeWhile staysInside := by
  obtain ⟨block,rest,split,within,found⟩ := lines_block _ (colors_declared project data extracted)
    ("\n\n".toList ++ data.customCss.toList)
  have sheet : (generateStylesheet data).toList = ":root \x7b".toList ++ ('\n' :: block) ++ '\x7d' :: rest := by
    have joined := congrArg (":root \x7b\n".toList ++ ·) split
    rw [generateStylesheet,String.toList_append,rootDeclarations_lines data.colors filled]
    simpa using joined
  refine ⟨'\n' :: block,?_,found⟩
  rw [sheet]
  exact firstMatch?_found _ _ rest _ (by simp) (rootBlock?_block _ _ (List.cons_ne_nil _ _) (by simpa using within))

end Colors

/-- The generated stylesheet declares the colors again up to the first one whose value holds a closing brace: all of them
just if no value holds one, and so whenever no telling property of the stylesheets runs over a brace. -/
theorem generateStylesheet_redeclares (project : Project) (data : StyleData) (extracted : extract project = .ok data)
    (filled : data.colors ≠ []) :
    ∃ block, firstMatch? rootBlock? (generateStylesheet data).toList = some block ∧
      finds customProperty? block = (data.colors.map asProperty).takeWhile staysInside ∧
      (finds customProperty? block = data.colors.map asProperty ↔
        ∀ color ∈ data.colors, '\x7d' ∉ color.2.toList) ∧
      (¬ RunsOver (combinedCss project) → finds customProperty? block = data.colors.map asProperty) := by
  obtain ⟨block,first,found⟩ := generateStylesheet_block project data extracted filled
  have all : finds customProperty? block = data.colors.map asProperty ↔
      ∀ color ∈ data.colors, '\x7d' ∉ color.2.toList := by
    rw [found,List.takeWhile_eq_self_iff,List.forall_mem_map]
    simp [staysInside,asProperty]
  refine ⟨block,first,found,all,fun closed => all.mpr fun color member => ?_⟩
  rw [extract_colors project data extracted] at member
  exact colorProperties_closed _ closed _ (extractColors_declared _ color member)

/-- A project with one stylesheet and nothing else. -/
def styledProject (css : String) : Project :=
  ⟨.str "Sol",.str "",[],[],.empty,⟨[],[],[⟨.str "index.css",.str "src/index.css",css.utf8ByteSize,.str "css",.str css⟩]⟩,
    .unknown,.empty,none⟩

/-- What the first root block of a stylesheet declares. -/
def firstBlock (sheet : String) : List (List Char × List Char) :=
  ((firstMatch? rootBlock? sheet.toList).map (finds customProperty?)).getD []

theorem styledProject_redeclared : ∃ data,
    extract (styledProject ":root \x7b --brand: #123; --ink: navy; \x7d\n.card \x7b color: red; \x7d") = .ok data ∧
    data.colors ≠ [] ∧ firstBlock (generateStylesheet data) = data.colors.map asProperty := by
  have colors : extractColors (combinedCss (styledProject
      ":root \x7b --brand: #123; --ink: navy; \x7d\n.card \x7b color: red; \x7d")) = [("brand","#123"),("ink","navy")] := by
    decide +kernel
  obtain ⟨data,extracted⟩ : ∃ data, extract (styledProject
      ":root \x7b --brand: #123; --ink: navy; \x7d\n.card \x7b color: red; \x7d") = .ok data := ⟨_,rfl⟩
  have declared := (extract_colors _ _ extracted).trans colors
  have filled : data.colors ≠ [] := by simp [declared]
  obtain ⟨block,first,_,all,_⟩ := generateStylesheet_redeclares _ data extracted filled
  refine ⟨data,extracted,filled,?_⟩
  rw [firstBlock,first]
  exact all.mpr (by simp [declared])

/-- A declaration without a semicolon at the end of its rule is read up to the next semicolon, and the brace in what is
read ends the block in which it is declared again. -/
theorem unended_color_lost : ∃ data,
    extract (styledProject ".a \x7b --primary: red \x7d\n.b \x7b color: blue; \x7d") = .ok data ∧
    data.colors = [("primary","red \x7d\n.b \x7b color: blue")] ∧ firstBlock (generateStylesheet data) = [] ∧
    firstBlock (generateStylesheet data) ≠ data.colors.map asProperty := by
  have colors : extractColors (combinedCss (styledProject ".a \x7b --primary: red \x7d\n.b \x7b color: blue; \x7d")) =
      [("primary","red \x7d\n.b \x7b color: blue")] := by
    decide +kernel
  obtain ⟨data,extracted⟩ : ∃ data,
      extract (styledProject ".a \x7b --primary: red \x7d\n.b \x7b color: blue; \x7d") = .ok data := ⟨_,rfl⟩
  have declared := (extract_colors _ _ extracted).trans colors
  obtain ⟨block,first,found⟩ := generateStylesheet_block _ data extracted (by simp [declared])
  have lost : firstBlock (generateStylesheet data) = [] := by
    rw [firstBlock,first]
    refine found.trans ?_
    rw [declared]
    decide
  refine ⟨data,extracted,declared,lost,?_⟩
  rw [lost,declared]
  exact (List.cons_ne_nil _ _).symm

end Pagewright.Style
