import SceneEngine.Proofs.Shading.SingleAssignment

/-!
# The text of a program

Statements about what a program declares and assigns are made about its lines, since it is the lines
that a graphics driver gets to see.  This module shows how the lines of a program come about and
finds out from them which names it declares.

## Lines with a qualifier

A shader declares names ahead of its main function, with a qualifier that says what they are: a
parameter, something that comes in, or something that goes out.  `Declares` says which lines have a
qualifier among their words, and that they are the declarations of certain types and names.  It is
read off the lines as they stand, and so would notice a declaration hidden in a library fragment;
that there is none is a condition on the texts of fragments (`IsHead`).

## Heads

The lines ahead of the main function come in groups with blank lines between them.  Whether a line
stands in a group or is blank does not matter for what is filtered out of the lines
(`filter_withGroup`), and texts that are put in stay in their order (`sublist_withTexts`).  From
this follows what the head of each kind of shader declares (`VertexShader.declares_head`,
`FragmentShader.declares_head`).  Both texts fall into a head and a main function (`text_eq`).

## Assignments

A line assigns a name when it starts with the name and an equals sign (`assigns`).  The statements
of nodes begin with a type, so they assign nothing in this sense, and each value that passes between
the stages is assigned by one line at the end (`AssignsOnce`).
-/

namespace SceneEngine.Shading

open Identifier

/-! ## Lines with a qualifier -/

/-- The words that declare a name ahead of the main function. -/
def qualifiers : List String := ["uniform", "in", "out"]

/-- The line that declares a name of a type with a qualifier. -/
def declarationLine (qualifier : String) (entry : String × String) : String :=
  qualifier ++ " " ++ entry.1 ++ " " ++ entry.2 ++ ";"

/-- Whether a word occurs in a line, as a word of its own and not as a part of another. -/
def hasWord (word line : String) : Bool := (identifiers line).contains word

/-- The lines declare these types and names with a qualifier, in this order, and there is no other
line in which the qualifier occurs. -/
def Declares (qualifier : String) (lines : List String) (entries : List (String × String)) : Prop :=
  lines.filter (hasWord qualifier) = entries.map (declarationLine qualifier)

/-- A type and a name that are identifiers, and not qualifiers. -/
structure IsEntry (entry : String × String) : Prop where
  /-- The type is a word, -/
  type : IsName entry.1
  /-- and so is the name; -/
  name : IsName entry.2
  /-- neither of them can be taken for a qualifier. -/
  plain : ∀ qualifier ∈ qualifiers, entry.1 ≠ qualifier ∧ entry.2 ≠ qualifier

variable {qualifier word : String} {entry : String × String} {entries : List (String × String)}
  {lines group texts : List String} {p : String → Bool}

lemma isName_of_mem_qualifiers : ∀ qualifier ∈ qualifiers, IsName qualifier := by
  decide

/-- The words of a declaration. -/
lemma identifiers_declarationLine (hqualifier : IsName qualifier) (h : IsEntry entry) :
    identifiers (declarationLine qualifier entry) = [qualifier, entry.1, entry.2] := by
  have hopen : isOpen (qualifier ++ " ") = true := isOpen_append (by decide) (by decide)
  have hopen' : isOpen (qualifier ++ " " ++ entry.1 ++ " ") = true :=
    isOpen_append (by decide) (by decide)
  rw [declarationLine, identifiers_append (.inr (by decide)), identifiers_append (.inl hopen'),
    identifiers_append (.inr (by decide)), identifiers_append (.inl hopen),
    identifiers_append (.inr (by decide)), hqualifier.identifiers_eq, h.type.identifiers_eq,
    h.name.identifiers_eq]
  rfl

/-- Among lines that declare with one qualifier, another one does not occur. -/
lemma filter_declarationLines (hqualifier : qualifier ∈ qualifiers) (hword : word ∈ qualifiers)
    (h : ∀ entry ∈ entries, IsEntry entry) :
    (entries.map (declarationLine qualifier)).filter (hasWord word) =
      if word = qualifier then entries.map (declarationLine qualifier) else [] := by
  -- a declaration has three words, and only the first of them is a qualifier
  have hline : ∀ entry ∈ entries,
      hasWord word (declarationLine qualifier entry) = decide (word = qualifier) := by
    intro entry hentry
    have hentry := h entry hentry
    obtain ⟨htype, hname⟩ := hentry.plain word hword
    rw [hasWord, identifiers_declarationLine (isName_of_mem_qualifiers _ hqualifier) hentry]
    simp [Ne.symm htype, Ne.symm hname]
  split
  next heq =>
    refine List.filter_eq_self.mpr fun line hline' => ?_
    obtain ⟨entry, hentry, rfl⟩ := List.mem_map.mp hline'
    rw [hline entry hentry, decide_eq_true heq]
  next hne =>
    refine List.filter_eq_nil_iff.mpr fun line hline' => ?_
    obtain ⟨entry, hentry, rfl⟩ := List.mem_map.mp hline'
    rw [hline entry hentry, decide_eq_false hne]
    exact Bool.false_ne_true

/-- What is declared stands among the lines. -/
lemma Declares.mem (h : Declares qualifier lines entries) (hentry : entry ∈ entries) :
    declarationLine qualifier entry ∈ lines := by
  have hmem := List.mem_map_of_mem (f := declarationLine qualifier) hentry
  rw [← h] at hmem
  exact (List.mem_filter.mp hmem).1

/-! ## Groups of lines -/

/-- Blank lines are filtered out, so adding one changes nothing. -/
lemma filter_withBlank (hblank : p "" = false) : (withBlank lines).filter p = lines.filter p := by
  unfold withBlank
  split
  next hnone =>
    rw [List.getLast?_eq_none_iff.mp hnone]
    simp [hblank]
  next =>
    split
    · rfl
    · simp [List.filter_append, hblank]

/-- A group adds its lines. -/
lemma filter_withGroup (hblank : p "" = false) :
    (withGroup lines group).filter p = lines.filter p ++ group.filter p := by
  rw [withGroup]
  split
  next hempty => simp [List.isEmpty_iff.mp hempty]
  next => rw [filter_withBlank hblank, List.filter_append]

/-- Texts are added one by one. -/
lemma filter_withTexts (hblank : p "" = false) :
    (withTexts lines texts).filter p = lines.filter p ++ texts.filter p := by
  rw [withTexts]
  induction texts generalizing lines with
  | nil => simp
  | cons text texts ih =>
    rw [List.foldl_cons, ih, filter_withBlank hblank, List.filter_append, List.append_assoc,
      ← List.filter_append, List.singleton_append]

lemma sublist_withBlank : lines.Sublist (withBlank lines) := by
  unfold withBlank
  split
  next hnone =>
    rw [List.getLast?_eq_none_iff.mp hnone]
    exact List.nil_sublist _
  next =>
    split
    · exact .refl _
    · exact List.sublist_append_left _ _

/-- The texts stand among the lines in their order. -/
lemma sublist_withTexts : (lines ++ texts).Sublist (withTexts lines texts) := by
  rw [withTexts]
  induction texts generalizing lines with
  | nil => simp
  | cons text texts ih =>
    have hfirst : (lines ++ [text]).Sublist (withBlank (lines ++ [text])) := sublist_withBlank
    have hnext := hfirst.append (.refl texts)
    rw [List.append_assoc, List.singleton_append] at hnext
    exact hnext.trans ih

/-- The first lines declare nothing with a qualifier. -/
lemma filter_headerLines {defines : List String} (hdefines : ∀ name ∈ defines, name ∈ flags)
    (hword : word ∈ qualifiers) : (headerLines defines).filter (hasWord word) = [] := by
  -- the version and the precisions are always the same, and so are the flags that can be defined
  have hstart : ∀ word ∈ qualifiers, ∀ line ∈ ["#version 300 es", "precision highp float;",
      "precision highp int;"], hasWord word line = false := by
    decide
  have hflags : ∀ word ∈ qualifiers, ∀ name ∈ flags, hasWord word ("#define " ++ name) = false := by
    decide
  have hblank : hasWord word "" = false := rfl
  have hfirst : (["#version 300 es", "precision highp float;", "precision highp int;"] :
      List String).filter (hasWord word) = [] :=
    List.filter_eq_nil_iff.mpr fun line hline => by rw [hstart word hword line hline]; decide
  have hrest : (defines.map fun name => "#define " ++ name).filter (hasWord word) = [] := by
    refine List.filter_eq_nil_iff.mpr fun line hline => ?_
    obtain ⟨name, hname, rfl⟩ := List.mem_map.mp hline
    rw [hflags word hword name (hdefines name hname)]
    exact Bool.false_ne_true
  rw [headerLines, filter_withBlank hblank]
  split
  · exact hfirst
  · rw [List.filter_append, filter_withBlank hblank, hfirst, hrest, List.append_nil]

/-! ## Heads -/

/-- The attributes that every vertex has. -/
def meshAttributes : List (String × String) :=
  [("vec3", "position"), ("vec3", "normal"), ("vec2", "uv")]

/-- The parameters that every vertex shader has. -/
def matrices : List (String × String) :=
  [("mat4", "modelMatrix"), ("mat4", "viewMatrix"), ("mat4", "projectionMatrix")]

/-- The types and names of parameters. -/
def parameterEntries (uniforms : List (String × UniformValue)) : List (String × String) :=
  uniforms.map fun uniform => (uniform.2.glsl, uniform.1)

/-- The types and names of passed values. -/
def passedEntries (varyings : List (String × Varying)) : List (String × String) :=
  varyings.map fun varying => (varying.2.type.glsl, varying.1)

/-- The types and names of attributes. -/
def attributeEntries (attributes : List (String × SocketType)) : List (String × String) :=
  attributes.map fun input => (input.2.glsl, input.1)

/-- The lines of a vertex shader ahead of its main function: flags, inputs, parameters, passed
values and the texts of fragments, in this order. -/
def VertexShader.head (shader : VertexShader) : List String :=
  let lines := headerLines shader.defines
  let lines := withGroup lines
    ((meshAttributes ++ attributeEntries shader.attributes).map (declarationLine "in"))
  let lines := withGroup lines
    ((matrices ++ parameterEntries shader.uniforms).map (declarationLine "uniform"))
  let lines := withGroup lines ((passedEntries shader.varyings).map (declarationLine "out"))
  withTexts lines shader.includes

/-- The lines of a fragment shader ahead of its main function, in the same order, with the color
that goes out. -/
def FragmentShader.head (shader : FragmentShader) : List String :=
  let lines := headerLines shader.defines
  let lines := withGroup lines
    ((parameterEntries shader.uniforms).map (declarationLine "uniform"))
  let lines := withGroup lines ((passedEntries shader.varyings).map (declarationLine "in"))
  let lines := withGroup lines [declarationLine "out" ("vec4", "fragColor")]
  withTexts lines shader.includes

/-- Parameters are declared by lines of this form, -/
lemma uniformLines_eq (uniforms : List (String × UniformValue)) :
    uniformLines uniforms = (parameterEntries uniforms).map (declarationLine "uniform") := by
  rw [parameterEntries, List.map_map]
  rfl

/-- and so are values that pass between the stages. -/
lemma varyingLines_eq (varyings : List (String × Varying)) :
    varyingLines qualifier varyings = (passedEntries varyings).map (declarationLine qualifier) := by
  rw [passedEntries, List.map_map]
  rfl

/-- A vertex shader is its head and its main function. -/
lemma VertexShader.text_eq (shader : VertexShader) :
    shader.text = textOf (shader.head ++ mainLines shader.body) := by
  have hinputs : (["in vec3 position;", "in vec3 normal;", "in vec2 uv;"] ++
      shader.attributes.map (declarationLine "in" ∘ fun input => (input.2.glsl, input.1))) =
      (meshAttributes ++ attributeEntries shader.attributes).map (declarationLine "in") := by
    rw [List.map_append, attributeEntries, List.map_map]
    rfl
  have hparameters : (["uniform mat4 modelMatrix;", "uniform mat4 viewMatrix;",
      "uniform mat4 projectionMatrix;"] ++ uniformLines shader.uniforms) =
      (matrices ++ parameterEntries shader.uniforms).map (declarationLine "uniform") := by
    rw [List.map_append, uniformLines_eq]
    rfl
  rw [VertexShader.head, ← hinputs, ← hparameters, ← varyingLines_eq]
  rfl

/-- A fragment shader is its head and its main function. -/
lemma FragmentShader.text_eq (shader : FragmentShader) :
    shader.text = textOf (shader.head ++ mainLines shader.body) := by
  rw [FragmentShader.text, FragmentShader.head, uniformLines_eq, varyingLines_eq]
  rfl

/-- What a shader declares is well formed, and its texts declare nothing with a qualifier.  Both are
conditions on what a compile collects, and compiles meet them. -/
structure IsHead (defines : List String) (entries : List (String × String))
    (includes : List String) : Prop where
  /-- Flags are among those known, -/
  defines : ∀ name ∈ defines, name ∈ flags
  /-- what is declared has a type and a name, -/
  entries : ∀ entry ∈ entries, IsEntry entry
  /-- and the texts in between declare nothing. -/
  includes : ∀ text ∈ includes, ∀ word ∈ qualifiers, hasWord word text = false

variable {defines includes : List String}

lemma IsHead.filter_includes (h : IsHead defines entries includes) (hword : word ∈ qualifiers) :
    includes.filter (hasWord word) = [] := by
  refine List.filter_eq_nil_iff.mpr fun text htext => ?_
  rw [h.includes text htext word hword]
  exact Bool.false_ne_true

/-- What the head of a vertex shader declares with each qualifier. -/
lemma VertexShader.declares_head {shader : VertexShader}
    (h : IsHead shader.defines (meshAttributes ++ attributeEntries shader.attributes ++
      (matrices ++ parameterEntries shader.uniforms) ++ passedEntries shader.varyings)
      shader.includes) :
    Declares "in" shader.head (meshAttributes ++ attributeEntries shader.attributes) ∧
      Declares "uniform" shader.head (matrices ++ parameterEntries shader.uniforms) ∧
      Declares "out" shader.head (passedEntries shader.varyings) := by
  obtain ⟨hentries, hpassed⟩ := List.forall_mem_append.mp h.entries
  obtain ⟨hinputs, hparameters⟩ := List.forall_mem_append.mp hentries
  -- the filter goes through the groups one by one, and finds only declarations in them
  have hfilter : ∀ word ∈ qualifiers, shader.head.filter (hasWord word) =
      (if word = "in" then
        (meshAttributes ++ attributeEntries shader.attributes).map (declarationLine "in")
      else []) ++
      (if word = "uniform" then
        (matrices ++ parameterEntries shader.uniforms).map (declarationLine "uniform")
      else []) ++
      (if word = "out" then
        (passedEntries shader.varyings).map (declarationLine "out")
      else []) := by
    intro word hword
    have hblank : hasWord word "" = false := rfl
    rw [VertexShader.head, filter_withTexts hblank, filter_withGroup hblank,
      filter_withGroup hblank, filter_withGroup hblank, filter_headerLines h.defines hword,
      filter_declarationLines (by decide) hword hinputs,
      filter_declarationLines (by decide) hword hparameters,
      filter_declarationLines (by decide) hword hpassed, h.filter_includes hword, List.nil_append,
      List.append_nil]
  refine ⟨?_, ?_, ?_⟩
  · rw [Declares, hfilter "in" (by decide)]
    simp
  · rw [Declares, hfilter "uniform" (by decide)]
    simp
  · rw [Declares, hfilter "out" (by decide)]
    simp

/-- What the head of a fragment shader declares with each qualifier. -/
lemma FragmentShader.declares_head {shader : FragmentShader}
    (h : IsHead shader.defines
      (parameterEntries shader.uniforms ++ passedEntries shader.varyings) shader.includes) :
    Declares "uniform" shader.head (parameterEntries shader.uniforms) ∧
      Declares "in" shader.head (passedEntries shader.varyings) ∧
      Declares "out" shader.head [("vec4", "fragColor")] := by
  obtain ⟨hparameters, hpassed⟩ := List.forall_mem_append.mp h.entries
  have hcolor : ∀ entry ∈ [("vec4", "fragColor")], IsEntry entry := by
    exact List.forall_mem_singleton.mpr ⟨by decide, by decide, by decide⟩
  have hfilter : ∀ word ∈ qualifiers, shader.head.filter (hasWord word) =
      (if word = "uniform" then
        (parameterEntries shader.uniforms).map (declarationLine "uniform") else []) ++
      (if word = "in" then (passedEntries shader.varyings).map (declarationLine "in") else []) ++
      (if word = "out" then [("vec4", "fragColor")].map (declarationLine "out") else []) := by
    intro word hword
    have hblank : hasWord word "" = false := rfl
    have hlast : [declarationLine "out" ("vec4", "fragColor")] =
        [("vec4", "fragColor")].map (declarationLine "out") := rfl
    rw [FragmentShader.head, filter_withTexts hblank, filter_withGroup hblank,
      filter_withGroup hblank, filter_withGroup hblank, filter_headerLines h.defines hword, hlast,
      filter_declarationLines (by decide) hword hparameters,
      filter_declarationLines (by decide) hword hpassed,
      filter_declarationLines (by decide) hword hcolor, h.filter_includes hword, List.nil_append,
      List.append_nil]
  refine ⟨?_, ?_, ?_⟩
  · rw [Declares, hfilter "uniform" (by decide)]
    simp
  · rw [Declares, hfilter "in" (by decide)]
    simp
  · rw [Declares, hfilter "out" (by decide)]
    simp

/-! ## Assignments -/

/-- Whether a line assigns a name, that is starts with the name and an equals sign. -/
def assigns (name line : String) : Bool := (name ++ " = ").toList.isPrefixOf line.toList

/-- Lines that start with the same word and a blank: the words end at the first blank. -/
lemma isPrefix_of_words {cs ds es fs : List Char} (hcs : ' ' ∉ cs) (hds : ' ' ∉ ds)
    (h : (cs ++ ' ' :: es) <+: (ds ++ ' ' :: fs)) : cs = ds ∧ es <+: fs := by
  -- on the first word; both words end with their first blank, and so at the same place
  induction cs generalizing ds with
  | nil =>
    cases ds with
    | nil => exact ⟨rfl, (List.cons_prefix_cons.mp h).2⟩
    | cons d ds => exact absurd ((List.cons_prefix_cons.mp h).1 ▸ List.mem_cons_self) hds
  | cons c cs ih =>
    cases ds with
    | nil => exact absurd ((List.cons_prefix_cons.mp h).1 ▸ List.mem_cons_self) hcs
    | cons d ds =>
      obtain ⟨rfl, hrest⟩ := List.cons_prefix_cons.mp h
      obtain ⟨rfl, hes⟩ := ih (fun hmem => hcs (List.mem_cons_of_mem _ hmem))
        (fun hmem => hds (List.mem_cons_of_mem _ hmem)) hrest
      exact ⟨rfl, hes⟩

lemma IsName.space_notMem {name : String} (h : IsName name) : ' ' ∉ name.toList :=
  fun hmem => absurd (h.isNameChar _ hmem) (by decide)

/-- A line assigns a name if it starts with the name and an equals sign. -/
lemma assigns_iff {name first rest : String} (hname : IsName name) (hfirst : IsName first) :
    assigns name (first ++ " " ++ rest) = true ↔
      name = first ∧ ['=', ' '] <+: rest.toList := by
  have hline : (first ++ " " ++ rest).toList = first.toList ++ ' ' :: rest.toList := by simp
  have hstart : (name ++ " = ").toList = name.toList ++ ' ' :: ['=', ' '] := by simp
  rw [assigns, List.isPrefixOf_iff_prefix, hline, hstart]
  constructor
  · intro h
    obtain ⟨heq, hrest⟩ := isPrefix_of_words hname.space_notMem hfirst.space_notMem h
    exact ⟨String.toList_inj.mp heq, hrest⟩
  · rintro ⟨rfl, hrest⟩
    exact (List.prefix_append_right_inj _).mpr (List.cons_prefix_cons.mpr ⟨rfl, hrest⟩)

/-- A name is assigned by one line only, and this line is complete. -/
def AssignsOnce (body : List String) (name : String) : Prop :=
  ∃ source, body.filter (assigns name) = [name ++ " = " ++ source ++ ";"]

/-- A word behind which there is no equals sign is not assigned. -/
lemma not_assigns {name first rest : String} {c : Char} (hname : IsName name)
    (hfirst : IsName first) (hrest : rest.toList.head? = some c) (hc : c ≠ '=') :
    ¬assigns name (first ++ " " ++ rest) = true := by
  obtain ⟨cs, hcs⟩ := List.head?_eq_some_iff.mp hrest
  rw [assigns_iff hname hfirst, hcs, List.cons_prefix_cons]
  exact fun h => hc h.2.1.symm

lemma isName_typeName (type : SocketType) : IsName type.glsl := by
  cases type with
  | _ => decide

/-- The statements of nodes assign nothing that is passed on. -/
lemma not_assigns_statement {known : String → Prop} {statements : List Statement} {name : String}
    (hname : IsName name) (hscoped : Scoped known statements)
    (hvariables : ∀ x ∈ declared statements, IsVariable x) {s : Statement} (hs : s ∈ statements) :
    ¬assigns name s.text = true := by
  -- a statement declares a variable: the word behind its type begins with `n`
  obtain ⟨type, x, value, rfl⟩ := hscoped.eq_declare_of_mem hs
  have hx : IsVariable x := hvariables x (List.mem_filterMap.mpr ⟨_, hs, rfl⟩)
  have hhead : x.toList.head? = some 'n' :=
    head?_of_isNamedAfter hx.named (show "n".toList = ['n'] from rfl)
  have hrest : (x ++ " = " ++ value ++ ";").toList.head? = some 'n' := by
    obtain ⟨cs, hcs⟩ := List.head?_eq_some_iff.mp hhead
    simp only [String.append_assoc, String.toList_append, hcs, List.cons_append, List.head?_cons]
  have htext : (Statement.declare type x value).text =
      type.glsl ++ " " ++ (x ++ " = " ++ value ++ ";") := by
    simp only [Statement.text, String.append_assoc]
  rw [htext]
  exact not_assigns hname (isName_typeName type) hrest (by decide)

/-- The line that assigns a passed value. -/
def assignmentLine (varying : String × Varying) : String :=
  varying.1 ++ " = " ++ varying.2.source ++ ";"

lemma assigns_assignmentLine {name : String} {varying : String × Varying} (hname : IsName name)
    (hvarying : IsName varying.1) :
    assigns name (assignmentLine varying) = true ↔ name = varying.1 := by
  have hline : assignmentLine varying =
      varying.1 ++ " " ++ ("= " ++ varying.2.source ++ ";") := by
    rw [assignmentLine, ← String.toList_inj]
    simp
  have hrest : ['=', ' '] <+: ("= " ++ varying.2.source ++ ";").toList := by
    rw [String.append_assoc, String.toList_append]
    exact List.prefix_append _ _
  rw [hline, assigns_iff hname hvarying]
  exact and_iff_left hrest

lemma VertexShader.finalStatements_eq (shader : VertexShader) :
    ∃ rest, shader.finalStatements =
      ["vec3" ++ " " ++ ("displaced = position" ++ rest),
        "vec4" ++ " " ++ "worldPosition = modelMatrix * vec4(displaced, 1.0);"] ++
      shader.varyings.map assignmentLine ++
      ["gl_Position" ++ " " ++ "= projectionMatrix * viewMatrix * worldPosition;"] := by
  rw [VertexShader.finalStatements]
  cases shader.displacement? with
  | none => exact ⟨";", rfl⟩
  | some offset =>
    refine ⟨" + " ++ offset ++ ";", ?_⟩
    have hline : "vec3" ++ " " ++ ("displaced = position" ++ (" + " ++ offset ++ ";")) =
        "vec3 displaced = position + " ++ offset ++ ";" := by
      rw [← String.toList_inj]
      simp
    rw [hline]
    rfl

/-- The lines at the end of a vertex shader assign what is passed on, and nothing else of such a
name. -/
lemma VertexShader.filter_finalStatements {shader : VertexShader} {name : String}
    (hname : IsName name) (hposition : name ≠ "gl_Position")
    (hnames : ∀ varying ∈ shader.varyings, IsName varying.1) :
    shader.finalStatements.filter (assigns name) =
      (shader.varyings.filter fun varying => name = varying.1).map assignmentLine := by
  obtain ⟨rest, hfinal⟩ := shader.finalStatements_eq
  have hplace : ¬assigns name ("vec3" ++ " " ++ ("displaced = position" ++ rest)) = true := by
    refine not_assigns hname (isName_typeName .vec3) (c := 'd') ?_ (by decide)
    rw [String.toList_append]
    rfl
  have hworld : ¬assigns name
      ("vec4" ++ " " ++ "worldPosition = modelMatrix * vec4(displaced, 1.0);") = true :=
    not_assigns hname (isName_typeName .vec4) rfl (by decide)
  have hend : ¬assigns name
      ("gl_Position" ++ " " ++ "= projectionMatrix * viewMatrix * worldPosition;") = true := by
    rw [assigns_iff hname (by decide)]
    exact fun h => hposition h.1
  have hassignments : (shader.varyings.map assignmentLine).filter (assigns name) =
      (shader.varyings.filter fun varying => name = varying.1).map assignmentLine := by
    rw [List.filter_map]
    refine congrArg _ (List.filter_congr fun varying hvarying => ?_)
    rw [Function.comp_apply, Bool.eq_iff_iff,
      assigns_assignmentLine hname (hnames varying hvarying), decide_eq_true_iff]
  rw [hfinal, List.filter_append, List.filter_append, hassignments,
    List.filter_cons_of_neg hplace, List.filter_cons_of_neg hworld, List.filter_cons_of_neg hend,
    List.filter_nil, List.nil_append, List.append_nil]

/-- Every passed value is assigned by a single line of a vertex shader. -/
lemma VertexShader.assignsOnce {known : String → Prop} {shader : VertexShader}
    (hscoped : Scoped known shader.statements)
    (hvariables : ∀ x ∈ declared shader.statements, IsVariable x)
    (hnames : ∀ varying ∈ shader.varyings, IsName varying.1 ∧ varying.1 ≠ "gl_Position")
    (hnodup : (shader.varyings.map Prod.fst).Nodup) {varying : String × Varying}
    (hvarying : varying ∈ shader.varyings) : AssignsOnce shader.body varying.1 := by
  obtain ⟨hname, hposition⟩ := hnames varying hvarying
  have hstatements : (shader.statements.map Statement.text).filter (assigns varying.1) = [] := by
    refine List.filter_eq_nil_iff.mpr fun line hline => ?_
    obtain ⟨s, hs, rfl⟩ := List.mem_map.mp hline
    exact not_assigns_statement hname hscoped hvariables hs
  -- and of the lines at the end only that of the value itself, as no name is passed twice
  have hsingle : (shader.varyings.filter fun other => varying.1 = other.1) = [varying] := by
    obtain ⟨before, after, hsplit⟩ := List.append_of_mem hvarying
    rw [hsplit, List.map_append, List.map_cons, List.nodup_append, List.nodup_cons] at hnodup
    obtain ⟨-, ⟨hafter, -⟩, hbefore⟩ := hnodup
    have hother : ∀ other ∈ before, ¬decide (varying.1 = other.1) = true := by
      intro other hother
      rw [decide_eq_true_iff]
      exact fun heq =>
        hbefore other.1 (List.mem_map_of_mem hother) varying.1 List.mem_cons_self heq.symm
    have hother' : ∀ other ∈ after, ¬decide (varying.1 = other.1) = true := by
      intro other hother
      rw [decide_eq_true_iff]
      exact fun heq => hafter (heq ▸ List.mem_map_of_mem hother)
    rw [hsplit, List.filter_append, List.filter_cons_of_pos (by simp),
      List.filter_eq_nil_iff.mpr hother, List.filter_eq_nil_iff.mpr hother', List.nil_append]
  refine ⟨varying.2.source, ?_⟩
  rw [VertexShader.body, List.filter_append, hstatements, List.nil_append,
    VertexShader.filter_finalStatements hname hposition fun other hother => (hnames other hother).1,
    hsingle]
  rfl

end SceneEngine.Shading
