import SceneEngine.Proofs.Shading.FragmentTexts

/-!
# What programs declare

A program has to declare every parameter, attribute and passed value that occurs in it, or it does
not compile, and should declare nothing else: each parameter is bound in every frame, and each
passed value costs space between the stages.  This module shows that the programs of a compile
declare what the nodes whose statements they contain rely on, each name once and nothing besides
(`ShaderCompiler.compile_declares`).

## What is shown of a pair of programs

`DeclaresNeeded` speaks about the texts.  Parameters, passed values and attributes are declared by
lines of the head, library fragments are texts that stand in the head, and the names that occur are
the identifiers of the lines of the main function.  It is stated for the main pair and for the depth
pair, whose fragment program contains only the nodes behind the coverage.

## Why it holds

A program asks for what its nodes require, and declares the part of this that has been declared
while code was written (`ProgramBase.choose`).  The declarations of a compile hold whatever one of
its nodes requires (`Requirements.BackedBy`), so the restriction loses none.  A required fragment
was included together with its dependencies, in the order of their inclusion, so they stand in the
program in this order as well (`suppliesFragments`).

For the names that occur in a main function the argument runs the other way: a name with the form of
a parameter, an attribute or a passed value is not a variable of the code, so a statement that reads
it belongs to a node that requires it (`StageCode.Provides.requires_of_mem`).

What all of this needs of a compile is collected in `IsPair`, of which each field of
`DeclaresNeeded` is a consequence.
-/

namespace SceneEngine.Shading

open Identifier Relation

/-! ## Requirements of several nodes -/

variable {x : String} {codes : List NodeCode}

/-- What several nodes require of a kind is what any of them requires.  The kind is any field of the
requirements that is merged by insertion. -/
lemma mem_requirementsOf (field : Requirements → OrderedSet String) (hempty : field {} = ∅)
    (hmerge : ∀ a b, field (a.merge b) = (field a).insertMany (field b).toList) :
    x ∈ field (requirementsOf codes) ↔ ∃ code ∈ codes, x ∈ field code.requires := by
  have hfold : ∀ (codes : List NodeCode) (all : Requirements),
      x ∈ field (codes.foldl (fun all code => all.merge code.requires) all) ↔
        x ∈ field all ∨ ∃ code ∈ codes, x ∈ field code.requires := by
    intro codes
    induction codes with
    | nil => simp
    | cons code codes ih =>
      intro all
      rw [List.foldl_cons, ih, hmerge, OrderedSet.mem_insertMany, List.exists_mem_cons_iff,
        OrderedSet.mem_toList, or_assoc, or_left_comm]
  rw [requirementsOf, hfold, hempty]
  exact or_iff_right OrderedSet.notMem_empty

lemma mem_uniforms_requirementsOf :
    x ∈ (requirementsOf codes).uniforms ↔ ∃ code ∈ codes, x ∈ code.requires.uniforms :=
  mem_requirementsOf Requirements.uniforms rfl fun _ _ => rfl

lemma mem_varyings_requirementsOf :
    x ∈ (requirementsOf codes).varyings ↔ ∃ code ∈ codes, x ∈ code.requires.varyings :=
  mem_requirementsOf Requirements.varyings rfl fun _ _ => rfl

lemma mem_attributes_requirementsOf :
    x ∈ (requirementsOf codes).attributes ↔ ∃ code ∈ codes, x ∈ code.requires.attributes :=
  mem_requirementsOf Requirements.attributes rfl fun _ _ => rfl

lemma mem_includes_requirementsOf :
    x ∈ (requirementsOf codes).includes ↔ ∃ code ∈ codes, x ∈ code.requires.includes :=
  mem_requirementsOf Requirements.includes rfl fun _ _ => rfl

lemma mem_attributes_merge {a b : Requirements} :
    x ∈ (a.merge b).attributes ↔ x ∈ a.attributes ∨ x ∈ b.attributes := by
  rw [Requirements.merge, OrderedSet.mem_insertMany, OrderedSet.mem_toList, or_comm]

namespace ProgramBase

variable {α : Type} {declared : OrderedMap String α} {wanted : OrderedSet String}

lemma mem_map_choose :
    x ∈ (choose declared wanted).map Prod.fst ↔ x ∈ wanted ∧ x ∈ declared.keys := by
  simp only [choose, OrderedMap.filter, OrderedMap.keys, List.mem_map, List.mem_filter,
    decide_eq_true_eq]
  constructor
  · rintro ⟨entry, ⟨hentry, hwanted⟩, rfl⟩
    exact ⟨hwanted, entry, hentry, rfl⟩
  · rintro ⟨hwanted, entry, hentry, rfl⟩
    exact ⟨entry, ⟨hentry, hwanted⟩, rfl⟩

lemma nodup_choose : ((choose declared wanted).map Prod.fst).Nodup :=
  (declared.filter _).nodup

lemma mem_of_mem_choose {entry : String × α} (h : entry ∈ choose declared wanted) :
    entry ∈ declared.entries :=
  (List.mem_filter.mp h).1

end ProgramBase

/-! ## Parts of programs -/

/-- The program declares the parameters that its nodes require, each once, and besides the fixed
ones no other; its main function reads no other either. -/
def DeclaresParameters (head body : List String) (fixed : List (String × String))
    (codes : List NodeCode) : Prop :=
  ∃ parameters, Declares "uniform" head (fixed ++ parameters) ∧
    ((fixed ++ parameters).map Prod.snd).Nodup ∧
    (∀ x, x ∈ parameters.map Prod.snd ↔ ∃ code ∈ codes, x ∈ code.requires.uniforms) ∧
    ∀ line ∈ body, ∀ x ∈ identifiers line, isParameter x = true → x ∈ parameters.map Prod.snd

/-- The fragment program takes over the values that the vertex program passes on, with the same
types, and the vertex program assigns each of them once. -/
def PassesOn (vertexHead vertexBody fragmentHead fragmentBody : List String) : Prop :=
  ∃ passed, Declares "out" vertexHead passed ∧ Declares "in" fragmentHead passed ∧
    (passed.map Prod.snd).Nodup ∧ (∀ entry ∈ passed, AssignsOnce vertexBody entry.2) ∧
    ∀ line ∈ fragmentBody, ∀ x ∈ identifiers line, isPassed x = true → x ∈ passed.map Prod.snd

/-- Every attribute that occurs in the main function of a vertex program is declared, each once. -/
def DeclaresAttributes (head body : List String) : Prop :=
  ∃ attributes, Declares "in" head (meshAttributes ++ attributes) ∧
    ((meshAttributes ++ attributes).map Prod.snd).Nodup ∧
    ∀ line ∈ body, ∀ x ∈ identifiers line, isAttribute x = true → x ∈ attributes.map Prod.snd

/-- The text of every fragment that a node requires, and of everything it depends on, stands in the
program once, behind the texts of its dependencies. -/
def SuppliesFragments (library : FragmentLibrary) (head : List String) (codes : List NodeCode) :
    Prop :=
  ∃ texts : List String, texts.Nodup ∧ texts.Sublist head ∧
    ∀ code ∈ codes, ∀ name ∈ code.requires.includes, ∀ needed,
      ReflTransGen library.Needs name needed →
        ∃ text, library.text? needed = some text ∧ text ∈ texts ∧
          ∀ dependency, library.Needs needed dependency →
            ∃ text', library.text? dependency = some text' ∧ [text', text].Sublist texts

/-- What a pair of programs declares is what the nodes whose statements it contains rely on. -/
structure DeclaresNeeded (library : FragmentLibrary) (sources : ShaderSources)
    (vertex : VertexShader) (fragment : FragmentShader)
    (vertexCodes fragmentCodes : List NodeCode) : Prop where
  /-- The texts are those of the two programs, -/
  vertexText : sources.vertex = textOf (vertex.head ++ mainLines vertex.body)
  fragmentText : sources.fragment = textOf (fragment.head ++ mainLines fragment.body)
  /-- which contain the statements of these nodes. -/
  vertexStatements : vertex.statements = vertexCodes.flatMap NodeCode.statements
  fragmentStatements : fragment.statements = fragmentCodes.flatMap NodeCode.statements
  /-- The parameters are those that the nodes require, beside the matrices of the vertex program. -/
  vertexParameters : DeclaresParameters vertex.head vertex.body matrices vertexCodes
  fragmentParameters : DeclaresParameters fragment.head fragment.body [] fragmentCodes
  /-- Both programs agree on the values that pass between them. -/
  passed : PassesOn vertex.head vertex.body fragment.head fragment.body
  /-- The vertex program declares the attributes of the mesh that it reads. -/
  attributes : DeclaresAttributes vertex.head vertex.body
  /-- The library code that the nodes call stands in the programs. -/
  vertexFragments : SuppliesFragments library vertex.head vertexCodes
  fragmentFragments : SuppliesFragments library fragment.head fragmentCodes

variable {base : ProgramBase} {beside : List NodeCode}

/-- The texts of the fragments that a program asks for are those of the declared fragments among
them, in the order in which they were included.  Equal texts would be written once, but no two
fragments of the library have the same text. -/
lemma includeTexts_eq (htexts : includedTexts .builtin base.declarations.includes.toList =
    .ok base.includes) (wanted : OrderedSet String) :
    base.includeTexts wanted = (base.declarations.includes.toList.filter (· ∈ wanted)).map
      fun name => (FragmentLibrary.builtin.text? name).getD "" := by
  obtain ⟨hregistered, hentries⟩ := entries_includedTexts base.declarations.includes.nodup htexts
  have hchosen : (base.includes.filter fun name _ => decide (name ∈ wanted)).values =
      (base.declarations.includes.toList.filter (· ∈ wanted)).map
        fun name => (FragmentLibrary.builtin.text? name).getD "" := by
    show (base.includes.entries.filter fun e => decide (e.1 ∈ wanted)).map Prod.snd = _
    rw [hentries, List.filter_map, List.map_map]
    rfl
  have hnodup : ((base.declarations.includes.toList.filter (· ∈ wanted)).map
      fun name => (FragmentLibrary.builtin.text? name).getD "").Nodup := by
    refine (base.declarations.includes.nodup.filter _).map_on fun a ha b hb heq => ?_
    obtain ⟨text, htext⟩ := hregistered a (List.mem_filter.mp ha).1
    obtain ⟨text', htext'⟩ := hregistered b (List.mem_filter.mp hb).1
    rw [htext, htext', Option.getD_some, Option.getD_some] at heq
    exact FragmentLibrary.text?_injective_builtin htext (heq ▸ htext')
  rw [ProgramBase.includeTexts, hchosen, OrderedSet.toList_ofList hnodup]

/-- A program that asks for what its nodes require supplies their fragments.  Whatever a node
includes it includes with all dependencies, and the program has included it too, so both the
fragment and its dependency survive the restriction and keep their order. -/
lemma suppliesFragments {head : List String} (htame : base.declarations.Tame .builtin)
    (htexts : includedTexts .builtin base.declarations.includes.toList = .ok base.includes)
    (hbacked : ∀ code ∈ codes, code.requires.BackedBy .builtin base.declarations)
    (hhead : (base.includeTexts (requirementsOf codes).includes).Sublist head) :
    SuppliesFragments .builtin head codes := by
  refine ⟨base.includeTexts (requirementsOf codes).includes, OrderedSet.nodup _, hhead,
    fun code hcode name hname needed hneeded => ?_⟩
  rw [includeTexts_eq htexts]
  have hown := (hbacked code hcode).ordered
  obtain ⟨hregistered, -⟩ := entries_includedTexts base.declarations.includes.nodup htexts
  -- everything that is reached stands among the included fragments of the node and of the program
  have hincluded : ∀ name ∈ code.requires.includes,
      name ∈ (requirementsOf codes).includes ∧ name ∈ base.declarations.includes :=
    fun name hname => ⟨mem_includes_requirementsOf.mpr ⟨code, hcode, hname⟩,
      (hbacked code hcode).includes name hname⟩
  have hneeded := hown.mem_of_reaches hname hneeded
  obtain ⟨hwanted, hdeclared⟩ := hincluded needed hneeded
  obtain ⟨text, htext⟩ := hregistered needed hdeclared
  refine ⟨text, htext, List.mem_map.mpr ⟨needed, List.mem_filter.mpr
    ⟨hdeclared, decide_eq_true hwanted⟩, by rw [htext, Option.getD_some]⟩,
    fun dependency hneeds => ?_⟩
  obtain ⟨hwanted', hdeclared'⟩ := hincluded dependency (hown.mem_of_needs hneeded hneeds)
  obtain ⟨text', htext'⟩ := hregistered dependency hdeclared'
  refine ⟨text', htext', ?_⟩
  have hpair := (htame.includes.sublist_of_needs hdeclared hneeds).filter
    (· ∈ (requirementsOf codes).includes)
  have hmap := hpair.map fun name => (FragmentLibrary.builtin.text? name).getD ""
  simpa [hwanted, hwanted', htext, htext'] using hmap

/-! ## Declared entries -/

/-- The types of what programs declare.  None of them has the form of a declared name, so the lines
of the head can be told apart. -/
def typeNames : List String := ["bool", "int", "float", "vec2", "vec3", "vec4", "sampler2D"]

lemma SocketType.glsl_mem (type : SocketType) : type.glsl ∈ typeNames := by
  cases type with
  | _ => decide

lemma UniformValue.glsl_mem (value : UniformValue) : value.glsl ∈ typeNames := by
  cases value with
  | _ => simp [UniformValue.glsl, typeNames]

/-- A name of one of the forms makes an entry with any type. -/
lemma isEntry_of_isGlobal {type : String} (htype : type ∈ typeNames) (hname : IsName x)
    (hglobal : isGlobal x = true) : IsEntry (type, x) := by
  have htypes : ∀ type ∈ typeNames, IsName type ∧ ∀ qualifier ∈ qualifiers, type ≠ qualifier := by
    decide
  have hqualifiers : ∀ qualifier ∈ qualifiers, isGlobal qualifier = false := by decide
  obtain ⟨htype, hplain⟩ := htypes type htype
  refine ⟨htype, hname, fun qualifier hqualifier => ⟨hplain qualifier hqualifier, ?_⟩⟩
  rintro rfl
  rw [hqualifiers x hqualifier] at hglobal
  cases hglobal

lemma names_parameterEntries {uniforms : List (String × UniformValue)} :
    (parameterEntries uniforms).map Prod.snd = uniforms.map Prod.fst :=
  List.map_map ..

lemma names_passedEntries {varyings : List (String × Varying)} :
    (passedEntries varyings).map Prod.snd = varyings.map Prod.fst :=
  List.map_map ..

lemma names_attributeEntries {attributes : List (String × SocketType)} :
    (attributeEntries attributes).map Prod.snd = attributes.map Prod.fst :=
  List.map_map ..

namespace Declarations.Tame

variable {declarations : Declarations} {wanted : OrderedSet String}

lemma isEntry_of_parameter (h : declarations.Tame library) :
    ∀ entry ∈ parameterEntries (ProgramBase.choose declarations.uniforms wanted),
      IsEntry entry := by
  intro entry hentry
  obtain ⟨uniform, huniform, rfl⟩ := List.mem_map.mp hentry
  obtain ⟨hname, hform⟩ := h.uniforms uniform.1
    (List.mem_map_of_mem (ProgramBase.mem_of_mem_choose huniform))
  exact isEntry_of_isGlobal uniform.2.glsl_mem hname
    (isGlobal_iff.mpr (.inr (.inl hform)))

lemma isEntry_of_passed (h : declarations.Tame library) :
    ∀ entry ∈ passedEntries (ProgramBase.choose declarations.varyings wanted), IsEntry entry := by
  intro entry hentry
  obtain ⟨varying, hvarying, rfl⟩ := List.mem_map.mp hentry
  obtain ⟨hname, hform⟩ := h.varyings varying.1
    (List.mem_map_of_mem (ProgramBase.mem_of_mem_choose hvarying))
  exact isEntry_of_isGlobal varying.2.type.glsl_mem hname
    (isGlobal_iff.mpr (.inr (.inr hform)))

lemma isEntry_of_attribute (h : declarations.Tame library) :
    ∀ entry ∈ attributeEntries (ProgramBase.choose declarations.attributes wanted),
      IsEntry entry := by
  intro entry hentry
  obtain ⟨input, hinput, rfl⟩ := List.mem_map.mp hentry
  obtain ⟨hname, hform⟩ := h.attributes input.1
    (List.mem_map_of_mem (ProgramBase.mem_of_mem_choose hinput))
  exact isEntry_of_isGlobal input.2.glsl_mem hname
    (isGlobal_iff.mpr (.inl hform))

end Declarations.Tame

lemma isEntry_fixed : ∀ entry ∈ meshAttributes ++ matrices, IsEntry entry := by
  have hentries : ∀ entry ∈ meshAttributes ++ matrices, IsName entry.1 ∧ IsName entry.2 ∧
      ∀ qualifier ∈ qualifiers, entry.1 ≠ qualifier ∧ entry.2 ≠ qualifier := by
    decide
  intro entry hentry
  obtain ⟨htype, hname, hplain⟩ := hentries entry hentry
  exact ⟨htype, hname, hplain⟩

section

variable (htame : base.declarations.Tame .builtin)
  (htexts : includedTexts .builtin base.declarations.includes.toList = .ok base.includes)
include htame htexts

lemma isHead_of_tame {entries : List (String × String)}
    (hentries : ∀ entry ∈ entries, IsEntry entry) (flagged wanted : OrderedSet String) :
    IsHead (base.definesIn flagged) entries (base.includeTexts wanted) := by
  refine ⟨fun name hname => ?_, hentries, fun text htext word hword => ?_⟩
  · exact htame.defines name (OrderedSet.mem_toList.mp (List.mem_filter.mp hname).1)
  · obtain ⟨hregistered, -⟩ := entries_includedTexts base.declarations.includes.nodup htexts
    rw [includeTexts_eq htexts] at htext
    obtain ⟨name, hname, rfl⟩ := List.mem_map.mp htext
    obtain ⟨text, htext⟩ := hregistered name (List.mem_filter.mp hname).1
    rw [htext, Option.getD_some]
    exact FragmentLibrary.hasWord_text_builtin htext hword

lemma isHead_vertexShader (displacement? : Option String) :
    let shader := base.vertexShader codes beside displacement?
    IsHead shader.defines (meshAttributes ++ attributeEntries shader.attributes ++
      (matrices ++ parameterEntries shader.uniforms) ++ passedEntries shader.varyings)
      shader.includes := by
  obtain ⟨hmesh, hmatrices⟩ := List.forall_mem_append.mp isEntry_fixed
  refine isHead_of_tame htame htexts ?_ _ _
  exact List.forall_mem_append.mpr ⟨List.forall_mem_append.mpr
    ⟨List.forall_mem_append.mpr ⟨hmesh, htame.isEntry_of_attribute⟩,
      List.forall_mem_append.mpr ⟨hmatrices, htame.isEntry_of_parameter⟩⟩, htame.isEntry_of_passed⟩

lemma isHead_fragmentShader (coverage? : Option String) (output : FragmentOutput) :
    let shader := base.fragmentShader codes coverage? output
    IsHead shader.defines (parameterEntries shader.uniforms ++ passedEntries shader.varyings)
      shader.includes :=
  isHead_of_tame htame htexts
    (List.forall_mem_append.mpr ⟨htame.isEntry_of_parameter, htame.isEntry_of_passed⟩) _ _

end

/-! ## Names in the bodies -/

variable {network : Network} {seeds seeds' : List Nat} {code vertexCode fragmentCode : StageCode}

/-- The names of the nodes' statements that are declared ahead of the code are required by a
node. -/
lemma StageCode.Provides.requires_of_mem (h : code.Provides network seeds)
    (hx : isGlobal x = true) {s : Statement} (hs : s ∈ StageCode.statements code)
    (hmem : x ∈ identifiers s.text) : code.Requires x := by
  have hfound := h.inScope.known_or_mem_declared h.named (isTraced_iff.mpr (.inr hx)) hs hmem
  exact hfound.resolve_right fun hdeclared => (h.named x hdeclared).not_isGlobal hx

/-- A name of the body of a vertex shader that is declared ahead of it is required by a node, is
passed on, or is the attribute behind a value passed on. -/
lemma requires_of_mem_vertexShader {displacement? : Option String}
    (htame : base.declarations.Tame library) (h : code.Provides network seeds)
    (hdisplacement : ∀ expr, displacement? = some expr →
      Reads (· ∈ declared (StageCode.statements code)) expr) (hx : isGlobal x = true)
    {line : String}
    (hline : line ∈ (base.vertexShader (code.map Prod.snd) beside displacement?).body)
    (hmem : x ∈ identifiers line) :
    code.Requires x ∨ isPassed x = true ∨
      ∃ v, x = "a_" ++ v ∧ "v_" ++ v ∈ (requirementsOf beside).varyings := by
  rcases List.mem_append.mp hline with hline | hline
  · obtain ⟨s, hs, rfl⟩ := List.mem_map.mp hline
    exact .inl (h.requires_of_mem hx hs hmem)
  · have hpassed : ∀ entry ∈ (base.vertexShader (code.map Prod.snd) beside displacement?).varyings,
        entry.1 ∈ base.declarations.varyings.keys ∧ entry.1 ∈ (requirementsOf beside).varyings :=
      fun entry hentry => (ProgramBase.mem_map_choose.mp (List.mem_map_of_mem hentry)).symm
    have hconcludes : Concludes (fun x => x ∈ declared (StageCode.statements code) ∨
        isPassed x = true ∨ ∃ v, x = "a_" ++ v ∧ "v_" ++ v ∈ (requirementsOf beside).varyings)
        line := by
      refine concludes_vertexShader htame (fun entry hentry => ?_)
        (fun expr hexpr => (hdisplacement expr hexpr).mono fun x => .inl) line hline
      obtain ⟨hdeclared, hwanted⟩ := hpassed entry hentry
      exact ⟨.inr (.inl (htame.varyings _ hdeclared).2),
        fun v hv => .inr (.inr ⟨v, rfl, hv ▸ hwanted⟩)⟩
    rcases hconcludes.reads x hmem (isTraced_iff.mpr (.inr hx)) with hdeclared | hglobal
    · exact absurd hx (h.named x hdeclared).not_isGlobal
    · exact .inr hglobal

/-- A name of the body of a fragment shader that is declared ahead of it is required by a node: the
lines at the end read only the variables of the statements, and the fixed values of the stage. -/
lemma requires_of_mem_fragmentShader {coverage? : Option String} {output : FragmentOutput}
    (h : code.Provides network seeds)
    (hcoverage : ∀ expr, coverage? = some expr →
      Reads (· ∈ declared (StageCode.statements code)) expr)
    (hcolor : ∀ expr, output = .color (some expr) →
      Reads (· ∈ declared (StageCode.statements code)) expr)
    (hx : isGlobal x = true) {line : String}
    (hline : line ∈ (base.fragmentShader (code.map Prod.snd) coverage? output).body)
    (hmem : x ∈ identifiers line) : code.Requires x := by
  rcases List.mem_append.mp hline with hline | hline
  · obtain ⟨s, hs, rfl⟩ := List.mem_map.mp hline
    exact h.requires_of_mem hx hs hmem
  · have hdeclared := (concludes_fragmentShader hcoverage hcolor line hline).reads x hmem
      (isTraced_iff.mpr (.inr hx))
    exact absurd hx (h.named x hdeclared).not_isGlobal

/-- What several nodes require is of the kind that its name has the form of.  The forms exclude each
other, and all that is declared has the form of its kind. -/
lemma mem_requirementsOf_of_names (htame : base.declarations.Tame library)
    (hbacked : ∀ code ∈ codes, code.requires.BackedBy library base.declarations)
    (hx : ∃ code ∈ codes, code.requires.Names x) :
    (isParameter x = true → x ∈ (requirementsOf codes).uniforms) ∧
      (isPassed x = true → x ∈ (requirementsOf codes).varyings) ∧
      (isAttribute x = true → x ∈ (requirementsOf codes).attributes) := by
  obtain ⟨code, hcode, hx⟩ := hx
  have hbacked := hbacked code hcode
  -- a name in one of the fields has the form of that field: two of the three parts are vacuous
  rcases hx with hx | hx | hx
  · have hform := (htame.uniforms x (hbacked.uniforms x hx)).2
    exact ⟨fun _ => mem_uniforms_requirementsOf.mpr ⟨code, hcode, hx⟩,
      fun h => absurd hform (not_isParameter_of_isPassed h),
      fun h => absurd hform (not_isParameter_of_isAttribute h)⟩
  · have hform := (htame.varyings x (hbacked.varyings x hx)).2
    exact ⟨fun h => absurd h (not_isParameter_of_isPassed hform),
      fun _ => mem_varyings_requirementsOf.mpr ⟨code, hcode, hx⟩,
      fun h => absurd h (not_isAttribute_of_isPassed hform)⟩
  · have hform := (htame.attributes x (hbacked.attributes x hx)).2
    exact ⟨fun h => absurd h (not_isParameter_of_isAttribute hform),
      fun h => absurd hform (not_isAttribute_of_isPassed h),
      fun _ => mem_attributes_requirementsOf.mpr ⟨code, hcode, hx⟩⟩

/-- The parameters that are declared are those that the nodes require. -/
lemma mem_parameters (hbacked : ∀ code ∈ codes, code.requires.BackedBy library base.declarations) :
    x ∈ (parameterEntries (ProgramBase.choose base.declarations.uniforms
      (requirementsOf codes).uniforms)).map Prod.snd ↔
      ∃ code ∈ codes, x ∈ code.requires.uniforms := by
  rw [names_parameterEntries, ProgramBase.mem_map_choose, mem_uniforms_requirementsOf]
  refine and_iff_left_of_imp ?_
  rintro ⟨code, hcode, hx⟩
  exact (hbacked code hcode).uniforms x hx

/-! ## Pairs of programs -/

/-- What the nodes of a pair of programs rely on is declared, and their code provides what the
expressions at the end read. -/
structure IsPair (base : ProgramBase) (vertexCode fragmentCode : StageCode)
    (displacement? coverage? : Option String) (output : FragmentOutput) : Prop where
  /-- The declarations are under names of the right forms, -/
  tame : base.declarations.Tame .builtin
  /-- and the fragments among them are in the library. -/
  texts : includedTexts .builtin base.declarations.includes.toList = .ok base.includes
  /-- What the nodes of either stage require is declared. -/
  vertexBacked : ∀ code ∈ vertexCode.map Prod.snd,
    code.requires.BackedBy .builtin base.declarations
  fragmentBacked : ∀ code ∈ fragmentCode.map Prod.snd,
    code.requires.BackedBy .builtin base.declarations
  /-- The statements of each stage are those of a network. -/
  vertex : ∃ network seeds, vertexCode.Provides network seeds
  fragment : ∃ network seeds, fragmentCode.Provides network seeds
  /-- The expressions at the ends read variables of the statements. -/
  displacement : ∀ expr, displacement? = some expr →
    Reads (· ∈ declared (StageCode.statements vertexCode)) expr
  coverage : ∀ expr, coverage? = some expr →
    Reads (· ∈ declared (StageCode.statements fragmentCode)) expr
  color : ∀ expr, output = .color (some expr) →
    Reads (· ∈ declared (StageCode.statements fragmentCode)) expr

/-- What some code relies on is what one of its nodes requires. -/
lemma exists_names_of_requires (h : code.Requires x) :
    ∃ node ∈ code.map Prod.snd, node.requires.Names x := by
  obtain ⟨entry, hentry, hx⟩ := h
  exact ⟨entry.2, List.mem_map_of_mem hentry, hx⟩

namespace IsPair

variable {displacement? coverage? : Option String} {output : FragmentOutput}
  (h : IsPair base vertexCode fragmentCode displacement? coverage? output)
include h

lemma mem_parameters_of_names
    (hbacked : ∀ code ∈ codes, code.requires.BackedBy .builtin base.declarations)
    (hx : ∃ code ∈ codes, code.requires.Names x) (hform : isParameter x = true) :
    x ∈ (parameterEntries (ProgramBase.choose base.declarations.uniforms
      (requirementsOf codes).uniforms)).map Prod.snd :=
  (mem_parameters hbacked).mpr (mem_uniforms_requirementsOf.mp
    ((mem_requirementsOf_of_names h.tame hbacked hx).1 hform))

/-- A name of the vertex program that is declared ahead of its code. -/
lemma requires_of_mem_vertex (hx : isGlobal x = true) {line : String}
    (hline : line ∈ (base.vertexShader (vertexCode.map Prod.snd) (fragmentCode.map Prod.snd)
      displacement?).body) (hmem : x ∈ identifiers line) :
    (∃ code ∈ vertexCode.map Prod.snd, code.requires.Names x) ∨ isPassed x = true ∨
      ∃ v, x = "a_" ++ v ∧ "v_" ++ v ∈ (requirementsOf (fragmentCode.map Prod.snd)).varyings := by
  obtain ⟨network, seeds, hprovides⟩ := h.vertex
  exact (requires_of_mem_vertexShader h.tame hprovides h.displacement hx hline hmem).imp_left
    exists_names_of_requires

/-- The vertex program declares the parameters of its nodes and the matrices. -/
lemma vertexParameters :
    let shader := base.vertexShader (vertexCode.map Prod.snd) (fragmentCode.map Prod.snd)
      displacement?
    DeclaresParameters shader.head shader.body matrices (vertexCode.map Prod.snd) := by
  intro shader
  refine ⟨parameterEntries shader.uniforms,
    (VertexShader.declares_head (isHead_vertexShader h.tame h.texts displacement?)).2.1, ?_,
    fun x => mem_parameters h.vertexBacked, fun line hline x hmem hform => ?_⟩
  · have hmatrices : ∀ x ∈ matrices.map Prod.snd, isParameter x = false := by decide
    rw [List.map_append, List.nodup_append, names_parameterEntries]
    refine ⟨by decide, ProgramBase.nodup_choose, ?_⟩
    rintro x hx _ hparameter rfl
    have hform := (h.tame.uniforms x (ProgramBase.mem_map_choose.mp hparameter).2).2
    rw [hmatrices x hx] at hform
    cases hform
  · rcases h.requires_of_mem_vertex (isGlobal_iff.mpr (.inr (.inl hform))) hline hmem with
      hx | hpassed | ⟨v, rfl, -⟩
    · exact h.mem_parameters_of_names h.vertexBacked hx hform
    · exact absurd hform (not_isParameter_of_isPassed hpassed)
    · exact absurd hform (not_isParameter_of_isAttribute (isAttribute_append v))

/-- The fragment program declares the parameters of its nodes, and no others: the matrices are used
by the vertex program alone. -/
lemma fragmentParameters :
    let shader := base.fragmentShader (fragmentCode.map Prod.snd) coverage? output
    DeclaresParameters shader.head shader.body [] (fragmentCode.map Prod.snd) := by
  intro shader
  obtain ⟨network, seeds, hprovides⟩ := h.fragment
  refine ⟨parameterEntries shader.uniforms,
    (FragmentShader.declares_head (isHead_fragmentShader h.tame h.texts coverage? output)).1, ?_,
    fun x => mem_parameters h.fragmentBacked, fun line hline x hmem hform => ?_⟩
  · rw [List.nil_append, names_parameterEntries]
    exact ProgramBase.nodup_choose
  · have hx := requires_of_mem_fragmentShader hprovides h.coverage h.color
      (isGlobal_iff.mpr (.inr (.inl hform))) hline hmem
    exact h.mem_parameters_of_names h.fragmentBacked (exists_names_of_requires hx) hform

/-- What the nodes of the fragment program take over is declared in both programs, and assigned
once, from a source that the vertex program has. -/
lemma passed :
    let vertex := base.vertexShader (vertexCode.map Prod.snd) (fragmentCode.map Prod.snd)
      displacement?
    let fragment := base.fragmentShader (fragmentCode.map Prod.snd) coverage? output
    PassesOn vertex.head vertex.body fragment.head fragment.body := by
  intro vertex fragment
  obtain ⟨network, seeds, hvertex⟩ := h.vertex
  obtain ⟨network', seeds', hfragment⟩ := h.fragment
  have hnames : ∀ varying ∈ vertex.varyings, IsName varying.1 ∧ varying.1 ≠ "gl_Position" := by
    intro varying hvarying
    obtain ⟨hname, hform⟩ := h.tame.varyings varying.1
      (List.mem_map_of_mem (ProgramBase.mem_of_mem_choose hvarying))
    refine ⟨hname, fun heq => ?_⟩
    rw [heq] at hform
    revert hform
    decide
  refine ⟨passedEntries vertex.varyings,
    (VertexShader.declares_head (isHead_vertexShader h.tame h.texts displacement?)).2.2,
    (FragmentShader.declares_head (isHead_fragmentShader h.tame h.texts coverage? output)).2.1,
    ?_, fun entry hentry => ?_, fun line hline x hmem hform => ?_⟩
  · rw [names_passedEntries]
    exact ProgramBase.nodup_choose
  · obtain ⟨varying, hvarying, rfl⟩ := List.mem_map.mp hentry
    exact VertexShader.assignsOnce (hvertex.inScope) (hvertex.named)
      hnames ProgramBase.nodup_choose hvarying
  · have hx := requires_of_mem_fragmentShader hfragment h.coverage h.color
      (isGlobal_iff.mpr (.inr (.inr hform))) hline hmem
    have hwanted := (mem_requirementsOf_of_names h.tame h.fragmentBacked
      (exists_names_of_requires hx)).2.1 hform
    obtain ⟨code, hcode, hrequired⟩ := mem_varyings_requirementsOf.mp hwanted
    rw [names_passedEntries]
    exact ProgramBase.mem_map_choose.mpr
      ⟨hwanted, (h.fragmentBacked code hcode).varyings x hrequired⟩

/-- The vertex program declares the attributes that its own nodes read and those that it passes on
for the fragment program. -/
lemma attributes :
    let shader := base.vertexShader (vertexCode.map Prod.snd) (fragmentCode.map Prod.snd)
      displacement?
    DeclaresAttributes shader.head shader.body := by
  intro shader
  have hdeclared : ∀ x, x ∈ (requirementsOf (vertexCode.map Prod.snd)).attributes ∨
      x ∈ (requirementsOf (fragmentCode.map Prod.snd)).attributes →
      x ∈ (attributeEntries shader.attributes).map Prod.snd := by
    intro x hx
    rw [names_attributeEntries]
    refine ProgramBase.mem_map_choose.mpr ⟨mem_attributes_merge.mpr hx, ?_⟩
    rcases hx with hx | hx
    · obtain ⟨code, hcode, hx⟩ := mem_attributes_requirementsOf.mp hx
      exact (h.vertexBacked code hcode).attributes x hx
    · obtain ⟨code, hcode, hx⟩ := mem_attributes_requirementsOf.mp hx
      exact (h.fragmentBacked code hcode).attributes x hx
  -- both the nodes of the stage and the values passed on lead to required attributes
  refine ⟨attributeEntries shader.attributes,
    (VertexShader.declares_head (isHead_vertexShader h.tame h.texts displacement?)).1, ?_,
    fun line hline x hmem hform => hdeclared x ?_⟩
  · have hmesh : ∀ x ∈ meshAttributes.map Prod.snd, isAttribute x = false := by decide
    rw [List.map_append, List.nodup_append, names_attributeEntries]
    refine ⟨by decide, ProgramBase.nodup_choose, ?_⟩
    rintro x hx _ hattribute rfl
    have hform := (h.tame.attributes x (ProgramBase.mem_map_choose.mp hattribute).2).2
    rw [hmesh x hx] at hform
    cases hform
  · rcases h.requires_of_mem_vertex (isGlobal_iff.mpr (.inl hform)) hline hmem with
      hx | hpassed | ⟨v, rfl, hv⟩
    · exact .inl ((mem_requirementsOf_of_names h.tame h.vertexBacked hx).2.2 hform)
    · exact absurd hform (not_isAttribute_of_isPassed hpassed)
    · -- the node that asks for the passed value asks for its attribute as well
      obtain ⟨code, hcode, hv⟩ := mem_varyings_requirementsOf.mp hv
      exact .inr (mem_attributes_requirementsOf.mpr
        ⟨code, hcode, (h.fragmentBacked code hcode).passed v hv⟩)

/-- A pair of programs declares what its nodes rely on. -/
theorem declaresNeeded :
    let vertex := base.vertexShader (vertexCode.map Prod.snd) (fragmentCode.map Prod.snd)
      displacement?
    let fragment := base.fragmentShader (fragmentCode.map Prod.snd) coverage? output
    DeclaresNeeded .builtin ⟨vertex.text, fragment.text⟩ vertex fragment
      (vertexCode.map Prod.snd) (fragmentCode.map Prod.snd) := by
  intro vertex fragment
  exact ⟨vertex.text_eq, fragment.text_eq, rfl, rfl, h.vertexParameters, h.fragmentParameters,
    h.passed, h.attributes,
    suppliesFragments h.tame h.texts h.vertexBacked
      ((List.sublist_append_right _ _).trans sublist_withTexts),
    suppliesFragments h.tame h.texts h.fragmentBacked
      ((List.sublist_append_right _ _).trans sublist_withTexts)⟩

end IsPair

/-! ## Programs of a compile -/

namespace ShaderCompiler

variable {tree : NodeTree} {roots : List Root} {shader : CompiledShader} {alphaCode : StageCode}

namespace Provides

variable (h : Provides shader network alphaCode)
include h

/-- The statements of the vertex stage go with any part of those of the fragment stage that declares
what the expressions at the end read.  This covers both the whole fragment code and the part that
leads to the coverage. -/
lemma isPair (hcompiles : Compiles standard tree roots shader network) {keep : Target → Bool}
    (hcode : code.Provides network (rootNodes shader.roots keep))
    (hsub : code ⊆ shader.fragmentCode) (halpha : keep .alpha = true) {output : FragmentOutput}
    (houtput : ∀ expr, output = .color (some expr) →
      keep .color = true ∧ shader.root? .color = some expr) :
    IsPair shader.base shader.vertexCode code (shader.root? .displacement) (shader.root? .alpha)
      output := by
  refine ⟨h.tame, hcompiles.texts, fun node hnode => ?_, fun node hnode => ?_, ⟨_, _, h.vertex⟩,
    ⟨_, _, hcode⟩, fun expr => h.reads_root hcompiles.resolved h.vertex rfl,
    fun expr => h.reads_root hcompiles.resolved hcode halpha, fun expr hexpr => ?_⟩
  · obtain ⟨entry, hentry, rfl⟩ := List.mem_map.mp hnode
    exact h.backed entry (List.mem_append_right _ hentry)
  · obtain ⟨entry, hentry, rfl⟩ := List.mem_map.mp hnode
    exact h.backed entry (List.mem_append_left _ (hsub hentry))
  · obtain ⟨hkeep, hroot⟩ := houtput expr hexpr
    exact h.reads_root hcompiles.resolved hcode hkeep hroot

end Provides

/-- Both pairs of programs of a compile declare what their nodes rely on. -/
theorem compile_declares (h : standard.compile tree roots = .ok shader) :
    DeclaresNeeded .builtin shader.sources shader.mainVertex shader.mainFragment
      (shader.vertexCode.map Prod.snd) (shader.fragmentCode.map Prod.snd) ∧
    DeclaresNeeded .builtin shader.depthVariant shader.depthVertex shader.depthFragment
      (shader.vertexCode.map Prod.snd) shader.alphaCode := by
  obtain ⟨network, hcompiles⟩ := compiles_of_compile_eq_ok h
  obtain ⟨alphaCode, hprovides⟩ := hcompiles.provides
  have hmain : IsPair shader.base shader.vertexCode shader.fragmentCode
      (shader.root? .displacement) (shader.root? .alpha) (.color (shader.root? .color)) :=
    hprovides.isPair hcompiles hprovides.fragment (List.Subset.refl _) rfl
      fun expr hexpr => ⟨rfl, FragmentOutput.color.inj hexpr⟩
  have hdepth : IsPair shader.base shader.vertexCode alphaCode (shader.root? .displacement)
      (shader.root? .alpha) .depth := by
    refine hprovides.isPair hcompiles hprovides.alpha hprovides.sublist.subset rfl
      fun expr hexpr => ?_
    cases hexpr
  have hdeclares := hdepth.declaresNeeded
  rw [← hprovides.taken] at hdeclares
  exact ⟨hmain.declaresNeeded, hdeclares⟩

/-- A tree that passes an attribute on, and whose coverage is noise.  Its main and its depth program
differ in what they declare, and the noise needs a fragment of the library. -/
def clouds : NodeTree where
  nodes := .ofList
    [("tint", ⟨"tint", "attribute", ∅, ∅, [("attribute_name", .string "shade")]⟩),
     ("noise", ⟨"noise", "tex_white_noise", ∅, ∅, []⟩),
     ("end", ⟨"end", "output_material", ∅, ∅, []⟩)]
  links := [⟨⟨"tint", "color"⟩, ⟨"end", "surface"⟩⟩, ⟨⟨"noise", "value"⟩, ⟨"end", "alpha"⟩⟩]

/-- The tree compiles, and its depth program takes over one of the two values that the main program
passes on. -/
theorem compile_declares_clouds : ∃ shader, standard.compile clouds [] = .ok shader ∧
    DeclaresNeeded .builtin shader.sources shader.mainVertex shader.mainFragment
      (shader.vertexCode.map Prod.snd) (shader.fragmentCode.map Prod.snd) ∧
    DeclaresNeeded .builtin shader.depthVariant shader.depthVertex shader.depthFragment
      (shader.vertexCode.map Prod.snd) shader.alphaCode ∧
    shader.mainFragment.varyings.map Prod.fst = ["v_shade", "vPosition"] ∧
    shader.depthFragment.varyings.map Prod.fst = ["vPosition"] := by
  have hpassed : ((standard.compile clouds []).toOption.any fun shader =>
      shader.mainFragment.varyings.map Prod.fst == ["v_shade", "vPosition"] &&
        shader.depthFragment.varyings.map Prod.fst == ["vPosition"]) = true := by
    decide +kernel
  obtain ⟨shader, hshader, hpassed⟩ := (Option.any_eq_true _ _).mp hpassed
  obtain ⟨hmain, hdepth⟩ := Bool.and_eq_true_iff.mp hpassed
  have h := toOption_eq_some_iff.mp hshader
  exact ⟨shader, h, (compile_declares h).1, (compile_declares h).2, eq_of_beq hmain,
    eq_of_beq hdepth⟩

end ShaderCompiler

end SceneEngine.Shading
