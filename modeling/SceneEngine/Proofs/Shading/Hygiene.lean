import SceneEngine.Proofs.Shading.FragmentTexts
import SceneEngine.Proofs.Shading.NameSearch
import SceneEngine.Proofs.Shading.Samplers

/-!
# Generated names in a compile

The variables of outputs, the variables that nodes declare beside them, and the samplers of images
are all named by one pool.  Their names are made from ids, sockets and paths, which authors choose
freely: two ids may look alike once they are cleaned, and an id may be a word of the shading
language.  This module shows that generated names never collide, with each other or with any other
name of a program (`Hygienic`).

## New names

`Introduces` says of two states of a pool that some variables were named between them, each with a
new name of its own.  It composes: what is named later differs from what was named before.  The
outputs of a network are named first (`introduces_nameAll`), then the helper variables of each stage
while its nodes are evaluated (`introduces_evaluate`).  Samplers are named by the same pool, under a
word of their own, so the form of the name keeps them apart from variables.

## Names from elsewhere

The other names of a program come from many places, which `CompiledShader.Fixes` lists: flags,
attributes and matrices of the mesh, the parameters of hooks, values that pass between the stages,
what the main functions declare and read by themselves, and everything written in the library.  None
of these has the form of a generated name (`IsGenerated.not_fixes`); for the closed lists and the
library this is decided, and for the others it follows from the form that declarations have.

## The main result

`ShaderCompiler.generates_apart` says that a pool gives out proper names, each of them new, for
whatever it is asked, and that the names of a compile are hygienic.  A proper name is one that the
shading language accepts for a variable.
-/

namespace SceneEngine.Shading

open Identifier

variable {network : Network} {tree : NodeTree} {library : FragmentLibrary} {stage : Stage}
  {declarations declarations' : Declarations} {names names' names'' : NamePool}
  {xs ys : List String} {x : String} {i : Nat}

/-! ## New variables -/

/-- Between two states of the pool these variables are named, each with a new name of its own. -/
structure Introduces (before after : NamePool) (xs : List String) : Prop where
  /-- Names that were taken stay so. -/
  used : before.used ⊆ after.used
  /-- The variables are different from each other -/
  nodup : xs.Nodup
  /-- and new, and taken from now on. -/
  new : ∀ x ∈ xs, IsVariable x ∧ x ∉ before.used ∧ x ∈ after.used

namespace Introduces

/-- Nothing has been named. -/
lemma nil (names : NamePool) : Introduces names names [] :=
  ⟨List.Subset.refl _, List.nodup_nil, List.forall_mem_nil _⟩

/-- What is named later differs from what has been named before. -/
lemma append (h : Introduces names names' xs) (h' : Introduces names' names'' ys) :
    Introduces names names'' (xs ++ ys) := by
  refine ⟨List.Subset.trans h.used h'.used, ?_, List.forall_mem_append.mpr ⟨?_, ?_⟩⟩
  · refine List.nodup_append.mpr ⟨h.nodup, h'.nodup, fun x hx y hy hxy => ?_⟩
    exact (h'.new y hy).2.1 (hxy ▸ (h.new x hx).2.2)
  · intro x hx
    obtain ⟨hvariable, hnew, hused⟩ := h.new x hx
    exact ⟨hvariable, hnew, h'.used hused⟩
  · intro x hx
    obtain ⟨hvariable, hnew, hused⟩ := h'.new x hx
    exact ⟨hvariable, fun hmem => hnew (h.used hmem), hused⟩

/-- The names that were given to keys are different if no two keys share one. -/
lemma of_takesNames {named : OrderedMap String String} (h : TakesNames named.get? names names') :
    Introduces names names' named.values := by
  refine ⟨h.used, ?_, fun x hx => ?_⟩
  · refine List.Nodup.map_on ?_ named.nodup.of_map
    rintro ⟨k, x⟩ hk ⟨k', x'⟩ hk' rfl
    have hkeys := h.injective k k' x (OrderedMap.get?_eq_some_iff.mpr hk)
      (OrderedMap.get?_eq_some_iff.mpr hk')
    rw [hkeys]
  · obtain ⟨k, hk⟩ := OrderedMap.mem_values_iff.mp hx
    exact h.fresh k x hk

end Introduces

/-- The variables that hold the outputs of a network. -/
def Network.outputVariables (network : Network) : List String :=
  network.stations.flatMap fun station => station.outputNames.values

/-- Naming all outputs introduces the variables of the network. -/
lemma introduces_nameAll (stations : List Station) (pool : NamePool) :
    Introduces pool (nameAll stations pool).2
      ((nameAll stations pool).1.flatMap fun station => station.outputNames.values) := by
  induction stations generalizing pool with
  | nil => exact .nil pool
  | cons station stations ih =>
    exact (Introduces.of_takesNames (takesNames_nameOutputs station pool)).append
      (ih (station.nameOutputs pool).2)

/-! ## Helper variables -/

/-- The variables that the code of a node declares ahead of those of its outputs, of which it has
so many. -/
def NodeCode.helpers (code : NodeCode) (outputs : Nat) : List String :=
  declared (code.statements.take (code.statements.length - outputs))

/-- The number of outputs of the node in a position. -/
def Network.outputCount (network : Network) (i : Nat) : Nat :=
  (network.stations[i]?.map fun station => station.signature.outputs.length).getD 0

/-- The variables that the nodes of a stage declare beside those of their outputs. -/
def StageCode.helpers (network : Network) (code : StageCode) : List String :=
  code.flatMap fun entry => entry.2.helpers (network.outputCount entry.1)

/-- Storing outputs takes one statement for each. -/
lemma length_outputStatements {outs : List ((String × SocketType) × String)}
    {stored : List Statement} (h : outputStatements network i outs = .ok stored) :
    stored.length = outs.length := by
  induction outs generalizing stored with
  | nil =>
    cases h
    rfl
  | cons out outs ih =>
    obtain ⟨name, type, rest, -, hrest, rfl⟩ := outputStatements_cons h
    rw [List.length_cons, List.length_cons, ih hrest]

/-- The helper variables of a node are new. -/
lemma introduces_evaluateNode {station : Station} {code : NodeCode}
    (hkind : station.kind.Writes) (hnames : network.IsNamed names) (hlayered : library.IsLayered)
    (htame : declarations.Tame library) (hstation : network.stations[i]? = some station)
    (h : evaluateNode library network stage i station declarations names =
      .ok (code, declarations', names')) :
    Introduces names names' (code.helpers (network.outputCount i)) := by
  obtain ⟨operands, exprs, written, stored, hoperands, hruns, hlength, hstored, rfl, rfl, rfl⟩ :=
    exists_of_evaluateNode_eq_ok h
  have hadds := hkind station.node (known_of_operandsOf hnames hstation hoperands)
    ⟨hlayered, htame, .empty⟩ (fun x => .inl) rfl hruns
  -- the helper variables are those ahead of the stored outputs, of which there is one for each
  have hcount : network.outputCount i = stored.length := by
    rw [Network.outputCount, hstation, length_outputStatements hstored, List.length_zip, hlength,
      Nat.min_self]
    rfl
  have hhelpers : NodeCode.helpers ⟨written.statements ++ stored, written.requires⟩
      (network.outputCount i) = declared written.statements := by
    rw [NodeCode.helpers, hcount, List.length_append, Nat.add_sub_cancel, List.take_left]
  rw [hhelpers]
  exact ⟨hadds.used, hadds.nodup, hadds.fresh⟩

/-- The helper variables of a stage are new. -/
lemma introduces_evaluate {indices : List Nat} {code : StageCode}
    (hkinds : ∀ station ∈ network.stations, station.kind.Writes ∧
      (station.signature.outputs.map Prod.fst).Nodup)
    (hnames : network.IsNamed names) (hlayered : library.IsLayered)
    (htame : declarations.Tame library)
    (h : evaluate library network stage indices declarations names =
      .ok (code, declarations', names')) :
    Introduces names names' (StageCode.helpers network code) := by
  induction indices generalizing declarations names code with
  | nil =>
    cases h
    exact .nil _
  | cons index indices ih =>
    obtain ⟨station, first, declarations₁, names₁, codes, hstation, hfirst, hcodes, rfl⟩ :=
      evaluate_cons_eq_ok_iff.mp h
    obtain ⟨hwrites, hsockets⟩ := hkinds station (List.mem_of_getElem? hstation)
    obtain ⟨hadvances, -, -⟩ :=
      isSound_of_evaluateNode hwrites hsockets hnames hlayered htame hstation hfirst
    exact (introduces_evaluateNode hwrites hnames hlayered htame hstation hfirst).append
      (ih (hnames.mono hadvances.used) hadvances.tame hcodes)

/-! ## Names that come from elsewhere -/

/-- The lines that the main functions of a compile have whatever the nodes are: without the
statements of nodes, and without the expressions of roots. -/
def CompiledShader.frameLines (shader : CompiledShader) : List String :=
  mainLines [] ++
  ({ shader.mainVertex with displacement? := none } : VertexShader).finalStatements ++
  ({ shader.mainFragment with
      coverage? := some coverageCutoff, output := .color none } : FragmentShader).finalStatements ++
  ({ shader.depthFragment with coverage? := some coverageCutoff } : FragmentShader).finalStatements

/-- The names that come from no node's id and no image: those of flags, of the attributes and
matrices that every program has, of the parameters of hooks, of values and attributes that pass
between the stages, of the main functions and what they declare and read by themselves, and all
names in the library. -/
inductive CompiledShader.Fixes (shader : CompiledShader) : String → Prop
  /-- The flags that are defined. -/
  | flag {x : String} (h : x ∈ shader.base.declarations.defines) : shader.Fixes x
  /-- Attributes that every mesh has. -/
  | meshAttribute {x : String} (h : x ∈ meshAttributes.map Prod.snd) : shader.Fixes x
  /-- The matrices of the vertex program. -/
  | matrix {x : String} (h : x ∈ matrices.map Prod.snd) : shader.Fixes x
  /-- What hooks refresh. -/
  | frameParameter {x : String} (h : x ∈ frameParameters) : shader.Fixes x
  /-- What is known about the surface. -/
  | surfaceValue {x : String} (h : x ∈ surfaceValues.map Prod.fst) : shader.Fixes x
  /-- Attributes that nodes read. -/
  | declaredAttribute {x : String} (h : x ∈ shader.base.declarations.attributes.keys) :
    shader.Fixes x
  /-- Values that pass between the stages. -/
  | declaredVarying {x : String} (h : x ∈ shader.base.declarations.varyings.keys) :
    shader.Fixes x
  /-- Names in the lines that are there without any node. -/
  | main {x line : String} (hline : line ∈ shader.frameLines) (h : x ∈ identifiers line) :
    shader.Fixes x
  /-- Names anywhere in the library. -/
  | library {x : String} {fragment : Fragment} (hfragment : fragment ∈ builtinFragments)
    (h : x ∈ identifiers fragment.source) : shader.Fixes x

/-- A name of one of the two forms that are given out in a compile. -/
def IsGenerated (x : String) : Prop := IsNamedAfter "n" x ∨ IsNamedAfter "tex" x

/-- Whether characters have one of these forms. -/
def hasGeneratedForm (cs : List Char) : Bool :=
  hasLocalForm cs || cs == ['t', 'e', 'x'] || ['t', 'e', 'x', '_'].isPrefixOf cs

lemma IsGenerated.hasGeneratedForm (h : IsGenerated x) : hasGeneratedForm x.toList = true := by
  rw [Shading.hasGeneratedForm, Bool.or_eq_true, Bool.or_eq_true]
  rcases h with h | rfl | ⟨cs, hcs⟩
  · exact .inl (.inl (isLocal_iff.mpr h))
  · exact .inl (.inr rfl)
  · rw [hcs]
    exact .inr (List.isPrefixOf_iff_prefix.mpr (List.prefix_append ['t', 'e', 'x', '_'] cs))

/-- A generated name starts like none of the names of attributes and passed values. -/
lemma IsGenerated.not_isPassed (h : IsGenerated x) :
    ¬(isAttribute x = true ∨ isPassed x = true) := by
  have hhead : x.toList.head? = some 'n' ∨ x.toList.head? = some 't' :=
    h.imp (head?_of_isNamedAfter · rfl) (head?_of_isNamedAfter · rfl)
  rintro (hattribute | hpassed)
  · rw [head?_of_hasAttributeForm hattribute] at hhead
    exact absurd hhead (by decide)
  · rw [head?_of_hasPassedForm hpassed] at hhead
    exact absurd hhead (by decide)

lemma IsGenerated.isTraced (h : IsGenerated x) : isTraced x = true := by
  refine isTraced_iff.mpr (h.imp isLocal_iff.mpr fun htex => ?_)
  exact isGlobal_iff.mpr (.inr (.inl (isParameter_of_isNamedAfter htex)))

/-- No name in the library has such a form. -/
lemma hasGeneratedForm_builtin {fragment : Fragment} (hfragment : fragment ∈ builtinFragments)
    (hx : x ∈ identifiers fragment.source) : hasGeneratedForm x.toList = false := by
  have hsources : ∀ fragment ∈ builtinFragments, ∀ x ∈ identifiers fragment.source,
      hasGeneratedForm x.toList = false := by
    simp only [builtinFragments, List.forall_mem_cons, hashSource, noiseSource, mapRangeSource,
      clampRangeSource, blendSource, identifiers_sourceOf, List.flatMap_cons, List.flatMap_nil]
    repeat rw [identifiers_ofList]
    decide +kernel
  exact hsources fragment hfragment x hx

/-- What the main functions of a compile have by themselves reads attributes and passed values, and
no other name that would have to be declared. -/
lemma reads_frameLines {shader : CompiledShader}
    (htame : shader.base.declarations.Tame library) :
    ∀ line ∈ shader.frameLines, Reads (fun x => isAttribute x = true ∨ isPassed x = true) line := by
  intro line hline
  simp only [CompiledShader.frameLines, List.mem_append] at hline
  have hnumber : ∀ expr, some coverageCutoff = some expr →
      Reads (fun x => isAttribute x = true ∨ isPassed x = true) expr := by
    rintro expr ⟨⟩
    exact .of_isForeign (by decide)
  rcases hline with ((hline | hline) | hline) | hline
  · have hforeign : ∀ line ∈ mainLines [], isForeign line = true := by decide
    exact .of_isForeign (hforeign line hline)
  · have hnone : ∀ expr, (none : Option String) = some expr →
        Reads (fun x => isAttribute x = true ∨ isPassed x = true) expr := by
      intro expr hexpr
      cases hexpr
    refine (concludes_vertexShader htame (fun entry hentry => ?_) hnone line hline).reads
    have hkey := List.mem_map_of_mem (f := Prod.fst) (ProgramBase.mem_of_mem_choose hentry)
    exact ⟨.inr (htame.varyings entry.1 hkey).2, fun v _ => .inl (isAttribute_append v)⟩
  · exact (concludes_fragmentShader hnumber (fun expr hexpr => by cases hexpr) line hline).reads
  · exact (concludes_fragmentShader hnumber (fun expr hexpr => by cases hexpr) line hline).reads

/-- No generated name comes from elsewhere. -/
lemma IsGenerated.not_fixes {shader : CompiledShader} (h : IsGenerated x)
    (htame : shader.base.declarations.Tame library) : ¬shader.Fixes x := by
  have hclosed : ∀ name ∈ flags ++ meshAttributes.map Prod.snd ++ matrices.map Prod.snd ++
      frameParameters ++ surfaceValues.map Prod.fst,
      Shading.hasGeneratedForm name.toList ≠ true := by
    decide
  simp only [List.forall_mem_append] at hclosed
  obtain ⟨⟨⟨⟨hflags, hattributes⟩, hmatrices⟩, hframe⟩, hsurface⟩ := hclosed
  intro hfixes
  cases hfixes with
  | flag hmem => exact hflags x (htame.defines x hmem) h.hasGeneratedForm
  | meshAttribute hmem => exact hattributes x hmem h.hasGeneratedForm
  | matrix hmem => exact hmatrices x hmem h.hasGeneratedForm
  | frameParameter hmem => exact hframe x hmem h.hasGeneratedForm
  | surfaceValue hmem => exact hsurface x hmem h.hasGeneratedForm
  | declaredAttribute hmem => exact h.not_isPassed (.inl (htame.attributes x hmem).2)
  | declaredVarying hmem => exact h.not_isPassed (.inr (htame.varyings x hmem).2)
  | main hline hmem => exact h.not_isPassed (reads_frameLines htame _ hline x hmem h.isTraced)
  | library hfragment hmem =>
    have hform := hasGeneratedForm_builtin hfragment hmem
    rw [h.hasGeneratedForm] at hform
    cases hform

/-! ## Generated names -/

/-- The samplers of a compile. -/
def CompiledShader.samplers (shader : CompiledShader) : List String :=
  (shader.base.declarations.uniforms.entries.filter (·.2.image?.isSome)).map Prod.fst

/-- The names that are generated in a compile: of the variables of outputs, of the helper variables
of the fragments and of the vertices, and of samplers. -/
def CompiledShader.generatedNames (shader : CompiledShader) (network : Network) : List String :=
  network.outputVariables ++ StageCode.helpers network shader.fragmentCode ++
    StageCode.helpers network shader.vertexCode ++ shader.samplers

/-- The generated names of a compile are kept apart, from each other and from all other names. -/
structure Hygienic (shader : CompiledShader) (network : Network) : Prop where
  /-- Generated names are different from each other, -/
  nodup : (shader.generatedNames network).Nodup
  /-- can be used as names in a program -/
  proper : ∀ x ∈ shader.generatedNames network, IsProper x
  /-- and come from nowhere else. -/
  apart : ∀ x ∈ shader.generatedNames network, ¬shader.Fixes x

/-- A tidy name behind one of the two words is proper. -/
lemma IsGenerated.isProper (h : IsGenerated x) (htidy : Tidy x.toList) : IsProper x := by
  rcases h with h | h
  · exact h.isProper htidy (by decide) (by decide +kernel)
  · exact h.isProper htidy (by decide) (by decide +kernel)

namespace ShaderCompiler

variable {roots : List Root} {shader : CompiledShader}

/-- The generated names of a compile are kept apart. -/
lemma Compiles.hygienic (h : Compiles standard tree roots shader network) :
    Hygienic shader network := by
  obtain ⟨alphaCode, hprovides⟩ := h.provides
  obtain ⟨poolNames, horderly⟩ := h.orderly
  obtain ⟨stations, names, names₁, names₂, declarations, hnameAll, hfragment, hvertex⟩ :=
    h.evaluated
  have hkinds := h.resolves.writes
  have hnames := Network.isNamed_of_nameAll hnameAll
  have hlayered := FragmentLibrary.isLayered_builtin
  obtain ⟨hadvances, -, -⟩ := isSound_of_evaluate hkinds hnames hlayered Declarations.tame_empty
    (h.resolves.nodup_needed _) hfragment
  have houtputs : Introduces .empty names network.outputVariables := by
    have hall := introduces_nameAll stations .empty
    rwa [hnameAll] at hall
  have hvariables := (houtputs.append (introduces_evaluate hkinds hnames hlayered
    Declarations.tame_empty hfragment)).append (introduces_evaluate hkinds
      (hnames.mono hadvances.used) hlayered hadvances.tame hvertex)
  have hsampler : ∀ x ∈ shader.samplers, IsNamedAfter "tex" x ∧ Tidy x.toList := by
    intro x hx
    obtain ⟨⟨name, value⟩, hentry, rfl⟩ := List.mem_map.mp hx
    obtain ⟨hentry, himage⟩ := List.mem_filter.mp hentry
    obtain ⟨path, hpath⟩ := Option.isSome_iff_exists.mp himage
    have hbound := OrderedMap.get?_eq_some_iff.mpr hentry
    obtain rfl := image?_eq_some_iff.mp hpath
    have hname := horderly.isSampler hbound
    exact ⟨hname.named, hname.tidy⟩
  have hgenerated : ∀ x ∈ shader.generatedNames network, IsGenerated x ∧ Tidy x.toList := by
    refine List.forall_mem_append.mpr ⟨fun x hx => ?_, fun x hx => ?_⟩
    · obtain ⟨hvariable, -, -⟩ := hvariables.new x hx
      exact ⟨.inl hvariable.named, hvariable.tidy⟩
    · exact ⟨.inr (hsampler x hx).1, (hsampler x hx).2⟩
  refine ⟨?_, fun x hx => ?_, fun x hx => (hgenerated x hx).1.not_fixes hprovides.tame⟩
  · have hsamplers : shader.samplers.Nodup :=
      shader.base.declarations.uniforms.nodup.sublist (List.filter_sublist.map Prod.fst)
    refine List.nodup_append.mpr ⟨hvariables.nodup, hsamplers, fun x hx y hy hxy => ?_⟩
    -- a variable and a sampler start with different letters
    have hvariable := head?_of_isNamedAfter (hvariables.new x hx).1.named rfl
    have htex := head?_of_isNamedAfter (hsampler y hy).1 rfl
    rw [hxy, htex] at hvariable
    exact absurd hvariable (by decide)
  · exact (hgenerated x hx).1.isProper (hgenerated x hx).2

/-- For whatever it is asked, a pool gives out proper names, each of them new, and the names that a
compile generates are kept apart from each other and from all others. -/
theorem generates_apart :
    (∀ calls : List (List String), (∀ parts ∈ calls, base parts ≠ "v_" ∧ base parts ≠ "gl") →
      ∀ pool : NamePool, pool.GivesProper calls) ∧
    ∀ tree roots shader, standard.compile tree roots = .ok shader →
      ∃ network names, Network.resolve tree .builtin .empty = .ok (network, names) ∧
        Hygienic shader network := by
  refine ⟨fun calls hcalls pool => NamePool.givesProper hcalls pool, fun tree roots shader h => ?_⟩
  obtain ⟨network, names, hresolve, hcompiles⟩ := exists_resolve_of_compile_eq_ok h
  exact ⟨network, names, hresolve, hcompiles.hygienic⟩

/-- A tree whose ids and sockets ask for the same names several times, and which reads two images
whose paths do so too. -/
def namesakes : NodeTree where
  nodes := .ofList
    [("a b", ⟨"a b", "tex_noise", ∅, ∅, []⟩), ("a-b", ⟨"a-b", "tex_noise", ∅, ∅, []⟩),
     ("a_b_color", ⟨"a_b_color", "tex_image", ∅, ∅, [("image", .string "_.png")]⟩),
     ("a", ⟨"a", "tex_image", ∅, ∅, [("image", .string "png")]⟩),
     ("end", ⟨"end", "output_material", ∅, ∅, []⟩)]
  links :=
    [⟨⟨"a", "color"⟩, ⟨"a b", "vector"⟩⟩, ⟨⟨"a_b_color", "color"⟩, ⟨"a-b", "vector"⟩⟩,
     ⟨⟨"a b", "color"⟩, ⟨"end", "surface"⟩⟩, ⟨⟨"a-b", "fac"⟩, ⟨"end", "displacement"⟩⟩]

theorem generates_apart_namesakes :
    NamePool.empty.GivesProper [["n", "a", "b"], ["n", "a-b"], ["float"], ["gl", "Position"]] ∧
    NamePool.empty.allocateAll [["n", "a", "b"], ["n", "a-b"], ["float"], ["gl", "Position"]] =
      ["n_a_b", "n_a_b_2", "float_2", "v_gl_Position"] ∧
    ∃ shader network names, standard.compile namesakes [] = .ok shader ∧
      Network.resolve namesakes .builtin .empty = .ok (network, names) ∧
      Hygienic shader network ∧
      StageCode.helpers network shader.fragmentCode ++
          StageCode.helpers network shader.vertexCode ++ shader.samplers =
        ["n_a_sample", "n_a_b_p", "n_a_b_fac_3", "n_a_b_color_sample", "n_a_b_p_2", "n_a_b_fac_4",
          "tex_png", "tex_png_2"] := by
  have hresult : ((standard.compile namesakes []).toOption.any fun shader =>
      (Network.resolve namesakes .builtin .empty).toOption.any fun resolved =>
        StageCode.helpers resolved.1 shader.fragmentCode ++
            StageCode.helpers resolved.1 shader.vertexCode ++ shader.samplers ==
          ["n_a_sample", "n_a_b_p", "n_a_b_fac_3", "n_a_b_color_sample", "n_a_b_p_2", "n_a_b_fac_4",
            "tex_png", "tex_png_2"]) = true := by
    decide +kernel
  obtain ⟨shader, hshader, hvalues⟩ := (Option.any_eq_true _ _).mp hresult
  obtain ⟨resolved, hresolved, hnames⟩ := (Option.any_eq_true _ _).mp hvalues
  have h := toOption_eq_some_iff.mp hshader
  obtain ⟨network, names, hresolve, hhygienic⟩ := generates_apart.2 namesakes [] shader h
  obtain rfl := Except.ok.inj ((toOption_eq_some_iff.mp hresolved).symm.trans hresolve)
  exact ⟨generates_apart.1 _ (by decide +kernel) _, by decide +kernel, shader, network, names, h,
    hresolve, hhygienic, eq_of_beq hnames⟩

end ShaderCompiler

end SceneEngine.Shading
