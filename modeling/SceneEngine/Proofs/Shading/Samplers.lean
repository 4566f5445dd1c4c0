import SceneEngine.Proofs.Shading.DeclaredNames
import SceneEngine.Proofs.Shading.Stock

/-!
# Samplers of images

Every image that a material reads is bound to a sampler, and a program can have only so many of
them.  So nodes that read the same image have to share one, also when one node is evaluated for the
fragments and another for the vertices, and no image may be bound that nothing reads.  This module
shows both (`ShaderCompiler.compile_sharesSamplers`).

## Reading off the code

Which sampler a node reads is not looked up in a table but read off the calls in its code
(`NodeCode.samplers`): a statement that reads an image has a call as its value, and the name of the
sampler stands behind the opening bracket.  The code of an image node contains one such statement,
and its other statements, which store the outputs, start with a variable.

## One sampler for each image

When an image node is evaluated, it gets the sampler that the stock has for its image at that
moment, or a new one; afterwards the sampler is bound to the image, and this stays so whatever else
is evaluated (`exists_sampler_of_mem`).  Since the stock never has two samplers for one image, two
nodes have the same sampler exactly when they name the same image.

`SharesSamplers` also says that the images that are bound are those that evaluated nodes name, that
no sampler is called like another parameter, and that all other parameters belong to hooks.
-/

namespace SceneEngine.Shading

open Identifier

/-! ## Samplers in code -/

/-- The name of the sampler that a statement reads an image through: the one behind the call
`texture(` that its value is. -/
def Statement.sampler? : Statement → Option String
  | .declare _ _ value =>
    if "texture(".toList.isPrefixOf value.toList then
      some (String.ofList ((value.toList.drop "texture(".length).takeWhile isNameChar))
    else none
  | .verbatim _ => none

/-- The samplers that the code of a node reads images through. -/
def NodeCode.samplers (code : NodeCode) : List String :=
  code.statements.filterMap Statement.sampler?

variable {tree : NodeTree} {network : Network} {declarations declarations' : Declarations}
  {names names' : NamePool} {stage : Stage} {node : Node} {path x : String}

/-- The name of a sampler is read off the call. -/
lemma sampler?_texture (h : names.IsSampler x) (type : SocketType) (name place : String) :
    (Statement.declare type name ("texture(" ++ x ++ ", " ++ place ++ ".xy)")).sampler? =
      some x := by
  have hlist : ("texture(" ++ x ++ ", " ++ place ++ ".xy)").toList =
      "texture(".toList ++ (x.toList ++ ',' :: (" " ++ place ++ ".xy)").toList) := by
    simp
  have hname : ∀ c ∈ x.toList, isNameChar c = true := fun c hc => h.tidy.isNameChar_of_mem hc
  have hcomma : isNameChar ',' = false := by decide
  rw [Statement.sampler?, hlist, if_pos (List.isPrefixOf_iff_prefix.mpr (List.prefix_append _ _))]
  have hdrop : "texture(".length = "texture(".toList.length := rfl
  rw [hdrop, List.drop_left, List.takeWhile_append_of_pos hname, List.takeWhile_cons, hcomma]
  simp

/-- A value that starts with a variable reads no image. -/
lemma sampler?_of_variable (h : IsVariable x) (type : SocketType) (name rest : String) :
    (Statement.declare type name (x ++ rest)).sampler? = none := by
  obtain ⟨cs, hcs⟩ : ∃ cs, x.toList = 'n' :: cs := by
    rcases h.named with rfl | ⟨cs, hcs⟩
    · exact ⟨[], rfl⟩
    · exact ⟨'_' :: cs, hcs⟩
  refine if_neg ?_
  rw [String.toList_append, hcs]
  exact Bool.false_ne_true

/-! ## The code of an image node -/

/-- Whatever an image node writes, it reads its image through the sampler that the stock has for
it. -/
lemma runs_texImage {operands : Operands} {site : Site} {e e' : Emission} {exprs : List String}
    (h : Emit.Runs (Nodes.texImage.emit node operands) site e exprs e') :
    ∃ path sample place, Nodes.imagePath? node = some path ∧ IsVariable sample ∧
      exprs = [sample, sample ++ ".a"] ∧
      e'.statements = e.statements ++ [.declare .vec4 sample
        ("texture(" ++ e.stock.sampler path ++ ", " ++ place ++ ".xy)")] := by
  dsimp only [Nodes.texImage] at h
  split at h
  next path hpath =>
    obtain ⟨sampler, e₁, hsampler, h⟩ := Emit.runs_bind.mp h
    obtain ⟨rfl, hstatements₁, -⟩ := Emit.runs_sampler hsampler
    obtain ⟨place, e₂, hplace, h⟩ := Emit.runs_bind.mp h
    obtain ⟨-, hstatements₂⟩ := Nodes.quiet_coordinates Nodes.quiet_flatUv hplace
    obtain ⟨sample, e₃, hfresh, h⟩ := Emit.runs_bind.mp h
    obtain ⟨hvariable, -, rfl⟩ := Emit.runs_freshLocal hfresh
    obtain ⟨u, e₄, hstatement, h⟩ := Emit.runs_bind.mp h
    obtain rfl := Emit.runs_statement hstatement
    obtain ⟨rfl, rfl⟩ := Emit.runs_pure.mp h
    refine ⟨path, sample, place, hpath, hvariable, rfl, ?_⟩
    rw [← hstatements₁, ← hstatements₂]
  · cases h

/-- The statements that store outputs hold the expressions of the outputs. -/
lemma exists_of_mem_outputStatements {index : Nat}
    {outs : List ((String × SocketType) × String)} {stored : List Statement}
    (h : outputStatements network index outs = .ok stored) {s : Statement} (hs : s ∈ stored) :
    ∃ out ∈ outs, ∃ name, s = .declare out.1.2 name out.2 := by
  induction outs generalizing stored with
  | nil =>
    cases h
    cases hs
  | cons out outs ih =>
    obtain ⟨name, type, rest, -, hrest, rfl⟩ := outputStatements_cons h
    rcases List.mem_cons.mp hs with rfl | hs
    · exact ⟨out, List.mem_cons_self, name, rfl⟩
    · obtain ⟨out', hout', hs'⟩ := ih hrest hs
      exact ⟨out', List.mem_cons_of_mem _ hout', hs'⟩

/-- The type of an image node is the one that samples images. -/
lemma NodeRegistry.get?_texImage {kind : String} (h : canonicalKind kind = "tex_image") :
    NodeRegistry.builtin.get? kind = some Nodes.texImage := by
  rw [NodeRegistry.get?, h]
  rfl

/-- The code of an image node reads its image through a single sampler. -/
lemma samplers_of_evaluateNode {station : Station} {library : FragmentLibrary} {index : Nat}
    {code : NodeCode} (hkind : station.kind = Nodes.texImage)
    (horderly : (declarations.stock names).Orderly)
    (h : evaluateNode library network stage index station declarations names =
      .ok (code, declarations', names')) :
    ∃ path, Nodes.imagePath? station.node = some path ∧
      code.samplers = [(declarations.stock names).sampler path] := by
  obtain ⟨operands, exprs, written, stored, -, hruns, -, hstored, rfl, rfl, rfl⟩ :=
    exists_of_evaluateNode_eq_ok h
  rw [hkind] at hruns
  obtain ⟨path, sample, place, hpath, hvariable, hexprs, hstatements⟩ := runs_texImage hruns
  refine ⟨path, hpath, ?_⟩
  have hstatements : written.statements = [.declare .vec4 sample
      ("texture(" ++ (declarations.stock names).sampler path ++ ", " ++ place ++ ".xy)")] :=
    hstatements
  have hsampler := (horderly.meet (.image path)).isSampler (horderly.get?_sampler path)
  have hread : written.statements.filterMap Statement.sampler? =
      [(declarations.stock names).sampler path] := by
    rw [hstatements, List.filterMap_cons, sampler?_texture hsampler, List.filterMap_nil]
  have hstored : stored.filterMap Statement.sampler? = [] := by
    refine List.filterMap_eq_nil_iff.mpr fun s hs => ?_
    obtain ⟨out, hout, name, rfl⟩ := exists_of_mem_outputStatements hstored hs
    have hexpr : out.2 = sample ++ "" ∨ out.2 = sample ++ ".a" := by
      rw [String.append_empty]
      simpa [hexprs] using (List.of_mem_zip hout).2
    rcases hexpr with hexpr | hexpr
    · rw [hexpr]
      exact sampler?_of_variable hvariable _ _ _
    · rw [hexpr]
      exact sampler?_of_variable hvariable _ _ _
  rw [NodeCode.samplers, List.filterMap_append, hread, hstored, List.append_nil]

/-- Every image node that is evaluated names an image, and reads it through a sampler that is bound
to it. -/
lemma exists_sampler_of_mem {library : FragmentLibrary} {indices : List Nat} {code : StageCode}
    {entry : Nat × NodeCode} (hresolves : network.Resolves .builtin tree)
    (horderly : (declarations.stock names).Orderly)
    (h : evaluate library network stage indices declarations names =
      .ok (code, declarations', names'))
    (hentry : entry ∈ code) (hnode : tree.nodes.values[entry.1]? = some node)
    (hkind : canonicalKind node.kind = "tex_image") :
    ∃ path x, node.ReadsImage path ∧ entry.2.samplers = [x] ∧
      declarations'.uniforms.get? x = some (.texture path) := by
  obtain ⟨station, before, after, ahead, behind, declarations₁, names₁, declarations₂, names₂,
    hstation, hbefore, hnodeCode, hafter⟩ := exists_evaluateNode_of_mem h hentry
  obtain rfl := Option.some.inj ((hresolves.node_of_station hstation).symm.trans hnode)
  have hmem := List.mem_of_getElem? hstation
  have hregistered := (hresolves.wired.typed station hmem).1
  have htexImage : station.kind = Nodes.texImage :=
    Option.some.inj (hregistered.symm.trans (NodeRegistry.get?_texImage hkind))
  have horderly₁ : (declarations₁.stock names₁).Orderly := by
    rw [stock_evaluate hresolves hbefore]
    exact Stock.orderly_foldl horderly _
  obtain ⟨path, hpath, hsamplers⟩ := samplers_of_evaluateNode htexImage horderly₁ hnodeCode
  refine ⟨path, _, ⟨hkind, hpath⟩, hsamplers, ?_⟩
  -- the sampler is bound when the first demand of the node is met, and stays so
  obtain ⟨hasks, hname⟩ := hresolves.asks hmem
  have hstock := stock_evaluate hresolves hafter
  rw [stock_evaluateNode hasks hname hnodeCode] at hstock
  have hdemands : station.node.demands =
      [.image path, .helper station.node.id "sample"] := by
    rw [Node.demands, hkind]
    change (Nodes.imagePath? station.node).toList.map Demand.image ++ _ = _
    rw [hpath]
    rfl
  rw [hdemands, ← List.foldl_append] at hstock
  have hbound := (horderly₁.meet (.image path)).get?_foldl (horderly₁.get?_sampler path)
    (.helper station.node.id "sample" :: tree.demands after)
  have huniforms : declarations'.uniforms = (declarations'.stock names').uniforms := rfl
  rw [huniforms, hstock]
  exact hbound

/-! ## Samplers of a compile -/

/-- The image that a parameter is bound to. -/
def UniformValue.image? : UniformValue → Option String
  | .texture path => some path
  | _ => none

/-- The images that the parameters of a compile are bound to. -/
def CompiledShader.images (shader : CompiledShader) : List String :=
  shader.base.declarations.uniforms.values.filterMap UniformValue.image?

/-- The node is evaluated to this code, for the fragments or for the vertices. -/
def CompiledShader.Evaluates (shader : CompiledShader) (tree : NodeTree) (node : Node)
    (code : NodeCode) : Prop :=
  ∃ i, (i, code) ∈ shader.fragmentCode ++ shader.vertexCode ∧ tree.nodes.values[i]? = some node

/-- Samplers and images correspond, over both stages of a compile. -/
structure SharesSamplers (tree : NodeTree) (shader : CompiledShader) : Prop where
  /-- An image node names an image, and reads it through one sampler, which is bound to it. -/
  reads : ∀ node code, shader.Evaluates tree node code → canonicalKind node.kind = "tex_image" →
    ∃ path x, node.ReadsImage path ∧ code.samplers = [x] ∧
      shader.base.declarations.uniforms.get? x = some (.texture path)
  /-- Image nodes have the same sampler exactly when they name the same image. -/
  same_iff : ∀ node node' code code', shader.Evaluates tree node code →
    canonicalKind node.kind = "tex_image" → shader.Evaluates tree node' code' →
    canonicalKind node'.kind = "tex_image" →
    (code.samplers = code'.samplers ↔ Nodes.imagePath? node = Nodes.imagePath? node')
  /-- No image is bound twice. -/
  nodup : shader.images.Nodup
  /-- The images that are bound are those that evaluated nodes name. -/
  mem_images : ∀ path, path ∈ shader.images ↔
    ∃ node code, shader.Evaluates tree node code ∧ node.ReadsImage path
  /-- No sampler is named like a parameter of a hook, or one of the matrices. -/
  apart : ∀ x path, shader.base.declarations.uniforms.get? x = some (.texture path) →
    x ∉ frameParameters ++ matrices.map Prod.snd
  /-- All other parameters are those of hooks. -/
  others : ∀ x value, shader.base.declarations.uniforms.get? x = some value →
    value.image? = none → x ∈ frameParameters

/-- A parameter is bound to an image when this is its value. -/
lemma image?_eq_some_iff {value : UniformValue} :
    value.image? = some path ↔ value = .texture path := by
  cases value <;> simp [UniformValue.image?]

/-- An image is bound when it is the value of a parameter. -/
lemma CompiledShader.mem_images {shader : CompiledShader} :
    path ∈ shader.images ↔
      ∃ x, shader.base.declarations.uniforms.get? x = some (.texture path) := by
  rw [images, List.mem_filterMap]
  constructor
  · rintro ⟨value, hvalue, himage⟩
    obtain ⟨x, hx⟩ := OrderedMap.mem_values_iff.mp hvalue
    exact ⟨x, hx.trans (congrArg some (image?_eq_some_iff.mp himage))⟩
  · rintro ⟨x, hx⟩
    exact ⟨_, OrderedMap.mem_values_iff.mpr ⟨x, hx⟩, rfl⟩

/-- When no image has two samplers, every image is listed once. -/
lemma CompiledShader.nodup_images {shader : CompiledShader}
    (h : ∀ x y path, shader.base.declarations.uniforms.get? x = some (.texture path) →
      shader.base.declarations.uniforms.get? y = some (.texture path) → x = y) :
    shader.images.Nodup := by
  have hkeys : shader.base.declarations.uniforms.entries.Pairwise fun a b => a.1 ≠ b.1 :=
    List.pairwise_map.mp shader.base.declarations.uniforms.nodup
  rw [images, OrderedMap.values, List.filterMap_map]
  refine List.pairwise_filterMap.mpr (hkeys.imp_of_mem fun {a b} ha hb hne => ?_)
  rintro path hpath path' hpath' rfl
  have hbound : ∀ entry ∈ shader.base.declarations.uniforms.entries,
      (UniformValue.image? ∘ Prod.snd) entry = some path →
      shader.base.declarations.uniforms.get? entry.1 = some (.texture path) := by
    intro entry hentry hpath
    rw [OrderedMap.get?_eq_some_iff, ← image?_eq_some_iff.mp hpath]
    exact hentry
  exact hne (h a.1 b.1 path (hbound a ha hpath) (hbound b hb hpath'))

namespace ShaderCompiler

variable {roots : List Root} {shader : CompiledShader}

/-- Every image node that is evaluated, for the fragments or for the vertices, reads its image
through a sampler that is bound to it in the end. -/
lemma Compiles.exists_sampler (h : Compiles standard tree roots shader network) {code : NodeCode}
    (hcode : shader.Evaluates tree node code) (hkind : canonicalKind node.kind = "tex_image") :
    ∃ path x, node.ReadsImage path ∧ code.samplers = [x] ∧
      shader.base.declarations.uniforms.get? x = some (.texture path) := by
  obtain ⟨stations, names, names₁, names₂, declarations, -, hfragment, hvertex⟩ := h.evaluated
  obtain ⟨i, hmem, hnode⟩ := hcode
  have hstart : (({} : Declarations).stock names).Orderly := Stock.orderly_start names
  have horderly : (declarations.stock names₁).Orderly := by
    rw [stock_evaluate h.resolves hfragment]
    exact Stock.orderly_foldl hstart _
  rcases List.mem_append.mp hmem with hmem | hmem
  · obtain ⟨path, x, hreads, hsamplers, hx⟩ :=
      exists_sampler_of_mem h.resolves hstart hfragment hmem hnode hkind
    refine ⟨path, x, hreads, hsamplers, ?_⟩
    have hstock := stock_evaluate h.resolves hvertex
    have huniforms : shader.base.declarations.uniforms =
      (shader.base.declarations.stock names₂).uniforms := rfl
    rw [huniforms, hstock]
    exact horderly.get?_foldl hx _
  · exact exists_sampler_of_mem h.resolves horderly hvertex hmem hnode hkind

/-- Over both stages of a compile, samplers and images correspond. -/
theorem compile_sharesSamplers (h : standard.compile tree roots = .ok shader) :
    SharesSamplers tree shader := by
  obtain ⟨network, hcompiles⟩ := compiles_of_compile_eq_ok h
  obtain ⟨names, horderly⟩ := hcompiles.orderly
  -- the table of parameters is orderly at the end of both stages, so no image has two samplers
  have hinjective : ∀ x y path, shader.base.declarations.uniforms.get? x = some (.texture path) →
      shader.base.declarations.uniforms.get? y = some (.texture path) → x = y :=
    horderly.injective
  refine ⟨fun node code => hcompiles.exists_sampler, ?_, CompiledShader.nodup_images hinjective,
    fun path => ?_, fun x path hx => ?_, fun x value hx hvalue => ?_⟩
  · intro node node' code code' hcode hkind hcode' hkind'
    obtain ⟨path, x, hreads, hsamplers, hx⟩ := hcompiles.exists_sampler hcode hkind
    obtain ⟨path', x', hreads', hsamplers', hx'⟩ := hcompiles.exists_sampler hcode' hkind'
    rw [hsamplers, hsamplers', hreads.2, hreads'.2, List.singleton_inj, Option.some.injEq]
    constructor
    · rintro rfl
      exact UniformValue.texture.inj (Option.some.inj (hx.symm.trans hx'))
    · rintro rfl
      exact hinjective x x' path hx hx'
  · obtain ⟨start, names', -, hstock⟩ := hcompiles.stock_eq
    have hnone : ¬Stock.Binds ⟨∅, ∅, start⟩ path := fun ⟨x, hx⟩ => by cases hx
    -- at the start no image is bound, so those bound at the end were asked for
    have hbinds : (shader.base.declarations.stock names').Binds path ↔
        .image path ∈ tree.demands shader.evaluated ∨ Stock.Binds ⟨∅, ∅, start⟩ path := by
      rw [hstock]
      exact (Stock.orderly_start start).binds_foldl
    rw [CompiledShader.mem_images]
    constructor
    · intro hbound
      have hdemand := (hbinds.mp hbound).resolve_right hnone
      obtain ⟨i, hi, node, hnode, hreads⟩ := NodeTree.image_mem_demands.mp hdemand
      obtain ⟨entry, hentry, rfl⟩ := List.mem_map.mp hi
      exact ⟨node, entry.2, ⟨entry.1, hentry, hnode⟩, hreads⟩
    · rintro ⟨node, code, ⟨i, hentry, hnode⟩, hreads⟩
      refine hbinds.mpr (.inl (NodeTree.image_mem_demands.mpr ⟨i, ?_, node, hnode, hreads⟩))
      exact List.mem_map_of_mem (f := Prod.fst) hentry
  · have hnamed := (horderly.isSampler hx).named
    have hmatrices : ∀ name ∈ matrices.map Prod.snd, name.toList.head? ≠ some 't' := by decide
    rw [List.mem_append, not_or]
    exact ⟨notMem_frameParameters hnamed,
      fun hmem => hmatrices x hmem (head?_of_isNamedAfter hnamed rfl)⟩
  · rcases horderly.origin x value hx with ⟨path, rfl, -⟩ | ⟨hook, -, hmem⟩
    · cases hvalue
    · exact mem_frameParameters hmem

/-- A tree that reads one image in both stages, written in two ways, and another one whose path
comes down to the same identifier. -/
def portraits : NodeTree where
  nodes := .ofList
    [("front", ⟨"front", "tex_image", ∅, ∅, [("image", .string "a b.png")]⟩),
     ("mask", ⟨"mask", "Tex Image", ∅, ∅, [("image", .string "a-b.png")]⟩),
     ("relief", ⟨"relief", "tex_image", ∅, ∅,
      [("image", .object [("filepath", .string "a b.png")])]⟩),
     ("end", ⟨"end", "output_material", ∅, ∅, []⟩)]
  links :=
    [⟨⟨"front", "color"⟩, ⟨"end", "surface"⟩⟩, ⟨⟨"mask", "alpha"⟩, ⟨"end", "alpha"⟩⟩,
     ⟨⟨"relief", "color"⟩, ⟨"end", "displacement"⟩⟩]

theorem compile_sharesSamplers_portraits : ∃ shader, standard.compile portraits [] = .ok shader ∧
    SharesSamplers portraits shader ∧ shader.images = ["a b.png", "a-b.png"] ∧
    (shader.fragmentCode ++ shader.vertexCode).map (fun entry => entry.2.samplers) =
      [["tex_a_b_png"], ["tex_a_b_png_2"], ["tex_a_b_png"]] := by
  have hresult : ((standard.compile portraits []).toOption.any fun shader =>
      shader.images == ["a b.png", "a-b.png"] &&
        (shader.fragmentCode ++ shader.vertexCode).map (fun entry => entry.2.samplers) ==
          [["tex_a_b_png"], ["tex_a_b_png_2"], ["tex_a_b_png"]]) = true := by
    decide +kernel
  obtain ⟨shader, hshader, hvalues⟩ := (Option.any_eq_true _ _).mp hresult
  obtain ⟨himages, hsamplers⟩ := Bool.and_eq_true_iff.mp hvalues
  have h := toOption_eq_some_iff.mp hshader
  exact ⟨shader, h, compile_sharesSamplers h, eq_of_beq himages, eq_of_beq hsamplers⟩

end ShaderCompiler

end SceneEngine.Shading
