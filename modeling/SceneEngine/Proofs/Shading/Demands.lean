import SceneEngine.Proofs.Shading.Roots
import SceneEngine.Proofs.Shading.Evaluation

/-!
# What nodes ask for

A compile collects parameters, hooks and names while the code of the nodes is written, and what is
collected for one node depends on what was collected before.  To reason about the result without
following the writing, this module separates the collecting from the code.

## Demands

Beside its expressions, the code of a node can ask for three things: the parameters of a hook, the
sampler of an image, and a variable of its own (`Demand`).  What a node asks for can be told from
the node alone (`Node.demands`), and in which order.  A demand changes only the `Stock`, the part of
a compile that consists of the parameters, the hooks and the names taken, and how it does is a
function of the stock (`Stock.meet`).

## Code

Code is quiet when it asks for nothing (`Emit.Quiet`), which holds of nearly all steps: those that
declare attributes and passed values, include fragments, read operands or fail.  `Emit.Asks` says
that code changes the stock as a list of demands does, and composes: demands of consecutive steps
are appended.  With it, one walk over the node types shows that the code of a node asks for the
demands of the node and nothing else (`NodeKind.asks_of_mem`).

## Compiles

So the parameters and hooks of a compile are those of the empty program after the demands of all
evaluated nodes have been met, one after another (`Compiles.stock_eq`), the fragment stage first.
What holds of the stock of a compile is then shown for one demand at a time and follows for all of
them by induction over the demands: that each image has one sampler, that each hook finds its
parameters, and that equal demands lead to equal programs.
-/

namespace SceneEngine.Shading

open Identifier

/-! ## Demands -/

/-- Something that the code of a node asks for, and that changes what the next node finds. -/
inductive Demand where
  /-- The parameters that a hook refreshes, and the hook. -/
  | refresh (hook : RenderHook)
  /-- The sampler of an image. -/
  | image (path : String)
  /-- A variable of a node. -/
  | helper (node suffix : String)

/-- The part of a compile that demands change. -/
structure Stock where
  /-- The parameters that are declared, with their values, -/
  uniforms : UniformTable
  /-- the hooks that will refresh some of them -/
  hooks : OrderedSet RenderHook
  /-- and the names that have been taken. -/
  names : NamePool

/-- The direction in which a camera looks until the first frame has three coordinates. -/
lemma size_ahead : (#[0, 0, -1] : Array Float32).size = 3 := rfl

/-- The parameters that a hook refreshes, with the values that they are declared with. -/
def RenderHook.defaults : RenderHook → List (String × UniformValue)
  | .updateTime => [(timeUniform, .float 0), (frameUniform, .float 0)]
  | .updateCamera =>
    [(cameraPositionUniform, .vec3 Vec.zero),
     (cameraDirectionUniform, .vec3 ⟨⟨#[0, 0, -1], size_ahead⟩⟩)]
  | .updateObjectLocation => [(objectLocationUniform, .vec3 Vec.zero)]

/-- Declares parameters that are not declared yet; those that are keep their values. -/
def declareAll (defaults : List (String × UniformValue)) (uniforms : UniformTable) : UniformTable :=
  defaults.foldl (fun uniforms entry => uniforms.insertIfNew entry.1 entry.2) uniforms

/-- The sampler that a node gets for an image: the one that is bound to it, or else a new one.  It
is a function of the stock alone. -/
def Stock.sampler (stock : Stock) (image : String) : String :=
  (Emit.samplerOf? stock.uniforms image).getD (stock.names.allocate ["tex", image]).1

/-- What there is once a demand has been met. -/
def Stock.meet (stock : Stock) : Demand → Stock
  | .refresh hook =>
    { stock with
      uniforms := declareAll hook.defaults stock.uniforms
      hooks := stock.hooks.insert hook }
  | .image path =>
    match Emit.samplerOf? stock.uniforms path with
    | some _ => stock
    | none =>
      { stock with
        uniforms := stock.uniforms.insertIfNew (stock.sampler path) (.texture path)
        names := (stock.names.allocate ["tex", path]).2 }
  | .helper node suffix => { stock with names := (stock.names.allocate ["n", node, suffix]).2 }

/-- What a node of a type asks for, in this order.  An image node without a path asks for no
sampler, and all other types ask for nothing.  Nothing but the node decides about it: neither the
stage nor what was written before. -/
def demandsOf (kind : String) (node : Node) : List Demand :=
  match kind with
  | "scene_time" => [.refresh .updateTime]
  | "camera_data" => [.refresh .updateCamera, .helper node.id "offset"]
  | "object_info" => [.refresh .updateObjectLocation]
  | "tex_image" =>
    (Nodes.imagePath? node).toList.map Demand.image ++ [.helper node.id "sample"]
  | "tex_noise" => [.helper node.id "p", .helper node.id "fac"]
  | _ => []

/-- What a node asks for. -/
def Node.demands (node : Node) : List Demand := demandsOf (canonicalKind node.kind) node

/-- What the nodes in some positions ask for, one after another. -/
def NodeTree.demands (tree : NodeTree) (indices : List Nat) : List Demand :=
  (indices.filterMap fun i => tree.nodes.values[i]?).flatMap Node.demands

/-- The stock while code is written: what demands can change of everything that writing changes. -/
def Emission.stock (e : Emission) : Stock :=
  ⟨e.declarations.uniforms, e.declarations.hooks, e.names⟩

/-! ## Samplers -/

namespace Emit

variable {uniforms : UniformTable} {image name : String}

/-- The sampler that is found is bound to the image. -/
lemma get?_of_samplerOf? (h : samplerOf? uniforms image = some name) :
    uniforms.get? name = some (.texture image) := by
  obtain ⟨⟨key, value⟩, hentry, hname⟩ := List.exists_of_findSome?_eq_some h
  dsimp only at hname
  split at hname
  next path =>
    obtain ⟨rfl, hkey⟩ := Option.ite_none_right_eq_some.mp hname
    exact OrderedMap.get?_eq_some_iff.mpr (Option.some.inj hkey ▸ hentry)
  · cases hname

/-- Without a sampler that is found, none is bound to the image. -/
lemma samplerOf?_eq_none_iff :
    samplerOf? uniforms image = none ↔ ∀ x, uniforms.get? x ≠ some (.texture image) := by
  constructor
  · intro h x hx
    have hnone := List.findSome?_eq_none_iff.mp h _ (OrderedMap.get?_eq_some_iff.mp hx)
    simp at hnone
  · intro h
    cases hfound : samplerOf? uniforms image with
    | none => rfl
    | some name => exact absurd (get?_of_samplerOf? hfound) (h name)

end Emit

namespace Stock

variable {stock : Stock} {image name : String}

/-- An image that is bound keeps its sampler. -/
lemma sampler_of_some (h : Emit.samplerOf? stock.uniforms image = some name) :
    stock.sampler image = name := by
  rw [sampler, h, Option.getD_some]

lemma sampler_of_none (h : Emit.samplerOf? stock.uniforms image = none) :
    stock.sampler image = (stock.names.allocate ["tex", image]).1 := by
  rw [sampler, h, Option.getD_none]

/-- An image that has a sampler needs nothing more. -/
lemma meet_image_of_some (h : Emit.samplerOf? stock.uniforms image = some name) :
    stock.meet (.image image) = stock := by
  rw [meet, h]

/-- An image without a sampler gets a new one. -/
lemma meet_image_of_none (h : Emit.samplerOf? stock.uniforms image = none) :
    stock.meet (.image image) =
      { stock with
        uniforms := stock.uniforms.insertIfNew (stock.names.allocate ["tex", image]).1
          (.texture image)
        names := (stock.names.allocate ["tex", image]).2 } := by
  rw [meet, h, sampler_of_none h]

end Stock

/-! ## Steps -/

namespace Emit

variable {α β : Type} {site : Site} {e e' : Emission} {a : α} {m : Emit α} {f : α → Emit β}
  {node : String} {demands more : List Demand}

/-- The code asks for nothing, and writes no statement.  It may fail. -/
def Quiet (m : Emit α) : Prop :=
  ∀ ⦃site : Site⦄ ⦃e : Emission⦄ ⦃a : α⦄ ⦃e' : Emission⦄, Runs m site e a e' →
    e'.stock = e.stock ∧ e'.statements = e.statements

/-- The code, written for a node, asks for this: if it comes to an end, the stock is what the
demands make of it. -/
def Asks (node : String) (demands : List Demand) (m : Emit α) : Prop :=
  ∀ ⦃site : Site⦄ ⦃e : Emission⦄ ⦃a : α⦄ ⦃e' : Emission⦄, site.node = node → Runs m site e a e' →
    e'.stock = demands.foldl Stock.meet e.stock

namespace Quiet

lemma asks (h : Quiet m) : Asks node [] m := fun _ _ _ _ _ hruns => (h hruns).1

/-- Quiet steps may follow each other. -/
lemma bind (h : Quiet m) (hf : ∀ a, Quiet (f a)) : Quiet (m >>= f) := by
  intro site e b e'' hruns
  obtain ⟨a, e', hfirst, hrest⟩ := runs_bind.mp hruns
  obtain ⟨hstock, hstatements⟩ := h hfirst
  obtain ⟨hstock', hstatements'⟩ := hf a hrest
  exact ⟨hstock'.trans hstock, hstatements'.trans hstatements⟩

lemma pure (a : α) : Quiet (Pure.pure a) := by
  intro site e a' e' hruns
  obtain ⟨-, rfl⟩ := runs_pure.mp hruns
  exact ⟨rfl, rfl⟩

lemma throw (reason : CompileError) : Quiet (MonadExcept.throw reason : Emit α) := by
  intro site e a e' hruns
  cases hruns

/-- Nothing is done after an error. -/
lemma throw_bind (reason : CompileError) : Quiet (MonadExcept.throw reason >>= f) := by
  intro site e b e' hruns
  cases hruns

/-- A value that is given or an error that is raised asks for nothing. -/
lemma lift (attempt : Except CompileError α) : Quiet (liftM attempt) := by
  intro site e a e' hruns
  obtain ⟨-, rfl⟩ := runs_lift.mp hruns
  exact ⟨rfl, rfl⟩

lemma read : Quiet MonadReader.read := by
  intro site e site' e' hruns
  obtain ⟨-, rfl⟩ := runs_read.mp hruns
  exact ⟨rfl, rfl⟩

lemma get : Quiet MonadState.get := by
  intro site e e₁ e' hruns
  obtain ⟨-, rfl⟩ := runs_get.mp hruns
  exact ⟨rfl, rfl⟩

lemma modify {g : Emission → Emission} (hstock : ∀ e, (g e).stock = e.stock)
    (hstatements : ∀ e, (g e).statements = e.statements) : Quiet (modify g) := by
  intro site e u e' hruns
  obtain rfl := runs_modify.mp hruns
  exact ⟨hstock e, hstatements e⟩

end Quiet

namespace Asks

/-- One thing after another. -/
lemma bind (h : Asks node demands m) (hf : ∀ a, Asks node more (f a)) :
    Asks node (demands ++ more) (m >>= f) := by
  intro site e b e'' hsite hruns
  obtain ⟨a, e', hfirst, hrest⟩ := runs_bind.mp hruns
  rw [List.foldl_append, ← h hsite hfirst, hf a hsite hrest]

/-- What is asked for behind quiet code. -/
lemma behind (h : Quiet m) (hf : ∀ a, Asks node demands (f a)) : Asks node demands (m >>= f) :=
  h.asks.bind hf

/-- What is asked for ahead of code that asks for nothing. -/
lemma ahead (h : Asks node demands m) (hf : ∀ a, Asks node [] (f a)) :
    Asks node demands (m >>= f) := by
  have hboth := h.bind hf
  rwa [List.append_nil] at hboth

end Asks

/-! ### Declaring -/

lemma quiet_withFragment (name : String) (included : OrderedSet String) :
    Quiet (withFragment name included) := by
  intro site e included' e' hruns
  obtain ⟨-, rfl⟩ := runs_withFragment.mp hruns
  exact ⟨rfl, rfl⟩

lemma quiet_fragment (name : String) : Quiet (fragment name) :=
  .bind .get fun _ => (quiet_withFragment _ _).bind fun _ =>
    .bind .get fun _ => (quiet_withFragment _ _).bind fun _ =>
      .modify (fun _ => rfl) fun _ => rfl

lemma quiet_define (name : String) : Quiet (define name) := .modify (fun _ => rfl) fun _ => rfl

lemma quiet_vertexAttribute (name : String) (type : SocketType) :
    Quiet (vertexAttribute name type) :=
  .bind (.modify (fun _ => rfl) fun _ => rfl) fun _ => .pure _

lemma quiet_interpolated (name : String) (type : SocketType) (source inVertex : String) :
    Quiet (interpolated name type source inVertex) := by
  refine .bind (.bind .read fun _ => .pure _) fun stage => ?_
  cases stage with
  | vertex => exact .pure _
  | fragment => exact .bind (.modify (fun _ => rfl) fun _ => rfl) fun _ => .pure _

/-- Declaring a parameter gives its name and enters it into the stock, unless it is there. -/
lemma runs_uniform {name result : String} {default : UniformValue}
    (h : Runs (uniform name default) site e result e') :
    result = name ∧ e'.statements = e.statements ∧ e'.stock =
      { e.stock with uniforms := e.stock.uniforms.insertIfNew name default } := by
  obtain ⟨_, _, hmodify, h⟩ := runs_bind.mp h
  obtain rfl := runs_modify.mp hmodify
  obtain ⟨rfl, rfl⟩ := runs_pure.mp h
  exact ⟨rfl, rfl, rfl⟩

/-- Asking for a hook enters it into the stock. -/
lemma runs_hook {hook : RenderHook} {u : Unit} (h : Runs (Emit.hook hook) site e u e') :
    e'.stock = { e.stock with hooks := e.stock.hooks.insert hook } := by
  obtain rfl := runs_modify.mp h
  rfl

/-- The sampler of an image is the one that is there, or a new one. -/
lemma runs_sampler {image name : String} (h : Runs (sampler image) site e name e') :
    name = e.stock.sampler image ∧ e'.statements = e.statements ∧
      e'.stock = e.stock.meet (.image image) := by
  obtain ⟨e₁, e₂, hget, hrest⟩ := runs_bind.mp h
  obtain ⟨rfl, rfl⟩ := runs_get.mp hget
  -- the image is bound already, and binding it again under the same name changes nothing
  split at hrest
  next shared hshared =>
    obtain ⟨name', e₃, hname, hrest⟩ := runs_bind.mp hrest
    obtain ⟨rfl, rfl⟩ := runs_pure.mp hname
    obtain ⟨rfl, hstatements, hstock⟩ := runs_uniform hrest
    have hshared : samplerOf? e₃.stock.uniforms image = some name := hshared
    have hsame : e₃.stock.uniforms.insertIfNew name (.texture image) = e₃.stock.uniforms :=
      OrderedMap.insertIfNew_of_mem (mem_keys_of_samplerOf? hshared)
    refine ⟨(Stock.sampler_of_some hshared).symm, hstatements, ?_⟩
    rw [hstock, Stock.meet_image_of_some hshared, hsame]
  next hnone =>
    obtain ⟨name', e₃, hname, hrest⟩ := runs_bind.mp hrest
    -- it is not bound, and gets a name that was free
    obtain ⟨hname, he₃⟩ := runs_freshName hname
    obtain ⟨hname', hstatements, hstock⟩ := runs_uniform hrest
    have hnone : samplerOf? e₂.stock.uniforms image = none := hnone
    have hstock₃ : e₃.stock =
        { e₂.stock with names := (e₂.names.allocate ["tex", image]).2 } := by
      rw [he₃]
      rfl
    refine ⟨?_, ?_, ?_⟩
    · rw [hname', hname, Stock.sampler_of_none hnone]
      rfl
    · rw [hstatements, he₃]
    · rw [hstock, hstock₃, Stock.meet_image_of_none hnone, hname]
      rfl

lemma asks_sampler (image : String) : Asks node [.image image] (sampler image) :=
  fun _ _ _ _ _ hruns => (runs_sampler hruns).2.2

lemma asks_freshLocal (suffix : String) : Asks node [.helper node suffix] (freshLocal suffix) := by
  intro site e name e' hsite hruns
  obtain ⟨site', e₁, hread, hrest⟩ := runs_bind.mp hruns
  obtain ⟨rfl, rfl⟩ := runs_read.mp hread
  obtain ⟨-, rfl⟩ := runs_freshName hrest
  rw [← hsite]
  rfl

lemma asks_statement (s : Statement) : Asks node [] (statement s) := by
  intro site e u e' _ hruns
  obtain rfl := runs_statement hruns
  rfl

/-- A variable with its value, and an expression that reads it. -/
lemma asks_variable {node : String} (suffix : String) (s : String → Statement) (f : String → α) :
    Asks node [.helper node suffix]
      (freshLocal suffix >>= fun x => statement (s x) >>= fun _ => pure (f x)) :=
  (asks_freshLocal suffix).ahead fun x => (asks_statement (s x)).bind fun _ =>
    (Quiet.pure (f x)).asks

end Emit

/-! ## Node types -/

/-- The code of a node of this type asks for what the node tells. -/
def NodeKind.Asks (kind : NodeKind) : Prop :=
  ∀ (node : Node) (operands : Operands),
    Emit.Asks node.id (demandsOf kind.name node) (kind.emit node operands)

/-- The code of a node of this type asks for nothing. -/
def NodeKind.Quiet (kind : NodeKind) : Prop :=
  ∀ (node : Node) (operands : Operands), Emit.Quiet (kind.emit node operands)

lemma NodeKind.Quiet.asks {kind : NodeKind} (h : kind.Quiet)
    (hdemands : ∀ node, demandsOf kind.name node = []) : kind.Asks := by
  intro node operands
  rw [hdemands]
  exact (h node operands).asks

namespace Nodes

open Emit

variable {operands : Operands} {natural : Emit String}

lemma quiet_coordinates (h : Emit.Quiet natural) : Emit.Quiet (coordinates operands natural) := by
  rw [coordinates]
  split
  · exact .pure _
  · exact h

/-! ### Arithmetic -/

lemma quiet_math : math.Quiet := by
  intro node operands
  refine .bind (.lift _) fun operation => ?_
  split
  · exact .bind (.lift _) fun _ => .bind (.lift _) fun _ => .bind (.lift _) fun _ => .pure _
  · exact .throw _

lemma quiet_vectorMath : vectorMath.Quiet := by
  intro node operands
  refine .bind (.lift _) fun operation => ?_
  dsimp only
  split
  · exact .throw _
  · exact .bind (.lift _) fun _ => .bind (.lift _) fun _ => .bind (.lift _) fun _ =>
      .bind (.lift _) fun _ => .pure _

lemma quiet_mix : mix.Quiet := by
  intro node operands
  refine .bind (.lift _) fun type => .bind (.lift _) fun factor => ?_
  refine .bind (.lift _) fun a => .bind (.lift _) fun b => ?_
  dsimp only
  split
  · refine .bind (.lift _) fun mode => ?_
    split
    · exact .throw_bind _
    · exact .bind (quiet_fragment _) fun _ => .bind (.pure _) fun _ => .pure _
  · exact .bind (.pure _) fun _ => .pure _

lemma quiet_clampNode : clampNode.Quiet := by
  intro node operands
  refine .bind (.lift _) fun x => .bind (.lift _) fun low => .bind (.lift _) fun high => ?_
  refine .bind (.lift _) fun mode => ?_
  split
  · exact .pure _
  · exact .bind (quiet_fragment _) fun _ => .pure _
  · exact .throw _

lemma quiet_mapRange : mapRange.Quiet := by
  intro node operands
  refine .bind (quiet_fragment _) fun _ => .bind (.lift _) fun low => .bind (.lift _) fun high => ?_
  refine .bind (.lift _) fun x => .bind (.lift _) fun fromLow => .bind (.lift _) fun fromHigh => ?_
  dsimp only
  split
  · exact .bind (quiet_fragment _) fun _ => .pure _
  · exact .pure _

lemma quiet_combineXyz : combineXyz.Quiet := fun _ _ =>
  .bind (.lift _) fun _ => .bind (.lift _) fun _ => .bind (.lift _) fun _ => .pure _

lemma quiet_separateXyz : separateXyz.Quiet := fun _ _ => .bind (.lift _) fun _ => .pure _

lemma quiet_reroute : reroute.Quiet := fun _ _ => .bind (.lift _) fun _ => .pure _

/-! ### Sources -/

lemma quiet_value : value.Quiet := by
  intro node operands
  dsimp only [value]
  split
  · exact .bind (.pure _) fun _ => .pure _
  · exact .bind (.pure _) fun _ => .pure _
  · split
    · exact .bind (.pure _) fun _ => .pure _
    · exact .throw_bind _

lemma quiet_rgb : rgb.Quiet := by
  intro node operands
  dsimp only [rgb]
  split
  · exact .pure _
  · exact .throw _

lemma quiet_texCoord : texCoord.Quiet := fun _ _ =>
  .bind (quiet_interpolated _ _ _ _) fun _ => .bind (quiet_interpolated _ _ _ _) fun _ =>
    .bind (quiet_interpolated _ _ _ _) fun _ => .pure _

lemma quiet_attribute : attributeNode.Quiet := by
  intro node operands
  dsimp only [attributeNode]
  split
  · exact .throw _
  · exact .bind (quiet_vertexAttribute _ _) fun _ => .bind (quiet_interpolated _ _ _ _) fun _ =>
      .pure _

lemma asks_sceneTime : sceneTime.Asks := by
  intro node operands site e exprs e' _ hruns
  obtain ⟨seconds, e₁, hseconds, hruns⟩ := runs_bind.mp hruns
  obtain ⟨-, -, h₁⟩ := runs_uniform hseconds
  obtain ⟨frame, e₂, hframe, hruns⟩ := runs_bind.mp hruns
  obtain ⟨-, -, h₂⟩ := runs_uniform hframe
  obtain ⟨u, e₃, hhook, hruns⟩ := runs_bind.mp hruns
  obtain ⟨-, rfl⟩ := runs_pure.mp hruns
  rw [runs_hook hhook, h₂, h₁]
  rfl

lemma asks_cameraData : cameraData.Asks := by
  intro node operands site e exprs e' hsite hruns
  obtain ⟨camera, e₁, hcamera, hruns⟩ := runs_bind.mp hruns
  obtain ⟨-, -, h₁⟩ := runs_uniform hcamera
  obtain ⟨direction, e₂, hdirection, hruns⟩ := runs_bind.mp hruns
  obtain ⟨-, -, h₂⟩ := runs_uniform hdirection
  obtain ⟨u, e₃, hhook, hruns⟩ := runs_bind.mp hruns
  -- the two parameters and the hook are the three parts of one demand
  have hrefreshed : e₃.stock = e.stock.meet (.refresh .updateCamera) := by
    rw [runs_hook hhook, h₂, h₁]
    rfl
  have hrest := Asks.behind (quiet_interpolated _ _ _ _) (fun world => asks_variable _ _ _) hsite
    hruns
  rw [hrest, hrefreshed]
  rfl

lemma asks_objectInfo : objectInfo.Asks := by
  intro node operands site e exprs e' hsite hruns
  obtain ⟨location, e₁, hlocation, hruns⟩ := runs_bind.mp hruns
  obtain ⟨-, -, h₁⟩ := runs_uniform hlocation
  obtain ⟨u, e₂, hhook, hruns⟩ := runs_bind.mp hruns
  have hquiet := Quiet.bind (quiet_define _) (fun _ => .bind (quiet_fragment _)
    fun _ => .pure _) hruns
  rw [hquiet.1, runs_hook hhook, h₁]
  rfl

/-! ### Textures and outputs -/

lemma quiet_objectPosition : Emit.Quiet objectPosition := quiet_interpolated _ _ _ _

lemma quiet_flatUv : Emit.Quiet (do return "vec3(" ++ (← Emit.uv) ++ ", 0.0)") :=
  .bind (quiet_interpolated _ _ _ _) fun _ => .pure _

lemma asks_texImage : texImage.Asks := by
  intro node operands
  have hdemands : demandsOf texImage.name node =
      (imagePath? node).toList.map Demand.image ++ [.helper node.id "sample"] := rfl
  rw [hdemands]
  dsimp only [texImage]
  split
  next path hpath =>
    rw [hpath]
    exact (asks_sampler path).bind fun sampler =>
      .behind (quiet_coordinates quiet_flatUv) fun vector => asks_variable _ _ _
  · intro site e exprs e' _ hruns
    cases hruns

lemma asks_texNoise : texNoise.Asks := by
  intro node operands
  refine .behind (quiet_fragment _) fun _ => .behind (quiet_coordinates quiet_objectPosition)
    fun vector => .behind (.lift _) fun detail => .behind (.lift _) fun roughness => ?_
  have hpoint : Emit.Asks node.id [.helper node.id "p"] (freshLocal "p") := asks_freshLocal "p"
  refine hpoint.bind fun point => (asks_freshLocal "fac").ahead fun fac => ?_
  exact .behind (.lift _) fun scale => (asks_statement _).bind fun _ => (asks_statement _).bind
    fun _ => (Quiet.pure _).asks

lemma quiet_texWhiteNoise : texWhiteNoise.Quiet := fun _ _ =>
  .bind (quiet_fragment _) fun _ => .bind (quiet_coordinates quiet_objectPosition) fun _ => .pure _

lemma quiet_emission : emission.Quiet := fun _ _ =>
  .bind (.lift _) fun _ => .bind (.lift _) fun _ => .pure _

lemma quiet_outputMaterial : outputMaterial.Quiet := fun _ _ => .pure _

end Nodes

/-- With the node types at hand, the code of a node asks for what the node tells. -/
theorem NodeKind.asks_of_mem {kind : NodeKind}
    (h : kind ∈ Nodes.sources ++ Nodes.arithmetic ++ Nodes.textures ++ Nodes.outputs) :
    kind.Asks := by
  simp only [Nodes.sources, Nodes.arithmetic, Nodes.textures, Nodes.outputs, List.mem_append,
    List.mem_cons, List.not_mem_nil, or_false] at h
  rcases h with ((h | h) | h) | h
  · rcases h with rfl | rfl | rfl | rfl | rfl | rfl | rfl
    · exact Nodes.quiet_value.asks fun _ => rfl
    · exact Nodes.quiet_rgb.asks fun _ => rfl
    · exact Nodes.quiet_texCoord.asks fun _ => rfl
    · exact Nodes.quiet_attribute.asks fun _ => rfl
    · exact Nodes.asks_sceneTime
    · exact Nodes.asks_cameraData
    · exact Nodes.asks_objectInfo
  · rcases h with rfl | rfl | rfl | rfl | rfl | rfl | rfl | rfl
    · exact Nodes.quiet_math.asks fun _ => rfl
    · exact Nodes.quiet_vectorMath.asks fun _ => rfl
    · exact Nodes.quiet_mix.asks fun _ => rfl
    · exact Nodes.quiet_clampNode.asks fun _ => rfl
    · exact Nodes.quiet_mapRange.asks fun _ => rfl
    · exact Nodes.quiet_combineXyz.asks fun _ => rfl
    · exact Nodes.quiet_separateXyz.asks fun _ => rfl
    · exact Nodes.quiet_reroute.asks fun _ => rfl
  · rcases h with rfl | rfl | rfl
    · exact Nodes.asks_texImage
    · exact Nodes.asks_texNoise
    · exact Nodes.quiet_texWhiteNoise.asks fun _ => rfl
  · rcases h with rfl | rfl
    · exact Nodes.quiet_emission.asks fun _ => rfl
    · exact Nodes.quiet_outputMaterial.asks fun _ => rfl

namespace NodeRegistry

/-- Types that are registered one by one can be got under their names. -/
lemma name_of_get?_foldl_register {kinds : List NodeKind} {registry : NodeRegistry}
    (hregistry : ∀ kind name, registry.get? name = some kind → kind.name = canonicalKind name)
    {kind : NodeKind} {name : String}
    (h : (kinds.foldl register registry).get? name = some kind) :
    kind.name = canonicalKind name := by
  induction kinds generalizing registry with
  | nil => exact hregistry kind name h
  | cons first kinds ih =>
    refine ih (fun kind' name' h' => ?_) h
    rw [get?, register, OrderedMap.get?_insert] at h'
    split at h'
    next hname => rw [hname, Option.some.inj h']
    next => exact hregistry kind' name' h'

/-- A type at hand is registered under its name. -/
lemma name_of_get?_builtin {kind : NodeKind} {name : String} (h : builtin.get? name = some kind) :
    kind.name = canonicalKind name :=
  name_of_get?_foldl_register (fun _ _ hnone => by cases hnone) h

end NodeRegistry

/-! ## Evaluation -/

variable {tree : NodeTree} {network : Network} {library : FragmentLibrary} {stage : Stage}
  {declarations declarations' : Declarations} {names names' : NamePool} {indices : List Nat}
  {i : Nat}

/-- The stock between the evaluation of two nodes. -/
def Declarations.stock (declarations : Declarations) (names : NamePool) : Stock :=
  ⟨declarations.uniforms, declarations.hooks, names⟩

/-- With the node types at hand, the code of every node asks for what the node tells. -/
lemma Network.Resolves.asks (h : network.Resolves .builtin tree) {station : Station}
    (hstation : station ∈ network.stations) :
    station.kind.Asks ∧ station.kind.name = canonicalKind station.node.kind := by
  have hkind := (h.wired.typed station hstation).1
  exact ⟨NodeKind.asks_of_mem (NodeRegistry.mem_of_get?_builtin hkind),
    NodeRegistry.name_of_get?_builtin hkind⟩

/-- The stations have the nodes of the tree. -/
lemma Network.Resolves.node_of_station {registry : NodeRegistry}
    (h : network.Resolves registry tree) {station : Station}
    (hstation : network.stations[i]? = some station) :
    tree.nodes.values[i]? = some station.node := by
  rw [← h.wired.nodes_eq, List.getElem?_map, hstation, Option.map_some]

/-- Evaluating a node meets its demands. -/
lemma stock_evaluateNode {station : Station} {code : NodeCode} (hasks : station.kind.Asks)
    (hname : station.kind.name = canonicalKind station.node.kind)
    (h : evaluateNode library network stage i station declarations names =
      .ok (code, declarations', names')) :
    declarations'.stock names' =
      station.node.demands.foldl Stock.meet (declarations.stock names) := by
  obtain ⟨operands, exprs, written, stored, -, hruns, -, -, -, rfl, rfl⟩ :=
    exists_of_evaluateNode_eq_ok h
  have hstock := hasks station.node operands rfl hruns
  rwa [hname] at hstock

/-- Evaluating nodes meets their demands, one after another. -/
theorem stock_evaluate {code : StageCode} (hresolves : network.Resolves .builtin tree)
    (h : evaluate library network stage indices declarations names =
      .ok (code, declarations', names')) :
    declarations'.stock names' =
      (tree.demands indices).foldl Stock.meet (declarations.stock names) := by
  -- on the nodes that are left, for whatever has been collected before
  induction indices generalizing declarations names code with
  | nil =>
    cases h
    rfl
  | cons index indices ih =>
    obtain ⟨station, first, declarations₁, names₁, codes, hstation, hfirst, hcodes, -⟩ :=
      evaluate_cons_eq_ok_iff.mp h
    obtain ⟨hasks, hname⟩ := hresolves.asks (List.mem_of_getElem? hstation)
    have hdemands : tree.demands (index :: indices) =
        station.node.demands ++ tree.demands indices := by
      rw [NodeTree.demands, List.filterMap_cons_some (hresolves.node_of_station hstation),
        List.flatMap_cons]
      rfl
    rw [hdemands, List.foldl_append, ← stock_evaluateNode hasks hname hfirst, ← ih hcodes]

/-- Where the code of a node comes from: the node is evaluated once the nodes ahead of it have been
evaluated, and the others follow. -/
lemma exists_evaluateNode_of_mem {code : StageCode} {entry : Nat × NodeCode}
    (h : evaluate library network stage indices declarations names =
      .ok (code, declarations', names')) (hentry : entry ∈ code) :
    ∃ station before after ahead behind declarations₁ names₁ declarations₂ names₂,
      network.stations[entry.1]? = some station ∧
      evaluate library network stage before declarations names =
        .ok (ahead, declarations₁, names₁) ∧
      evaluateNode library network stage entry.1 station declarations₁ names₁ =
        .ok (entry.2, declarations₂, names₂) ∧
      evaluate library network stage after declarations₂ names₂ =
        .ok (behind, declarations', names') := by
  induction indices generalizing declarations names code with
  | nil =>
    cases h
    cases hentry
  | cons index indices ih =>
    obtain ⟨station, first, declarations₁, names₁, codes, hstation, hfirst, hcodes, rfl⟩ :=
      evaluate_cons_eq_ok_iff.mp h
    -- the entry is that of the first node, or lies behind it
    rcases List.mem_cons.mp hentry with rfl | hentry
    · exact ⟨station, [], indices, [], codes, declarations, names, declarations₁, names₁,
        hstation, rfl, hfirst, hcodes⟩
    · obtain ⟨station', before, after, ahead, behind, declarations₃, names₃, declarations₄,
        names₄, hstation', hbefore, hnode, hafter⟩ := ih hcodes hentry
      have hahead := evaluate_cons_eq_ok_iff.mpr
        ⟨station, first, declarations₁, names₁, ahead, hstation, hfirst, hbefore, rfl⟩
      exact ⟨station', index :: before, after, (index, first) :: ahead, behind, declarations₃,
        names₃, declarations₄, names₄, hstation', hahead, hnode, hafter⟩

/-- The nodes that a compile evaluates, those of the fragments ahead of those of the vertices. -/
def CompiledShader.evaluated (shader : CompiledShader) : List Nat :=
  (shader.fragmentCode ++ shader.vertexCode).map Prod.fst

namespace ShaderCompiler

variable {roots : List Root} {shader : CompiledShader}

/-- The parameters and hooks of a compile are those that the evaluated nodes ask for. -/
theorem Compiles.stock_eq (h : Compiles standard tree roots shader network) :
    ∃ names names', network.IsNamed names ∧ shader.base.declarations.stock names' =
      (tree.demands shader.evaluated).foldl Stock.meet ⟨∅, ∅, names⟩ := by
  obtain ⟨stations, names, names₁, names₂, declarations, hnameAll, hfragment, hvertex⟩ :=
    h.evaluated
  -- the two stages meet their demands one after the other, and the demands are appended
  refine ⟨names, names₂, Network.isNamed_of_nameAll hnameAll, ?_⟩
  have hdemands : tree.demands shader.evaluated =
      tree.demands (shader.fragmentCode.map Prod.fst) ++
        tree.demands (shader.vertexCode.map Prod.fst) := by
    rw [CompiledShader.evaluated, NodeTree.demands, List.map_append, List.filterMap_append,
      List.flatMap_append]
    rfl
  rw [hdemands, List.foldl_append, h.keys_fragmentCode, h.keys_vertexCode,
    stock_evaluate h.resolves hvertex, stock_evaluate h.resolves hfragment]
  rfl

end ShaderCompiler

end SceneEngine.Shading
