import SceneEngine.Proofs.Shading.Inclusion
import SceneEngine.Proofs.Shading.Validation

/-!
# What can go wrong while a node is written

The code that writes a node may stop with an error.  This module goes through everything that the
node types do and shows that only one error is possible: the node has a property that its type
cannot use, and the error names the node and the property (`NodeKind.isReliable_of_mem`).

## Attempts

`Node.Fulfills` says of an attempt that it gives a result of some kind or blames a property of the
node; `Emit.Fulfills` says it of code that is written anywhere, with the library at hand.  The
second is closed under the operations of the monad: it holds of values that are given, of an error
of the right kind, and of two steps if it holds of both.  Declaring parameters, attributes and
passed values cannot fail at all, and including a fragment cannot fail when the library has it,
because the library has whatever its fragments depend on.

## Types

A type is reliable (`NodeKind.IsReliable`) when, given an expression for each input that has a
default, it writes one expression for each of the outputs that it announces for the node.  The
number matters, because the expressions are stored output by output.  Inputs without a default are
read only by types that look first whether they are linked, so nothing is asked of them.

There is one lemma for each type.  It follows the code of the type, with a case for each way in
which the code branches on a property, and in each case the length of the result is the one that the
signature has in that case.

## Constants

An input that can be read has an expression that is not empty.  For linked inputs this is clear, and
for the others it is shown of the constants that are written for authored values
(`SocketType.ne_empty_of_literal?`): a written number shows at least a point or an exponent.
-/

namespace SceneEngine.Shading

variable {α β : Type} {node : Node}

/-! ## Attempts that blame a property -/

/-- The attempt gives a result of this kind, or blames a property of the node.  Other errors are
excluded. -/
def Node.Fulfills (node : Node) (P : α → Prop) (attempt : Except CompileError α) : Prop :=
  (∃ a, attempt = .ok a ∧ P a) ∨
    ∃ property fault, attempt = .error (node.invalidProperty property fault)

namespace Node.Fulfills

variable {P : α → Prop} {Q : β → Prop} {attempt : Except CompileError α}

/-- A result of the right kind. -/
lemma ok {a : α} (h : P a) : node.Fulfills P (.ok a) := .inl ⟨a, rfl, h⟩

/-- The node is to blame. -/
lemma error (property : String) (fault : PropertyFault) :
    node.Fulfills P (.error (node.invalidProperty property fault)) := .inr ⟨property, fault, rfl⟩

/-- Another attempt after the first one. -/
lemma bind {f : α → Except CompileError β} (h : node.Fulfills P attempt)
    (hf : ∀ a, P a → node.Fulfills Q (f a)) : node.Fulfills Q (attempt >>= f) := by
  rcases h with ⟨a, rfl, ha⟩ | ⟨property, fault, rfl⟩
  · exact hf a ha
  · exact error property fault

/-- What fails blames a property. -/
lemma eq_of_error {e : CompileError} (h : node.Fulfills P (.error e : Except CompileError α)) :
    ∃ property fault, e = node.invalidProperty property fault := by
  rcases h with ⟨a, hok, -⟩ | ⟨property, fault, herror⟩
  · cases hok
  · exact ⟨property, fault, Except.error.inj herror⟩

end Node.Fulfills

/-! ## Writing code that blames a property -/

namespace Emit

/-- With the library at hand, writing code gives a result of this kind, or blames a property of the
node. -/
def Fulfills (node : Node) (m : Emit α) (P : α → Prop) : Prop :=
  ∀ (site : Site) (e : Emission), site.library = .builtin →
    node.Fulfills (fun result => P result.1) ((m.run site).run e)

variable {m : Emit α} {f : α → Emit β} {P : α → Prop} {Q : β → Prop}

namespace Fulfills

/-- A value of the right kind. -/
lemma pure {a : α} (h : P a) : Fulfills node (Pure.pure a) P :=
  fun _ _ _ => Node.Fulfills.ok h

lemma bind (h : Fulfills node m P) (hf : ∀ a, P a → Fulfills node (f a) Q) :
    Fulfills node (m >>= f) Q :=
  fun site e hsite => (h site e hsite).bind fun result hresult =>
    hf result.1 hresult site result.2 hsite

lemma throw (property : String) (fault : PropertyFault) :
    Fulfills node (throw (node.invalidProperty property fault)) P :=
  fun _ _ _ => Node.Fulfills.error property fault

/-- Nothing is done after a property has been blamed. -/
lemma throw_bind (property : String) (fault : PropertyFault) :
    Fulfills node (MonadExcept.throw (node.invalidProperty property fault) >>= f) Q :=
  fun _ _ _ => Node.Fulfills.error property fault

/-- An attempt, as a step of the code. -/
lemma lift {attempt : Except CompileError α} (h : node.Fulfills P attempt) :
    Fulfills node (liftM attempt) P := by
  intro site e _
  rcases h with ⟨a, rfl, ha⟩ | ⟨property, fault, rfl⟩
  · exact Node.Fulfills.ok ha
  · exact Node.Fulfills.error property fault

end Fulfills

lemma fulfills_read : Fulfills node read fun site => site.library = .builtin :=
  fun _ _ hsite => Node.Fulfills.ok hsite

lemma fulfills_get : Fulfills node get fun _ => True :=
  fun _ _ _ => Node.Fulfills.ok trivial

lemma fulfills_modify (g : Emission → Emission) : Fulfills node (modify g) fun _ => True :=
  fun _ _ _ => Node.Fulfills.ok trivial

/-- What is declared is declared without fail. -/
lemma fulfills_modify_pure (g : Emission → Emission) (a : α) :
    Fulfills node (modify g >>= fun _ => pure a) fun _ => True :=
  (fulfills_modify g).bind fun _ _ => .pure trivial

lemma fulfills_uniform (name : String) (default : UniformValue) :
    Fulfills node (uniform name default) fun _ => True :=
  fulfills_modify_pure _ _

lemma fulfills_vertexAttribute (name : String) (type : SocketType) :
    Fulfills node (vertexAttribute name type) fun _ => True :=
  fulfills_modify_pure _ _

lemma fulfills_varying (name : String) (type : SocketType) (source : String) :
    Fulfills node (varying name type source) fun _ => True :=
  fulfills_modify_pure _ _

lemma fulfills_freshName (parts : List String) : Fulfills node (freshName parts) fun _ => True :=
  fulfills_get.bind fun _ _ => fulfills_modify_pure _ _

lemma fulfills_freshLocal (suffix : String) : Fulfills node (freshLocal suffix) fun _ => True :=
  fulfills_read.bind fun _ _ => fulfills_freshName _

/-- The sampler of an image is found or declared. -/
lemma fulfills_sampler (image : String) : Fulfills node (sampler image) fun _ => True := by
  refine fulfills_get.bind fun e _ => ?_
  dsimp only
  split
  · exact fulfills_uniform _ _
  · exact (fulfills_freshName _).bind fun name _ => fulfills_uniform name _

lemma fulfills_stage : Fulfills node stage fun _ => True :=
  fulfills_read.bind fun _ _ => .pure trivial

/-- Passing a value on succeeds in both stages. -/
lemma fulfills_interpolated (name : String) (type : SocketType) (source inVertex : String) :
    Fulfills node (interpolated name type source inVertex) fun _ => True := by
  refine fulfills_stage.bind fun stage _ => ?_
  cases stage with
  | vertex => exact .pure trivial
  | fragment => exact fulfills_varying name type source

/-- A fragment that the library has is included, whatever has been included before. -/
lemma fulfills_withFragment {name : String}
    (hname : (FragmentLibrary.builtin.get? name).isSome = true) (included : OrderedSet String) :
    Fulfills node (withFragment name included) fun _ => True := by
  refine fulfills_read.bind fun site hsite => ?_
  -- all dependencies of a registered fragment are registered in the library at hand
  obtain ⟨after, hafter⟩ :=
    FragmentLibrary.isClosed_builtin.exists_resolve_eq_ok hname included
  rw [hsite, hafter]
  exact .pure trivial

/-- A fragment that the library has can be included, for the program and for the node. -/
lemma fulfills_fragment {name : String}
    (hname : (FragmentLibrary.builtin.get? name).isSome = true) :
    Fulfills node (fragment name) fun _ => True := by
  refine fulfills_get.bind fun e _ => ?_
  refine (fulfills_withFragment hname _).bind fun all _ => ?_
  refine fulfills_get.bind fun e _ => ?_
  exact (fulfills_withFragment hname _).bind fun own _ => fulfills_modify _

end Emit

/-! ## Reliable types -/

/-- The inputs that have a default. -/
def Signature.supplied (signature : Signature) : List String :=
  (signature.inputs.filter (·.default?.isSome)).map InputSpec.name

/-- There is an expression for every input that has a default.  Nothing is said about the others. -/
def Operands.Supply (operands : Operands) (signature : Signature) : Prop :=
  ∀ name ∈ signature.supplied, ∃ expr, operands.get name = .ok expr

/-- The type writes an expression for each output of a node with these sockets, or blames a
property.  The signature is that of the node, so that the outputs are those it was wired by. -/
def NodeKind.IsReliable (kind : NodeKind) : Prop :=
  ∀ ⦃node : Node⦄ ⦃signature : Signature⦄ ⦃operands : Operands⦄,
    kind.signature node = .ok signature → operands.Supply signature →
      Emit.Fulfills node (kind.emit node operands) fun exprs =>
        exprs.length = signature.outputs.length

namespace Nodes

open Emit

variable {operands : Operands} {signature : Signature}

/-- Each of these inputs can be read. -/
def Readable (node : Node) (operands : Operands) : List String → Prop
  | [] => True
  | name :: names =>
    Fulfills node (liftM (operands.get name)) (fun _ => True) ∧ Readable node operands names

/-- Every input that has a default can be read. -/
lemma readable_of_supply (h : operands.Supply signature) (names : List String)
    (hnames : signature.supplied = names) : Readable node operands names := by
  have hsubset : ∀ name ∈ names, ∃ expr, operands.get name = .ok expr := hnames ▸ h
  clear hnames
  induction names with
  | nil => trivial
  | cons name names ih =>
    obtain ⟨⟨expr, hexpr⟩, hrest⟩ := List.forall_mem_cons.mp hsubset
    exact ⟨.lift (hexpr ▸ .ok trivial), ih hrest⟩

/-- Reading a choice gives one of the words, or blames the property. -/
lemma fulfills_choice (node : Node) (property default : String) :
    Fulfills node (liftM (node.choice property default)) fun _ => True := by
  refine .lift ?_
  rw [Node.choice]
  split
  · exact .ok trivial
  · exact .ok trivial
  · exact .ok trivial
  · exact .error property _

/-- The place at which a texture is read: what is linked, or else its natural coordinates. -/
lemma fulfills_coordinates {natural : Emit String}
    (h : Fulfills node natural fun _ => True) :
    Fulfills node (coordinates operands natural) fun _ => True := by
  rw [coordinates]
  split
  · exact .pure trivial
  · exact h

/-! ### Arithmetic -/

lemma isReliable_math : math.IsReliable := by
  intro node signature operands hsignature h
  cases hsignature
  obtain ⟨ha, hb, hc, -⟩ := readable_of_supply h ["value", "value_001", "value_002"] rfl
  refine (fulfills_choice node _ _).bind fun operation _ => ?_
  split
  · exact ha.bind fun a _ => hb.bind fun b _ => hc.bind fun c _ => .pure rfl
  · exact .throw _ _

lemma isReliable_vectorMath : vectorMath.IsReliable := by
  intro node signature operands hsignature h
  cases hsignature
  obtain ⟨ha, hb, hc, hscale, -⟩ :=
    readable_of_supply h ["vector", "vector_001", "vector_002", "scale"] rfl
  refine (fulfills_choice node _ _).bind fun operation _ => ?_
  dsimp only
  -- an operation without a template is the fault of the property
  split
  · exact .throw_bind _ _
  · exact ha.bind fun a _ => hb.bind fun b _ => hc.bind fun c _ => hscale.bind fun _ _ => .pure rfl

lemma fulfills_mixType (node : Node) : node.Fulfills (fun _ => True) (mixType node) := by
  rcases mixType_cases node with ⟨type, htype, -⟩ | ⟨fault, hfault⟩
  · exact htype ▸ .ok trivial
  · exact hfault ▸ .error _ fault

lemma isReliable_mix : mix.IsReliable := by
  intro node signature operands hsignature h
  -- the sockets depend on the type, so where there is a signature there is a type
  obtain ⟨type, -, hok⟩ := bind_eq_ok_iff.mp hsignature
  cases hok
  obtain ⟨hfactor, ha, hb, -⟩ := readable_of_supply h ["factor", "a", "b"] rfl
  refine (Fulfills.lift (fulfills_mixType node)).bind fun type' _ => ?_
  refine hfactor.bind fun factor _ => ha.bind fun a _ => hb.bind fun b _ => ?_
  dsimp only
  split
  · refine (fulfills_choice node _ _).bind fun mode _ => ?_
    split
    · exact .throw_bind _ _
    · refine (fulfills_fragment (by decide +kernel)).bind fun _ _ => ?_
      exact Fulfills.bind (P := fun _ => True) (.pure trivial) fun _ _ => .pure rfl
  · exact Fulfills.bind (P := fun _ => True) (.pure trivial) fun _ _ => .pure rfl

lemma isReliable_clampNode : clampNode.IsReliable := by
  intro node signature operands hsignature h
  cases hsignature
  obtain ⟨hx, hlow, hhigh, -⟩ := readable_of_supply h ["value", "min", "max"] rfl
  refine hx.bind fun x _ => hlow.bind fun low _ => hhigh.bind fun high _ => ?_
  refine (fulfills_choice node _ _).bind fun kind _ => ?_
  split
  · exact .pure rfl
  · exact (fulfills_fragment (by decide +kernel)).bind fun _ _ => .pure rfl
  · exact .throw _ _

lemma isReliable_mapRange : mapRange.IsReliable := by
  intro node signature operands hsignature h
  cases hsignature
  obtain ⟨hx, hfromLow, hfromHigh, hlow, hhigh, -⟩ :=
    readable_of_supply h ["value", "from_min", "from_max", "to_min", "to_max"] rfl
  refine (fulfills_fragment (by decide +kernel)).bind fun _ _ => ?_
  refine hlow.bind fun low _ => hhigh.bind fun high _ => hx.bind fun x _ => ?_
  refine hfromLow.bind fun fromLow _ => hfromHigh.bind fun fromHigh _ => ?_
  dsimp only
  split
  · exact (fulfills_fragment (by decide +kernel)).bind fun _ _ => .pure rfl
  · exact .pure rfl

lemma isReliable_combineXyz : combineXyz.IsReliable := by
  intro node signature operands hsignature h
  cases hsignature
  obtain ⟨hx, hy, hz, -⟩ := readable_of_supply h ["x", "y", "z"] rfl
  exact hx.bind fun x _ => hy.bind fun y _ => hz.bind fun z _ => .pure rfl

lemma isReliable_separateXyz : separateXyz.IsReliable := by
  intro node signature operands hsignature h
  cases hsignature
  obtain ⟨hvector, -⟩ := readable_of_supply h ["vector"] rfl
  exact hvector.bind fun vector _ => .pure rfl

lemma isReliable_reroute : reroute.IsReliable := by
  intro node signature operands hsignature h
  cases hsignature
  obtain ⟨hinput, -⟩ := readable_of_supply h ["input"] rfl
  exact hinput.bind fun input _ => .pure rfl

/-! ### Sources -/

lemma isReliable_value : value.IsReliable := by
  intro node signature operands hsignature _
  cases hsignature
  simp only [value]
  split
  · exact .pure rfl
  · exact .pure rfl
  · split
    · exact .pure rfl
    · exact .throw_bind _ _

lemma isReliable_rgb : rgb.IsReliable := by
  intro node signature operands hsignature _
  cases hsignature
  simp only [rgb]
  split
  · exact .pure rfl
  · exact .throw _ _

lemma isReliable_texCoord : texCoord.IsReliable := by
  intro node signature operands hsignature _
  cases hsignature
  refine (fulfills_interpolated _ _ _ _).bind fun position _ => ?_
  refine (fulfills_interpolated _ _ _ _).bind fun normal _ => ?_
  exact (fulfills_interpolated _ _ _ _).bind fun uv _ => .pure rfl

lemma isReliable_attribute : attributeNode.IsReliable := by
  intro node signature operands hsignature _
  cases hsignature
  simp only [attributeNode]
  split
  · exact .throw_bind _ _
  · refine (fulfills_vertexAttribute _ _).bind fun name _ => ?_
    exact (fulfills_interpolated _ _ _ _).bind fun color _ => .pure rfl

lemma isReliable_sceneTime : sceneTime.IsReliable := by
  intro node signature operands hsignature _
  cases hsignature
  refine (fulfills_uniform _ _).bind fun seconds _ => ?_
  refine (fulfills_uniform _ _).bind fun frame _ => ?_
  exact (fulfills_modify _).bind fun _ _ => .pure rfl

lemma isReliable_cameraData : cameraData.IsReliable := by
  intro node signature operands hsignature _
  cases hsignature
  refine (fulfills_uniform _ _).bind fun camera _ => ?_
  refine (fulfills_uniform _ _).bind fun direction _ => ?_
  refine (fulfills_modify _).bind fun _ _ => ?_
  refine (fulfills_interpolated _ _ _ _).bind fun world _ => ?_
  refine (fulfills_freshLocal _).bind fun offset _ => ?_
  exact (fulfills_modify _).bind fun _ _ => .pure rfl

lemma isReliable_objectInfo : objectInfo.IsReliable := by
  intro node signature operands hsignature _
  cases hsignature
  refine (fulfills_uniform _ _).bind fun location _ => ?_
  refine (fulfills_modify _).bind fun _ _ => (fulfills_modify _).bind fun _ _ => ?_
  exact (fulfills_fragment (by decide +kernel)).bind fun _ _ => .pure rfl

/-! ### Textures -/

lemma isReliable_texImage : texImage.IsReliable := by
  intro node signature operands hsignature _
  cases hsignature
  simp only [texImage]
  -- without an image the property is to blame
  split
  · refine (fulfills_sampler _).bind fun sampler _ => ?_
    refine (fulfills_coordinates ?_).bind fun vector _ => ?_
    · exact (fulfills_interpolated _ _ _ _).bind fun uv _ => .pure trivial
    · refine (fulfills_freshLocal _).bind fun sample _ => ?_
      exact (fulfills_modify _).bind fun _ _ => .pure rfl
  · exact .throw _ _

lemma isReliable_texNoise : texNoise.IsReliable := by
  intro node signature operands hsignature h
  cases hsignature
  obtain ⟨hscale, hdetail, hroughness, -⟩ :=
    readable_of_supply h ["scale", "detail", "roughness"] rfl
  refine (fulfills_fragment (by decide +kernel)).bind fun _ _ => ?_
  refine (fulfills_coordinates (fulfills_interpolated _ _ _ _)).bind fun vector _ => ?_
  refine hdetail.bind fun detail _ => hroughness.bind fun roughness _ => ?_
  refine (fulfills_freshLocal _).bind fun point _ => (fulfills_freshLocal _).bind fun fac _ => ?_
  refine hscale.bind fun scale _ => (fulfills_modify _).bind fun _ _ => ?_
  exact (fulfills_modify _).bind fun _ _ => .pure rfl

lemma isReliable_texWhiteNoise : texWhiteNoise.IsReliable := by
  intro node signature operands hsignature _
  cases hsignature
  refine (fulfills_fragment (by decide +kernel)).bind fun _ _ => ?_
  exact (fulfills_coordinates (fulfills_interpolated _ _ _ _)).bind fun vector _ => .pure rfl

/-! ### Outputs -/

lemma isReliable_emission : emission.IsReliable := by
  intro node signature operands hsignature h
  cases hsignature
  obtain ⟨hcolor, hstrength, -⟩ := readable_of_supply h ["color", "strength"] rfl
  exact hcolor.bind fun color _ => hstrength.bind fun strength _ => .pure rfl

lemma isReliable_outputMaterial : outputMaterial.IsReliable := by
  intro node signature operands hsignature _
  cases hsignature
  exact .pure rfl

end Nodes

/-- Every node type at hand is reliable. -/
theorem NodeKind.isReliable_of_mem {kind : NodeKind}
    (h : kind ∈ Nodes.sources ++ Nodes.arithmetic ++ Nodes.textures ++ Nodes.outputs) :
    kind.IsReliable := by
  simp only [Nodes.sources, Nodes.arithmetic, Nodes.textures, Nodes.outputs, List.mem_append,
    List.mem_cons, List.not_mem_nil, or_false] at h
  rcases h with ((h | h) | h) | h
  · rcases h with rfl | rfl | rfl | rfl | rfl | rfl | rfl
    · exact Nodes.isReliable_value
    · exact Nodes.isReliable_rgb
    · exact Nodes.isReliable_texCoord
    · exact Nodes.isReliable_attribute
    · exact Nodes.isReliable_sceneTime
    · exact Nodes.isReliable_cameraData
    · exact Nodes.isReliable_objectInfo
  · rcases h with rfl | rfl | rfl | rfl | rfl | rfl | rfl | rfl
    · exact Nodes.isReliable_math
    · exact Nodes.isReliable_vectorMath
    · exact Nodes.isReliable_mix
    · exact Nodes.isReliable_clampNode
    · exact Nodes.isReliable_mapRange
    · exact Nodes.isReliable_combineXyz
    · exact Nodes.isReliable_separateXyz
    · exact Nodes.isReliable_reroute
  · rcases h with rfl | rfl | rfl
    · exact Nodes.isReliable_texImage
    · exact Nodes.isReliable_texNoise
    · exact Nodes.isReliable_texWhiteNoise
  · rcases h with rfl | rfl
    · exact Nodes.isReliable_emission
    · exact Nodes.isReliable_outputMaterial

/-! ## Constants are not empty -/

/-- A written number shows a point or an exponent. -/
lemma mem_magnitude (layout : Decimal.Layout) (b : Decimal.Binary) :
    '.' ∈ layout.magnitude b ∨ 'e' ∈ layout.magnitude b := by
  rw [Decimal.Layout.magnitude]
  dsimp only
  split
  · refine .inl ?_
    rw [Decimal.positional]
    split
    · simp
    · split
      · simp
      · simp
  · refine .inr ?_
    simp [Decimal.scientific]

/-- A written number is not empty. -/
lemma plainText_ne_empty (x : Float) : Decimal.plainText x ≠ "" := by
  rw [Decimal.plainText]
  cases Decimal.Reading.ofFloat x with
  | notANumber => decide
  | infinite negative => cases negative with
    | _ => decide
  | finite negative b =>
    -- a finite number has at least a digit, whichever way it is written
    have hbody : (if b.mantissa = 0 then ['0', '.', '0'] else Decimal.plain.magnitude b) ≠ [] := by
      split
      · exact List.cons_ne_nil _ _
      · rcases mem_magnitude Decimal.plain b with h | h
        · exact List.ne_nil_of_mem h
        · exact List.ne_nil_of_mem h
    rw [Decimal.Layout.text, Ne, String.ofList_eq_empty_iff]
    split
    · exact List.cons_ne_nil _ _
    · exact hbody

lemma toString_ne_empty (i : Int) : toString i ≠ "" := by
  cases i with
  | ofNat n => exact Nat.repr_ne_empty
  | negSucc n =>
    have hsign : toString (Int.negSucc n) = "-" ++ (n + 1).repr := rfl
    simp [hsign]

/-- The constant of an authored value is not empty, whatever the type. -/
lemma SocketType.ne_empty_of_literal? {type : SocketType} {value : Json} {expr : String}
    (h : type.literal? value = some expr) : expr ≠ "" := by
  have hword : ∀ (b : Prop) [Decidable b] (yes no : String), yes ≠ "" → no ≠ "" →
      (if b then yes else no) ≠ "" := by
    intro b _ yes no hyes hno
    split
    · exact hyes
    · exact hno
  have hcall : ∀ arguments, type.glsl ++ "(" ++ arguments ++ ")" ≠ "" := by
    intro arguments
    simp
  unfold SocketType.literal? at h
  split at h
  · cases h
    exact hword _ _ _ (by decide) (by decide)
  · cases h
    exact hword _ _ _ (by decide) (by decide)
  · cases h
    exact hword _ _ _ (by decide) (by decide)
  · obtain ⟨n, -, h⟩ := Option.bind_eq_some_iff.mp h
    obtain ⟨parts, -, h⟩ := Option.bind_eq_some_iff.mp h
    cases h
    exact hcall _
  · obtain ⟨x, -, rfl⟩ := Option.map_eq_some_iff.mp h
    exact hword _ _ _ (by decide) (by decide)
  · obtain ⟨x, -, rfl⟩ := Option.map_eq_some_iff.mp h
    exact toString_ne_empty _
  · obtain ⟨x, -, rfl⟩ := Option.map_eq_some_iff.mp h
    exact plainText_ne_empty _
  · obtain ⟨x, -, rfl⟩ := Option.map_eq_some_iff.mp h
    exact hcall _

end SceneEngine.Shading
