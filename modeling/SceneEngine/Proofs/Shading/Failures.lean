import SceneEngine.Proofs.Shading.Evaluation
import SceneEngine.Proofs.Shading.Faults
import SceneEngine.Proofs.Shading.Roots

/-!
# Failures of a compile

A tree that is valid and whose roots have been found can still fail to compile, because a node has a
property that its type cannot use; and this is the only way in which it can
(`ShaderCompiler.blames_of_eq_error`).  So whoever shows the error to the author can point at a node
and a property of it, and it is always a node that matters for the result.

## What is checked twice

While nodes are evaluated, other things are checked as well: that a linked value converts, that a
value written at an input has a constant, that an output has a name, and that a fragment is in the
library.  All of these have been checked before, and the second check never fails.

* A linked value converts because the link fits (`isSome_convert?_eq_fits`): whether a conversion
  exists depends on the types alone, and a link was accepted by the same rule.
* A value at an input has a constant because the node is valid, and a default because every default
  of a node type does (`Network.Checked.exists_literal`).
* All outputs are named when the network is resolved (`isNamed_nameAll`).
* The library contains what its fragments include, and node types ask only for fragments that are in
  it.

## From nodes to compiles

A network that was resolved from a tree is `Network.Checked`.  In such a network every input gets an
operand (`exists_operandOf`), so the code of a node is written or blames a property of the node
(`fulfills_evaluateNode`), and evaluating some nodes fails only with the error of one of them
(`exists_of_evaluate_eq_error`).  The nodes that are evaluated for a stage are those that lead to
its roots, which gives the last part of `NodeTree.Blames`.
-/

namespace SceneEngine.Shading

variable {tree : NodeTree} {network : Network} {station : Station} {input : InputSpec} {i : Nat}

/-! ## Types and names of inputs -/

/-- Whether a value converts depends on the types alone. -/
lemma isSome_convert?_eq_fits (source target : SocketType) (expr : String) :
    (source.convert? expr target).isSome = fits source target := by
  cases source with
  | _ => cases target with
    | _ => rfl

/-- The first input of a name is the only one. -/
lemma Signature.Sound.input?_eq {signature : Signature} (h : signature.Sound)
    (hinput : input ∈ signature.inputs) : signature.input? input.name = some input := by
  have hsome : (signature.input? input.name).isSome = true :=
    List.find?_isSome.mpr ⟨input, hinput, beq_self_eq_true input.name⟩
  obtain ⟨found, hfound⟩ := Option.isSome_iff_exists.mp hsome
  have hname := List.find?_some hfound
  rw [hfound, List.inj_on_of_nodup_map h.nodup_inputs (List.mem_of_find?_eq_some hfound) hinput
    (eq_of_beq hname)]

/-! ## Named outputs -/

/-- Every output of the station has a variable. -/
def Station.IsNamed (station : Station) : Prop :=
  ∀ output ∈ station.signature.outputs, (station.outputNames.get? output.1).isSome = true

/-- Naming an output keeps the names of the outputs before it. -/
lemma isSome_get?_foldl_allocate (id : String) (outputs : List (String × SocketType))
    (taken : OrderedMap String String × NamePool) {socket : String}
    (h : (taken.1.get? socket).isSome = true ∨ socket ∈ outputs.map Prod.fst) :
    ((outputs.foldl
      (fun taken output => (taken.1.insert output.1 (taken.2.allocate ["n", id, output.1]).1,
        (taken.2.allocate ["n", id, output.1]).2))
      taken).1.get? socket).isSome = true := by
  induction outputs generalizing taken with
  | nil => exact h.resolve_right List.not_mem_nil
  | cons output outputs ih =>
    refine ih _ ?_
    rw [OrderedMap.get?_insert]
    split
    · exact .inl rfl
    next hne => exact h.imp_right fun hmem => (List.mem_cons.mp hmem).resolve_left hne

lemma Station.isNamed_nameOutputs (station : Station) (pool : NamePool) :
    (station.nameOutputs pool).1.IsNamed := by
  intro output houtput
  simp only [Station.nameOutputs] at houtput ⊢
  exact isSome_get?_foldl_allocate station.node.id station.signature.outputs (∅, pool)
    (.inr (List.mem_map_of_mem houtput))

/-- Naming the outputs of all stations leaves none without a name. -/
lemma isNamed_nameAll (stations : List Station) (pool : NamePool) :
    ∀ station ∈ (nameAll stations pool).1, station.IsNamed := by
  induction stations generalizing pool with
  | nil => exact List.forall_mem_nil _
  | cons station stations ih =>
    exact List.forall_mem_cons.mpr ⟨station.isNamed_nameOutputs pool, ih _⟩

/-! ## Operands -/

/-- When every input gets an expression, all are kept, each under the name of its input. -/
lemma exists_foldlM_operandOf {inputs : List InputSpec} (values : OrderedMap String Operand)
    (hnodup : (inputs.map InputSpec.name).Nodup)
    (hinputs : ∀ input ∈ inputs, ∃ operand, operandOf network station input = .ok operand) :
    ∃ values', inputs.foldlM (fun values input => do
        return values.insert input.name (← operandOf network station input)) values = .ok values' ∧
      (∀ name ∉ inputs.map InputSpec.name, values'.get? name = values.get? name) ∧
      ∀ input ∈ inputs, ∀ operand, operandOf network station input = .ok operand →
        values'.get? input.name = some operand := by
  induction inputs generalizing values with
  | nil => exact ⟨values, rfl, fun _ _ => rfl, List.forall_mem_nil _⟩
  | cons input inputs ih =>
    obtain ⟨hnew, hnodup⟩ := List.nodup_cons.mp hnodup
    obtain ⟨⟨operand, hoperand⟩, hinputs⟩ := List.forall_mem_cons.mp hinputs
    obtain ⟨values', hvalues, hothers, hkept⟩ :=
      ih (values.insert input.name operand) hnodup hinputs
    refine ⟨values', ?_, fun name hname => ?_, List.forall_mem_cons.mpr ⟨?_, hkept⟩⟩
    · rw [List.foldlM_cons, hoperand]
      exact hvalues
    · obtain ⟨hne, hname⟩ := not_or.mp (mt List.mem_cons.mpr hname)
      rw [hothers name hname, OrderedMap.get?_insert, if_neg hne]
    · intro operand' hoperand'
      obtain rfl := Except.ok.inj (hoperand.symm.trans hoperand')
      rw [hothers input.name hnew, OrderedMap.get?_insert, if_pos rfl]

/-! ## Checked networks -/

/-- A network of a valid tree, with the node types at hand. -/
structure Network.Checked (tree : NodeTree) (network : Network) : Prop where
  /-- The network is that of the tree, -/
  resolves : network.Resolves .builtin tree
  /-- the tree is valid -/
  valid : tree.Valid .builtin
  /-- and every output has a variable. -/
  named : ∀ station ∈ network.stations, station.IsNamed

namespace Network.Checked

/-- Resolving a tree checks it. -/
lemma of_resolve_eq_ok {names names' : NamePool}
    (h : Network.resolve tree .builtin names = .ok (network, names')) : network.Checked tree := by
  rcases Network.resolve_cases .builtin tree names with
    ⟨network', names₁, hok, hvalid, hresolves, stations, hnames⟩ | ⟨e, herror, -⟩
  · obtain ⟨rfl, rfl⟩ := Prod.mk.inj (Except.ok.inj (hok.symm.trans h))
    refine ⟨hresolves, hvalid, fun station hstation => ?_⟩
    have hall := isNamed_nameAll stations names
    rw [hnames] at hall
    exact hall station hstation
  · rw [herror] at h
    cases h

variable (h : network.Checked tree)
include h

lemma mem_kind (hstation : station ∈ network.stations) :
    station.kind ∈ Nodes.sources ++ Nodes.arithmetic ++ Nodes.textures ++ Nodes.outputs :=
  NodeRegistry.mem_of_get?_builtin (h.resolves.wired.typed station hstation).1

lemma sound (hstation : station ∈ network.stations) : station.signature.Sound :=
  NodeKind.sound_of_mem (h.mem_kind hstation)
    (h.resolves.wired.typed station hstation).2

/-- An output of a node has a variable of its type. -/
lemma exists_output (hstation : network.stations[i]? = some station) {socket : String}
    {type : SocketType} (htype : station.signature.outputType? socket = some type) :
    ∃ name, network.output i socket = .ok (name, type) := by
  obtain ⟨output, houtput, rfl⟩ := Option.map_eq_some_iff.mp htype
  have hfound := List.find?_some houtput
  have hsocket : output.1 = socket := eq_of_beq hfound
  have hnamed := h.named station (List.mem_of_getElem? hstation) output
    (List.mem_of_find?_eq_some houtput)
  obtain ⟨name, hname⟩ := Option.isSome_iff_exists.mp hnamed
  exact ⟨name, Network.output_eq_ok_iff.mpr ⟨station, hstation, hsocket ▸ hname, htype⟩⟩

/-! ### Inputs -/

/-- An output that feeds an input fits it, by the check of the link behind it. -/
lemma exists_output_of_source (hstation : network.stations[i]? = some station)
    (hinput : input ∈ station.signature.inputs) {source : Source}
    (hsource : station.sources.get? input.name = some source) :
    ∃ name type, network.output source.node source.socket = .ok (name, type) ∧
      fits type input.type = true := by
  have hwired := h.resolves.wired
  obtain ⟨link, hlink, hfrom, hsocket, hto, hname⟩ :=
    (hwired.sources_iff i station hstation _ _).mp hsource
  obtain ⟨producer, consumer, produced, expected, hproducer, hconsumer, hproduced, hexpected,
    hfits⟩ := hwired.fits link hlink
  obtain ⟨feeder, hfeeder, hnode⟩ := hwired.station_of_indexOf? hfrom
  obtain rfl := Option.some.inj (hproducer.symm.trans hnode)
  obtain ⟨consuming, hconsuming, hnode'⟩ := hwired.station_of_indexOf? hto
  obtain rfl := Option.some.inj (hstation.symm.trans hconsuming)
  obtain rfl := Option.some.inj (hconsumer.symm.trans hnode')
  have hmem := List.mem_of_getElem? hstation
  have htype :=
    hproduced.outputType?_eq (hwired.typed feeder (List.mem_of_getElem? hfeeder)).hasSignature
  -- the link was checked against the first input of its name, which is this one
  have htype' : station.signature.inputType? input.name = some input.type :=
    congrArg (Option.map InputSpec.type) ((h.sound hmem).input?_eq hinput)
  rw [← hname, hexpected.inputType?_eq (hwired.typed station hmem).hasSignature] at htype'
  obtain ⟨name, houtput⟩ := h.exists_output hfeeder htype
  exact ⟨name, produced, hsocket ▸ houtput, Option.some.inj htype' ▸ hfits⟩

/-- The value in force for an input has a constant, whether it is the authored one or the default.
-/
lemma exists_literal (hstation : station ∈ network.stations)
    (hinput : input ∈ station.signature.inputs) {default : Json}
    (hdefault : input.default? = some default) :
    ∃ expr, input.type.literal? ((station.node.literals.get? input.name).getD default) =
      some expr := by
  refine Option.isSome_iff_exists.mp ?_
  have hsound := h.sound hstation
  cases hvalue : station.node.literals.get? input.name with
  | none => exact hsound.defaults input hinput default hdefault
  | some value =>
    have hnode : station.node ∈ tree.nodes.values := by
      rw [← h.resolves.wired.nodes_eq]
      exact List.mem_map_of_mem hstation
    obtain ⟨signature, hsignature, hliterals, -⟩ := h.valid.nodes station.node hnode
    obtain rfl := hsignature.eq (h.resolves.wired.typed station hstation).hasSignature
    exact hliterals input.name value input hvalue (hsound.input?_eq hinput) (by rw [hdefault]; rfl)

/-- Every input gets an expression, and can be read if it has a default. -/
lemma exists_operandOf (hstation : network.stations[i]? = some station)
    (hinput : input ∈ station.signature.inputs) :
    ∃ operand, operandOf network station input = .ok operand ∧
      (input.default?.isSome = true → (operand.isLinked || !operand.expr.isEmpty) = true) := by
  rw [operandOf]
  cases hsource : station.sources.get? input.name with
  | some source =>
    obtain ⟨name, type, houtput, hfits⟩ := h.exists_output_of_source hstation hinput hsource
    rw [← isSome_convert?_eq_fits type input.type name] at hfits
    obtain ⟨expr, hexpr⟩ := Option.isSome_iff_exists.mp hfits
    exact ⟨⟨expr, true⟩, by simp [houtput, hexpr]; rfl, fun _ => rfl⟩
  | none =>
    cases hdefault : input.default? with
    | none => exact ⟨⟨"", false⟩, rfl, fun hsome => Bool.noConfusion hsome⟩
    | some default =>
      obtain ⟨expr, hexpr⟩ :=
        h.exists_literal (List.mem_of_getElem? hstation) hinput hdefault
      refine ⟨⟨expr, false⟩, by simp [hexpr], fun _ => ?_⟩
      simp [SocketType.ne_empty_of_literal? hexpr]

/-- The inputs of a node get their expressions, among them all that have a default. -/
lemma exists_operandsOf (hstation : network.stations[i]? = some station) :
    ∃ operands, operandsOf network station = .ok operands ∧
      operands.Supply station.signature := by
  have hoperand : ∀ input ∈ station.signature.inputs, ∃ operand,
      operandOf network station input = .ok operand ∧
        (input.default?.isSome = true → (operand.isLinked || !operand.expr.isEmpty) = true) :=
    fun input hinput => h.exists_operandOf hstation hinput
  obtain ⟨values, hvalues, -, hkept⟩ := exists_foldlM_operandOf ∅
    (h.sound (List.mem_of_getElem? hstation)).nodup_inputs
    fun input hinput => (hoperand input hinput).imp fun _ => And.left
  refine ⟨⟨station.node.id, values⟩, by rw [operandsOf, hvalues]; rfl, fun name hname => ?_⟩
  obtain ⟨input, hinput, rfl⟩ := List.mem_map.mp hname
  obtain ⟨hinput, hdefault⟩ := List.mem_filter.mp hinput
  obtain ⟨operand, hok, hreadable⟩ := hoperand input hinput
  refine ⟨operand.expr, ?_⟩
  simp [Operands.get, hkept input hinput operand hok, hreadable hdefault]

/-! ### Nodes and stages -/

/-- The expressions of outputs of a node are stored. -/
lemma exists_outputStatements (hstation : network.stations[i]? = some station)
    {outs : List ((String × SocketType) × String)}
    (houts : ∀ out ∈ outs, out.1 ∈ station.signature.outputs) :
    ∃ stored, outputStatements network i outs = .ok stored := by
  induction outs with
  | nil => exact ⟨[], rfl⟩
  | cons out outs ih =>
    obtain ⟨hout, houts⟩ := List.forall_mem_cons.mp houts
    obtain ⟨stored, hstored⟩ := ih houts
    have hsome : (station.signature.outputType? out.1.1).isSome = true := by
      rw [Signature.outputType?, Option.isSome_map]
      exact List.find?_isSome.mpr ⟨out.1, hout, beq_self_eq_true out.1.1⟩
    obtain ⟨type, htype⟩ := Option.isSome_iff_exists.mp hsome
    obtain ⟨name, hname⟩ := h.exists_output hstation htype
    exact ⟨.declare out.1.2 name out.2 :: stored, by
      rw [outputStatements, hname, hstored]; rfl⟩

/-- A node is evaluated, or a property of it is blamed. -/
lemma fulfills_evaluateNode (hstation : network.stations[i]? = some station) (stage : Stage)
    (declarations : Declarations) (names : NamePool) :
    station.node.Fulfills (fun _ => True)
      (evaluateNode .builtin network stage i station declarations names) := by
  have hmem := List.mem_of_getElem? hstation
  obtain ⟨operands, hoperands, hsupply⟩ := h.exists_operandsOf hstation
  have hreliable := NodeKind.isReliable_of_mem (h.mem_kind hmem)
  rw [evaluateNode, hoperands, ok_bind]
  refine (hreliable (h.resolves.wired.typed station hmem).2 hsupply
    ⟨stage, station.node.id, .builtin⟩ _ rfl).bind ?_
  rintro ⟨exprs, written⟩ hlength
  have houts : ∀ out ∈ station.signature.outputs.zip exprs, out.1 ∈ station.signature.outputs :=
    fun out hout => (List.of_mem_zip hout).1
  obtain ⟨stored, hstored⟩ := h.exists_outputStatements hstation houts
  dsimp only at hlength ⊢
  rw [if_neg (not_not.mpr hlength), hstored]
  exact .ok trivial

/-- When nodes of the network are not evaluated, a property of one of them is blamed. -/
lemma exists_of_evaluate_eq_error {stage : Stage} {indices : List Nat}
    (hindices : ∀ index ∈ indices, index < network.stations.length)
    {declarations : Declarations} {names : NamePool} {e : CompileError}
    (herror : evaluate .builtin network stage indices declarations names = .error e) :
    ∃ index ∈ indices, ∃ station, network.stations[index]? = some station ∧
      ∃ property fault, e = station.node.invalidProperty property fault := by
  induction indices generalizing declarations names with
  | nil => cases herror
  | cons index indices ih =>
    obtain ⟨hindex, hindices⟩ := List.forall_mem_cons.mp hindices
    have hstation := List.getElem?_eq_getElem hindex
    rw [evaluate, hstation] at herror
    rcases bind_eq_error_iff.mp herror with hfirst | ⟨⟨code, declarations', names'⟩, -, herror⟩
    · have hfulfills := h.fulfills_evaluateNode hstation stage declarations names
      rw [hfirst] at hfulfills
      exact ⟨index, List.mem_cons_self, _, hstation, hfulfills.eq_of_error⟩
    · rcases bind_eq_error_iff.mp herror with hrest | ⟨_, -, hok⟩
      · obtain ⟨index', hindex', hblamed⟩ := ih hindices hrest
        exact ⟨index', List.mem_cons_of_mem _ hindex', hblamed⟩
      · cases hok

end Network.Checked

/-! ## Includes -/

/-- The texts of registered fragments are included. -/
lemma exists_includedTexts {library : FragmentLibrary} {names : List String}
    (hnames : ∀ name ∈ names, (library.get? name).isSome = true) :
    ∃ texts, includedTexts library names = .ok texts := by
  rw [includedTexts]
  generalize (∅ : OrderedMap String String) = texts
  induction names generalizing texts with
  | nil => exact ⟨texts, rfl⟩
  | cons name names ih =>
    obtain ⟨hname, hnames⟩ := List.forall_mem_cons.mp hnames
    obtain ⟨fragment, hfragment⟩ := Option.isSome_iff_exists.mp hname
    rw [List.foldlM_cons, hfragment]
    exact ih hnames _

/-! ## What is blamed -/

/-- The targets that are computed in a stage. -/
def Stage.targets (stage : Stage) : List Target := Target.all.filter (·.stage == stage)

lemma Stage.mem_targets_iff {stage : Stage} {target : Target} :
    target ∈ stage.targets ↔ (target.stage == stage) = true := by
  have hall : target ∈ Target.all := by
    cases target with
    | _ => decide
  rw [targets, List.mem_filter]
  exact and_iff_right hall

/-- The error blames a property of a node that leads to a root for one of the targets. -/
def NodeTree.Blames (registry : NodeRegistry) (tree : NodeTree) (roots : List Root)
    (targets : List Target) (e : CompileError) : Prop :=
  ∃ id node property fault, tree.nodes.get? id = some node ∧
    tree.LeadsTo registry roots targets id ∧ e = node.invalidProperty property fault

section

variable {roots : List Root} {resolved : List ResolvedRoot} {e : CompileError}

/-- Evaluating what the roots of a stage need blames a node that leads to one of them. -/
lemma Network.Checked.blames_of_evaluate_eq_error (h : network.Checked tree)
    (hresolved : resolveRoots tree network roots = .ok resolved) {stage : Stage}
    {declarations : Declarations} {names : NamePool}
    (herror : evaluate .builtin network stage
      (network.needed (rootNodes resolved (·.stage == stage))) declarations names = .error e) :
    tree.Blames .builtin roots stage.targets e := by
  have hkeep : ∀ target : Target, (target.stage == stage) = true ↔ target ∈ stage.targets :=
    fun _ => Stage.mem_targets_iff.symm
  have hneeded : ∀ i ∈ network.needed (rootNodes resolved (·.stage == stage)),
      ∃ id, tree.indexOf? id = some i ∧ tree.LeadsTo .builtin roots stage.targets id :=
    fun i => (h.resolves.mem_needed_iff_leadsTo hresolved hkeep).mp
  have hindices : ∀ i ∈ network.needed (rootNodes resolved (·.stage == stage)),
      i < network.stations.length := by
    intro i hi
    obtain ⟨id, hid, -⟩ := hneeded i hi
    obtain ⟨station, hstation, -⟩ := h.resolves.wired.station_of_indexOf? hid
    exact (List.getElem?_eq_some_iff.mp hstation).1
  obtain ⟨i, hi, station, hstation, property, fault, he⟩ :=
    h.exists_of_evaluate_eq_error hindices herror
  obtain ⟨id, hid, hleads⟩ := hneeded i hi
  obtain ⟨station', hstation', hnode⟩ := h.resolves.wired.station_of_indexOf? hid
  obtain rfl := Option.some.inj (hstation.symm.trans hstation')
  exact ⟨id, station.node, property, fault, hnode, hleads, he⟩

lemma NodeTree.Blames.of_stage {registry : NodeRegistry} {stage : Stage}
    (h : tree.Blames registry roots stage.targets e) : tree.Blames registry roots Target.all e := by
  obtain ⟨id, node, property, fault, hnode, ⟨target, htarget, hroot⟩, he⟩ := h
  exact ⟨id, node, property, fault, hnode, ⟨target, (List.mem_filter.mp htarget).1, hroot⟩, he⟩

/-- **Compiling a tree that has been resolved, with its roots, fails only for a property.**
Evaluating the nodes of a stage can only fail with an error about a property of a node that leads to
a root of the stage, whatever has been declared and named before; and putting the program together
never fails. -/
theorem ShaderCompiler.blames_of_eq_error {names : NamePool}
    (hresolve : Network.resolve tree .builtin .empty = .ok (network, names))
    (hresolved : resolveRoots tree network roots = .ok resolved) :
    (∀ stage declarations pool e,
      evaluate .builtin network stage (network.needed (rootNodes resolved (·.stage == stage)))
        declarations pool = .error e →
      tree.Blames .builtin roots stage.targets e) ∧
    ∀ e, standard.compile tree roots = .error e → tree.Blames .builtin roots Target.all e := by
  have h := Network.Checked.of_resolve_eq_ok hresolve
  refine ⟨fun stage declarations pool e => h.blames_of_evaluate_eq_error hresolved,
    fun e herror => ?_⟩
  obtain ⟨-, stations, hnameAll⟩ := Network.resolves_of_resolve_eq_ok hresolve
  have hnames := Network.isNamed_of_nameAll hnameAll
  have hlayered := FragmentLibrary.isLayered_builtin
  rw [compile, show standard.nodes = .builtin from rfl, hresolve, ok_bind] at herror
  dsimp only at herror
  rw [hresolved, ok_bind] at herror
  rcases bind_eq_error_iff.mp herror with hfragment |
    ⟨⟨fragmentCode, declarations, names₁⟩, hfragment, herror⟩
  · exact (h.blames_of_evaluate_eq_error hresolved hfragment).of_stage
  obtain ⟨hadvances, -⟩ := isSound_of_evaluate h.resolves.writes hnames hlayered
    Declarations.tame_empty (h.resolves.nodup_needed _) hfragment
  rcases bind_eq_error_iff.mp herror with hvertex |
    ⟨⟨vertexCode, declarations', names₂⟩, hvertex, herror⟩
  · exact (h.blames_of_evaluate_eq_error hresolved hvertex).of_stage
  obtain ⟨hadvances', -⟩ := isSound_of_evaluate h.resolves.writes (hnames.mono hadvances.used)
    hlayered hadvances.tame (h.resolves.nodup_needed _) hvertex
  -- whatever is included has been found in the library
  have hincluded : ∀ name ∈ declarations'.includes.toList,
      (FragmentLibrary.builtin.get? name).isSome = true := fun name hname =>
    hadvances'.tame.includes.isSome (OrderedSet.mem_toList.mp hname)
  obtain ⟨texts, htexts⟩ := exists_includedTexts hincluded
  rcases bind_eq_error_iff.mp herror with hmissing | ⟨_, -, hok⟩
  · cases hmissing.symm.trans htexts
  · cases hok

/-- A tree whose only number is a word. -/
def NodeTree.spelledOut : NodeTree where
  nodes := .ofList
    [("two", ⟨"two", "value", ∅, ∅, [("value", .string "two")]⟩),
     ("end", ⟨"end", "output_material", ∅, ∅, []⟩)]
  links := [⟨⟨"two", "value"⟩, ⟨"end", "surface"⟩⟩]

theorem ShaderCompiler.blames_of_eq_error_spelledOut :
    ∃ network names resolved,
      Network.resolve .spelledOut .builtin .empty = .ok (network, names) ∧
      resolveRoots .spelledOut network [] = .ok resolved ∧
      standard.compile .spelledOut [] = .error (.invalidProperty "two" "value" .notANumber) ∧
      NodeTree.spelledOut.Blames .builtin [] Target.all
        (.invalidProperty "two" "value" .notANumber) := by
  have hsome : ((Network.resolve .spelledOut .builtin .empty).bind fun result =>
      resolveRoots .spelledOut result.1 []).toOption.isSome = true := by decide +kernel
  obtain ⟨resolved, hresolved⟩ := Option.isSome_iff_exists.mp hsome
  obtain ⟨⟨network, names⟩, hresolve, hresolved⟩ :=
    bind_eq_ok_iff.mp (toOption_eq_some_iff.mp hresolved)
  have hreason : (standard.compile .spelledOut []).map (fun _ => ()) =
      .error (.invalidProperty "two" "value" .notANumber) := by decide +kernel
  have herror := map_eq_error_iff.mp hreason
  exact ⟨network, names, resolved, hresolve, hresolved, herror,
    (blames_of_eq_error hresolve hresolved).2 _ herror⟩

end

end SceneEngine.Shading
