import SceneEngine.Proofs.Shading.Wiring
import SceneEngine.Shading.Nodes.Builtin

/-!
# Valid trees

Resolving a tree checks it: the nodes one by one, then the links one by one while they are
connected, and at last whether there are cycles.  The checks stop at the first fault.  This module
states what the checks are about without speaking of their order, and shows that they find exactly
that.

## Conditions

A tree is valid when each of its nodes and each of its links is, when no input is linked to two
outputs, and when no node feeds itself, directly or through others (`NodeTree.Valid`).
`NodeTree.Violates` says which condition an error is about, with the nodes, sockets and values that
the error names.  A tree that violates a condition is not valid (`NodeTree.Violates.not_valid`), so
an error is never raised about a valid tree.

## Resolving

`Network.resolve_outcome` follows the checks: either all succeed, the tree is valid and its stations
are wired, or one of them fails and names a condition that the tree violates.  The last part needs
that types blame a property when they have no sockets for a node, which is so for all types at hand
(`NodeRegistry.FaultsAreProperties`).

The checks of single nodes are turned into statements about the node (`Station.ofNode_cases`).  For
links the induction is over the list, with the links that have been connected so far as the
invariant (`Wired`): a link that is refused as a duplicate meets a link that was connected before
it.

## The types at hand

For the node types of the program the main result is `Network.resolve_builtin_iff`.  It uses that
their sockets are sound: names differ, defaults are values of their types, and outputs have
different names.
-/

namespace SceneEngine.Shading

/-! ## Conditions -/

/-- The input of a name. -/
def Signature.input? (signature : Signature) (name : String) : Option InputSpec :=
  signature.inputs.find? (·.name == name)

/-- A node is of a registered type that has sockets for it.  The values authored for inputs that
have a default are values of their types, and the outputs have the types that are declared for
them. -/
def Node.Valid (registry : NodeRegistry) (node : Node) : Prop :=
  ∃ signature, node.HasSignature registry signature ∧
    (∀ socket value input, node.literals.get? socket = some value →
      signature.input? socket = some input → input.default?.isSome = true →
      (input.type.literal? value).isSome = true) ∧
    ∀ socket declared produced, node.outputs.get? socket = some (some declared) →
      signature.outputType? socket = some produced → produced = declared

/-- A tree that makes sense. -/
structure NodeTree.Valid (registry : NodeRegistry) (tree : NodeTree) : Prop where
  /-- Every node makes sense by itself. -/
  nodes : ∀ node ∈ tree.nodes.values, node.Valid registry
  /-- Every link joins two sockets that fit. -/
  links : ∀ link ∈ tree.links, link.Fits registry tree
  /-- No input has two sources. -/
  inputs : ∀ link ∈ tree.links, ∀ link' ∈ tree.links,
    link.target = link'.target → link.source = link'.source
  /-- No node depends on itself. -/
  acyclic : ∀ id, ¬Relation.TransGen tree.Feeds id id

/-- An error names a condition that a tree violates. -/
inductive NodeTree.Violates (registry : NodeRegistry) (tree : NodeTree) : CompileError → Prop
  /-- The type of a node is not registered. -/
  | unknownNodeType {node : Node} (hnode : node ∈ tree.nodes.values)
    (hkind : registry.get? node.kind = none) :
    Violates registry tree (.unknownNodeType node.id node.kind)
  /-- A property decides about the sockets and cannot be used. -/
  | invalidProperty {node : Node} {kind : NodeKind} {property : String} {fault : PropertyFault}
    (hnode : node ∈ tree.nodes.values) (hkind : registry.get? node.kind = some kind)
    (hsignature : kind.signature node = .error (.invalidProperty node.id property fault)) :
    Violates registry tree (.invalidProperty node.id property fault)
  /-- A value is written at an input that is not a value of its type. -/
  | literal {node : Node} {signature : Signature} {socket : String} {value : Json}
    {input : InputSpec} (hnode : node ∈ tree.nodes.values)
    (hsignature : node.HasSignature registry signature)
    (hvalue : node.literals.get? socket = some value)
    (hinput : signature.input? socket = some input) (hdefault : input.default?.isSome = true)
    (hliteral : input.type.literal? value = none) :
    Violates registry tree (.malformedNode node.id (.literal socket input.type value.text))
  /-- An output is declared with another type than it has. -/
  | outputType {node : Node} {signature : Signature} {socket : String}
    {declared produced : SocketType} (hnode : node ∈ tree.nodes.values)
    (hsignature : node.HasSignature registry signature)
    (hdeclared : node.outputs.get? socket = some (some declared))
    (hproduced : signature.outputType? socket = some produced) (hne : produced ≠ declared) :
    Violates registry tree (.typeMismatch node.id socket produced declared)
  /-- A link leads from or to a node that is not there, -/
  | danglingLink {link : Link} (hlink : link ∈ tree.links)
    (hmissing : tree.nodes.get? link.source.node = none ∨
      tree.nodes.get? link.target.node = none) :
    Violates registry tree (.danglingLink link.source.path link.target.path)
  /-- from an output -/
  | unknownOutput {link : Link} {producer : Node} {signature : Signature}
    (hlink : link ∈ tree.links) (hproducer : tree.nodes.get? link.source.node = some producer)
    (hsignature : producer.HasSignature registry signature)
    (hsocket : signature.outputType? link.source.socket = none) :
    Violates registry tree (.unknownSocket link.source.node link.source.socket)
  /-- or to an input that the node does not have, -/
  | unknownInput {link : Link} {consumer : Node} {signature : Signature}
    (hlink : link ∈ tree.links) (hconsumer : tree.nodes.get? link.target.node = some consumer)
    (hsignature : consumer.HasSignature registry signature)
    (hsocket : signature.inputType? link.target.socket = none) :
    Violates registry tree (.unknownSocket link.target.node link.target.socket)
  /-- or between types that do not convert. -/
  | misfit {link : Link} {producer consumer : Node} {produced expected : SocketType}
    (hlink : link ∈ tree.links) (hproducer : tree.nodes.get? link.source.node = some producer)
    (hconsumer : tree.nodes.get? link.target.node = some consumer)
    (hproduced : producer.HasOutput registry link.source.socket produced)
    (hexpected : consumer.HasInput registry link.target.socket expected)
    (hfits : fits produced expected = false) :
    Violates registry tree
      (.typeMismatch link.target.node link.target.socket produced expected)
  /-- Two links lead to one input from different outputs. -/
  | duplicateLink {link link' : Link} {consumer : Node} (hlink : link ∈ tree.links)
    (hlink' : link' ∈ tree.links) (htarget : link.target = link'.target)
    (hsource : link.source ≠ link'.source)
    (hconsumer : tree.nodes.get? link.target.node = some consumer) :
    Violates registry tree (.duplicateLink consumer.id link.target.socket)
  /-- Some node feeds itself. -/
  | cycle {nodes : List String} {id : String} (hcycle : Relation.TransGen tree.Feeds id id) :
    Violates registry tree (.cycle nodes)

variable {registry : NodeRegistry} {tree : NodeTree} {node : Node} {signature : Signature}

/-- A node has one signature, since its type is registered once and gives the sockets of a node
without choice. -/
lemma Node.HasSignature.eq {signature' : Signature} (h : node.HasSignature registry signature)
    (h' : node.HasSignature registry signature') : signature = signature' := by
  obtain ⟨kind, hkind, hok⟩ := h
  obtain ⟨kind', hkind', hok'⟩ := h'
  obtain rfl := Option.some.inj (hkind.symm.trans hkind')
  exact Except.ok.inj (hok.symm.trans hok')

lemma Node.HasOutput.outputType?_eq {socket : String} {type : SocketType}
    (h : node.HasOutput registry socket type) (hsignature : node.HasSignature registry signature) :
    signature.outputType? socket = some type := by
  obtain ⟨signature', hsignature', htype⟩ := h
  rwa [hsignature.eq hsignature']

lemma Node.HasInput.inputType?_eq {socket : String} {type : SocketType}
    (h : node.HasInput registry socket type) (hsignature : node.HasSignature registry signature) :
    signature.inputType? socket = some type := by
  obtain ⟨signature', hsignature', htype⟩ := h
  rwa [hsignature.eq hsignature']

/-- A tree that violates a condition is not valid. -/
theorem NodeTree.Violates.not_valid {e : CompileError} (h : tree.Violates registry e) :
    ¬tree.Valid registry := by
  intro hvalid
  -- for each kind of violation, the part of validity that it contradicts
  cases h with
  | unknownNodeType hnode hkind =>
    obtain ⟨signature, ⟨kind, hkind', -⟩, -⟩ := hvalid.nodes _ hnode
    rw [hkind] at hkind'
    cases hkind'
  | invalidProperty hnode hkind hsignature =>
    obtain ⟨signature, ⟨kind', hkind', hok⟩, -⟩ := hvalid.nodes _ hnode
    obtain rfl := Option.some.inj (hkind.symm.trans hkind')
    rw [hsignature] at hok
    cases hok
  | literal hnode hsignature hvalue hinput hdefault hliteral =>
    obtain ⟨signature, hsignature', hliterals, -⟩ := hvalid.nodes _ hnode
    obtain rfl := hsignature.eq hsignature'
    have hsome := hliterals _ _ _ hvalue hinput hdefault
    rw [hliteral] at hsome
    cases hsome
  | outputType hnode hsignature hdeclared hproduced hne =>
    obtain ⟨signature, hsignature', -, houtputs⟩ := hvalid.nodes _ hnode
    obtain rfl := hsignature.eq hsignature'
    exact hne (houtputs _ _ _ hdeclared hproduced)
  | danglingLink hlink hmissing =>
    obtain ⟨producer, consumer, -, -, hproducer, hconsumer, -⟩ := hvalid.links _ hlink
    rcases hmissing with hmissing | hmissing
    · rw [hproducer] at hmissing
      cases hmissing
    · rw [hconsumer] at hmissing
      cases hmissing
  | unknownOutput hlink hproducer hsignature hsocket =>
    obtain ⟨producer', _, _, _, hproducer', -, houtput, -⟩ := hvalid.links _ hlink
    obtain rfl := Option.some.inj (hproducer.symm.trans hproducer')
    cases hsocket.symm.trans (houtput.outputType?_eq hsignature)
  | unknownInput hlink hconsumer hsignature hsocket =>
    obtain ⟨_, consumer', _, _, -, hconsumer', -, hinput, -⟩ := hvalid.links _ hlink
    obtain rfl := Option.some.inj (hconsumer.symm.trans hconsumer')
    cases hsocket.symm.trans (hinput.inputType?_eq hsignature)
  | misfit hlink hproducer hconsumer hproduced hexpected hfits =>
    obtain ⟨producer', consumer', produced', expected', hproducer', hconsumer', houtput, hinput,
      hfits'⟩ := hvalid.links _ hlink
    obtain rfl := Option.some.inj (hproducer.symm.trans hproducer')
    obtain rfl := Option.some.inj (hconsumer.symm.trans hconsumer')
    obtain ⟨signature, hsignature, htype⟩ := hproduced
    obtain ⟨signature', hsignature', htype'⟩ := hexpected
    obtain rfl := Option.some.inj (htype.symm.trans (houtput.outputType?_eq hsignature))
    obtain rfl := Option.some.inj (htype'.symm.trans (hinput.inputType?_eq hsignature'))
    cases hfits.symm.trans hfits'
  | duplicateLink hlink hlink' htarget hsource _ =>
    exact hsource (hvalid.inputs _ hlink _ hlink' htarget)
  | cycle hcycle => exact hvalid.acyclic _ hcycle

/-! ## Checking the nodes -/

/-- The check of authored values succeeds when all of them are values of their types, -/
lemma checkLiterals_eq_ok_iff {u : Unit} :
    checkLiterals node signature = .ok u ↔
      ∀ socket value input, node.literals.get? socket = some value →
        signature.input? socket = some input → input.default?.isSome = true →
        (input.type.literal? value).isSome = true := by
  rw [checkLiterals, forM_eq_ok_iff]
  constructor
  · intro h socket value input hvalue hinput hdefault
    -- the checks are over the entries of a map, the condition over its keys and values
    have hentry := h (socket, value) (OrderedMap.get?_eq_some_iff.mp hvalue)
    by_contra hnone
    rw [Signature.input?] at hinput
    simp [hinput, hdefault, Option.not_isSome_iff_eq_none.mp hnone] at hentry
  · rintro h ⟨socket, value⟩ hentry
    dsimp only
    split
    · rfl
    next input hinput =>
      have hvalue := h socket value input (OrderedMap.get?_eq_some_iff.mpr hentry) hinput
      by_cases hdefault : input.default?.isSome = true
      · obtain ⟨text, htext⟩ := Option.isSome_iff_exists.mp (hvalue hdefault)
        simp [htext]
      · simp [Bool.not_eq_true _ ▸ hdefault]

/-- and otherwise names one that is not. -/
lemma checkLiterals_eq_error {e : CompileError} (h : checkLiterals node signature = .error e) :
    ∃ socket value input, node.literals.get? socket = some value ∧
      signature.input? socket = some input ∧ input.default?.isSome = true ∧
      input.type.literal? value = none ∧
      e = .malformedNode node.id (.literal socket input.type value.text) := by
  obtain ⟨⟨socket, value⟩, hentry, hfail⟩ := exists_of_forM_eq_error h
  dsimp only at hfail
  split at hfail
  · cases hfail
  next input hinput =>
    split at hfail
    next hbad =>
      cases hfail
      obtain ⟨hdefault, hliteral⟩ := Bool.and_eq_true_iff.mp hbad
      exact ⟨socket, value, input, OrderedMap.get?_eq_some_iff.mpr hentry, hinput, hdefault,
        Option.isNone_iff_eq_none.mp hliteral, rfl⟩
    · cases hfail

/-- The check of declared outputs succeeds when all of them have the types declared, -/
lemma checkOutputs_eq_ok_iff {u : Unit} :
    checkOutputs node signature = .ok u ↔
      ∀ socket declared produced, node.outputs.get? socket = some (some declared) →
        signature.outputType? socket = some produced → produced = declared := by
  rw [checkOutputs, forM_eq_ok_iff]
  constructor
  · intro h socket declared produced hdeclared hproduced
    have hentry := h (socket, some declared) (OrderedMap.get?_eq_some_iff.mp hdeclared)
    by_contra hne
    simp [hproduced, hne] at hentry
  · rintro h ⟨socket, declared?⟩ hentry
    dsimp only
    split
    next declared produced hproduced =>
      rw [if_pos (h socket declared produced (OrderedMap.get?_eq_some_iff.mpr hentry) hproduced)]
    · rfl

/-- and otherwise names one that has another. -/
lemma checkOutputs_eq_error {e : CompileError} (h : checkOutputs node signature = .error e) :
    ∃ socket declared produced, node.outputs.get? socket = some (some declared) ∧
      signature.outputType? socket = some produced ∧ produced ≠ declared ∧
      e = .typeMismatch node.id socket produced declared := by
  obtain ⟨⟨socket, declared?⟩, hentry, hfail⟩ := exists_of_forM_eq_error h
  dsimp only at hfail
  split at hfail
  next declared produced hproduced =>
    split at hfail
    · cases hfail
    next hne =>
      cases hfail
      exact ⟨socket, declared, produced, OrderedMap.get?_eq_some_iff.mpr hentry, hproduced, hne,
        rfl⟩
  · cases hfail

/-- The signatures of the registered types fail only because of a property of the node.  A type that
blames something else could not be answered for here. -/
def NodeRegistry.FaultsAreProperties (registry : NodeRegistry) : Prop :=
  ∀ node kind e, registry.get? node.kind = some kind → kind.signature node = .error e →
    ∃ property fault, e = .invalidProperty node.id property fault

/-- A node by itself is refused for a condition that it violates, or is valid and has a station
without connections. -/
lemma Station.ofNode_cases (hnode : node ∈ tree.nodes.values) :
    (∃ e, Station.ofNode registry node = .error e ∧
      (registry.FaultsAreProperties → tree.Violates registry e)) ∨
      ∃ station, Station.ofNode registry node = .ok station ∧ station.node = node ∧
        station.IsTyped registry ∧ station.sources = ∅ ∧ node.Valid registry := by
  -- the checks in their order: type, sockets, authored values, declared outputs
  cases hkind : registry.get? node.kind with
  | none =>
    refine .inl ⟨.unknownNodeType node.id node.kind, ?_, fun _ => .unknownNodeType hnode hkind⟩
    simp [ofNode, hkind]
  | some kind =>
    cases hsignature : kind.signature node with
    | error e =>
      refine .inl ⟨e, by simp [ofNode, hkind, hsignature], fun hfaults => ?_⟩
      obtain ⟨property, fault, rfl⟩ := hfaults node kind e hkind hsignature
      exact .invalidProperty hnode hkind hsignature
    | ok signature =>
      have hhas : node.HasSignature registry signature := ⟨kind, hkind, hsignature⟩
      cases hliterals : checkLiterals node signature with
      | error e =>
        obtain ⟨socket, value, input, hvalue, hinput, hdefault, hliteral, rfl⟩ :=
          checkLiterals_eq_error hliterals
        refine .inl ⟨_, ?_, fun _ => .literal hnode hhas hvalue hinput hdefault hliteral⟩
        simp [ofNode, hkind, hsignature, hliterals]
      | ok u =>
        cases houtputs : checkOutputs node signature with
        | error e =>
          obtain ⟨socket, declared, produced, hdeclared, hproduced, hne, rfl⟩ :=
            checkOutputs_eq_error houtputs
          refine .inl ⟨_, ?_, fun _ => .outputType hnode hhas hdeclared hproduced hne⟩
          simp [ofNode, hkind, hsignature, hliterals, houtputs]
        | ok u' =>
          refine .inr ⟨{ node, kind, signature, sources := ∅, outputNames := ∅ }, ?_, rfl,
            ⟨hkind, hsignature⟩, rfl, signature, hhas, checkLiterals_eq_ok_iff.mp hliterals,
            checkOutputs_eq_ok_iff.mp houtputs⟩
          simp [ofNode, hkind, hsignature, hliterals, houtputs, pure, Except.pure]

lemma Station.of_ofNode_eq_ok {station : Station} (hnode : node ∈ tree.nodes.values)
    (h : Station.ofNode registry node = .ok station) :
    station.node = node ∧ station.IsTyped registry ∧ station.sources = ∅ ∧
      node.Valid registry := by
  rcases Station.ofNode_cases hnode with ⟨e, herror, -⟩ | ⟨station', hok, hfacts⟩
  · rw [herror] at h
    cases h
  · obtain rfl := Except.ok.inj (hok.symm.trans h)
    exact hfacts

lemma Station.exists_ofNode_eq_ok (h : node.Valid registry) :
    ∃ station, Station.ofNode registry node = .ok station := by
  obtain ⟨signature, ⟨kind, hkind, hsignature⟩, hliterals, houtputs⟩ := h
  have hliterals' : checkLiterals node signature = .ok () := checkLiterals_eq_ok_iff.mpr hliterals
  have houtputs' : checkOutputs node signature = .ok () := checkOutputs_eq_ok_iff.mpr houtputs
  refine ⟨{ node, kind, signature, sources := ∅, outputNames := ∅ }, ?_⟩
  simp [ofNode, hkind, hsignature, hliterals', houtputs', pure, Except.pure]

/-- The stations of the nodes stand where the nodes stand, and no link connects them yet: the start
of the induction over the links. -/
lemma Wired.of_mapM_ofNode {stations : List Station}
    (h : tree.nodes.values.mapM (Station.ofNode registry) = .ok stations) :
    Wired registry tree [] stations := by
  have hstations := mapM_eq_ok_iff.mp h
  have hlength := hstations.length_eq
  have hget : ∀ (i : Nat) station, stations[i]? = some station →
      ∃ node, tree.nodes.values[i]? = some node ∧ station.node = node ∧
        station.IsTyped registry ∧ station.sources = ∅ := by
    intro i station hi
    obtain ⟨hlt, rfl⟩ := List.getElem?_eq_some_iff.mp hi
    have hlt' : i < tree.nodes.values.length := hlength ▸ hlt
    obtain ⟨hnode, htyped, hsources, -⟩ :=
      Station.of_ofNode_eq_ok (List.getElem_mem hlt') (hstations.get hlt' hlt)
    exact ⟨_, List.getElem?_eq_getElem hlt', hnode, htyped, hsources⟩
  refine ⟨?_, ?_, ?_, fun link hlink => absurd hlink List.not_mem_nil⟩
  · apply List.ext_getElem?
    intro i
    rw [List.getElem?_map]
    cases hi : stations[i]? with
    | none =>
      rw [List.getElem?_eq_none_iff] at hi
      exact (List.getElem?_eq_none_iff.mpr (hlength ▸ hi)).symm
    | some station =>
      obtain ⟨node, hnode, heq, -⟩ := hget i station hi
      rw [hnode, Option.map_some, heq]
  · intro station hmem
    obtain ⟨i, hi⟩ := List.mem_iff_getElem?.mp hmem
    obtain ⟨node, -, -, htyped, -⟩ := hget i station hi
    exact htyped
  · intro i station hi socket source
    obtain ⟨node, -, -, -, hsources⟩ := hget i station hi
    rw [hsources]
    refine iff_of_false ?_ ?_
    · intro h
      cases h
    · rintro ⟨link, hlink, -⟩
      cases hlink

/-- The nodes of a tree are all valid, and have stations without connections, or one is refused. -/
lemma mapM_ofNode_cases (registry : NodeRegistry) (tree : NodeTree) :
    (∃ e, tree.nodes.values.mapM (Station.ofNode registry) = .error e ∧
      (registry.FaultsAreProperties → tree.Violates registry e)) ∨
      ∃ stations, tree.nodes.values.mapM (Station.ofNode registry) = .ok stations ∧
        Wired registry tree [] stations ∧ ∀ node ∈ tree.nodes.values, node.Valid registry := by
  cases hresult : tree.nodes.values.mapM (Station.ofNode registry) with
  | error e =>
    obtain ⟨node, hnode, hfail⟩ := exists_of_mapM_eq_error hresult
    rcases Station.ofNode_cases hnode with ⟨e', herror, hviolates⟩ | ⟨station, hok, -⟩
    · obtain rfl := Except.error.inj (herror.symm.trans hfail)
      exact .inl ⟨e', rfl, hviolates⟩
    · rw [hok] at hfail
      cases hfail
  | ok stations =>
    refine .inr ⟨stations, rfl, .of_mapM_ofNode hresult, fun node hnode => ?_⟩
    obtain ⟨i, hi⟩ := List.mem_iff_getElem?.mp hnode
    obtain ⟨hlt, rfl⟩ := List.getElem?_eq_some_iff.mp hi
    have hstations := mapM_eq_ok_iff.mp hresult
    have hlt' : i < stations.length := hstations.length_eq ▸ hlt
    obtain ⟨-, -, -, hvalid⟩ := Station.of_ofNode_eq_ok hnode (hstations.get hlt hlt')
    exact hvalid

/-! ## Checking the links -/

/-- A link that is not connected violates a condition. -/
lemma Connects.violates {links : List Link} {stations : List Station} {link : Link}
    {e : CompileError} (h : Connects registry tree stations link (.error e))
    (hwired : Wired registry tree links stations) (hlinks : ∀ l ∈ links, l ∈ tree.links)
    (hlink : link ∈ tree.links) : tree.Violates registry e := by
  cases h with
  | dangling hmissing => exact .danglingLink hlink hmissing
  | unknownOutput hproducer hsignature hsocket =>
    exact .unknownOutput hlink hproducer hsignature hsocket
  | unknownInput hconsumer hsignature hsocket =>
    exact .unknownInput hlink hconsumer hsignature hsocket
  | misfit hproducer hconsumer hproduced hexpected hfits =>
    exact .misfit hlink hproducer hconsumer hproduced hexpected hfits
  | @duplicate i j consumer existing hi hj hconsumer hexisting hne =>
    obtain ⟨link', hlink', hi', hsocket, hj', htarget⟩ :=
      (hwired.sources_iff j consumer hconsumer _ _).mp hexisting
    obtain ⟨station, hstation, hnode⟩ := hwired.station_of_indexOf? hj
    obtain rfl := Option.some.inj (hconsumer.symm.trans hstation)
    -- the input was connected by another link, which comes from elsewhere
    have hsame : link.target = link'.target := by
      have hid := NodeTree.indexOf?_inj hj hj'
      cases ht : link.target
      cases ht' : link'.target
      rw [ht, ht'] at hid htarget
      exact congrArg₂ SocketRef.mk hid htarget.symm
    refine .duplicateLink hlink (hlinks link' hlink') hsame (fun hsource => hne ?_) hnode
    rw [← hsource] at hi' hsocket
    obtain rfl := Option.some.inj (hi'.symm.trans hi)
    rw [hsocket]

/-- A network resolved from a tree: its stations are wired by the links, and the order puts every
node behind those that it reads from. -/
structure Network.Resolves (registry : NodeRegistry) (tree : NodeTree) (network : Network) :
    Prop where
  /-- The stations are the nodes, connected as the links say. -/
  wired : Wired registry tree tree.links network.stations
  /-- Nodes are evaluated behind what they read from. -/
  sorts : TopologicalOrder.Sorts (List.range network.stations.length)
    (connections network.stations) network.order

/-- What resolving a tree comes to: a network if the tree is valid, whose stations are named and
then sorted by their connections, or else an error that names a violated condition. -/
theorem Network.resolve_outcome (registry : NodeRegistry) (tree : NodeTree) (names : NamePool) :
    (∃ stations order, Network.resolve tree registry names =
        .ok (⟨(nameAll stations names).1, order⟩, (nameAll stations names).2) ∧
      tree.Valid registry ∧ Wired registry tree tree.links stations ∧
      TopologicalOrder.sort (List.range stations.length) (connections stations) = .ok order) ∨
    ∃ e, Network.resolve tree registry names = .error e ∧ ¬tree.Valid registry ∧
      (registry.FaultsAreProperties → tree.Violates registry e) := by
  rcases mapM_ofNode_cases registry tree with ⟨e, herror, hviolates⟩ |
    ⟨start, hstart, hwired, hnodes⟩
  · refine .inr ⟨e, by simp [resolve, herror], fun hvalid => ?_, hviolates⟩
    obtain ⟨node, hnode, hfail⟩ := exists_of_mapM_eq_error herror
    obtain ⟨station, hok⟩ := Station.exists_ofNode_eq_ok (hvalid.nodes node hnode)
    rw [hok] at hfail
    cases hfail
  -- the links that are connected so far are the invariant of the loop
  have hstep : ∀ done link stations stations', Wired registry tree done stations →
      connectLink tree stations link = .ok stations' →
      Wired registry tree (done ++ [link]) stations' :=
    fun _ _ _ _ hwired hconnect => hwired.connect hconnect
  rcases foldlM_cases tree.links hstep hwired with ⟨stations, hstations, hwired⟩ |
    ⟨e, before, link, after, stations, herror, hsplit, hwired, hfail⟩
  · rw [List.nil_append] at hwired
    have hnodup : (List.range stations.length).Nodup := List.nodup_range
    cases hsort : TopologicalOrder.sort (List.range stations.length) (connections stations) with
    | error cycle =>
      -- the order of nodes fails just when the connections have a cycle, and then the ids have one
      have hcyclic : ¬∀ id, ¬Relation.TransGen tree.Feeds id id := by
        rw [← hwired.acyclic_iff, ← TopologicalOrder.exists_sort_eq_ok_iff hnodup]
        rintro ⟨order, hok⟩
        rw [hsort] at hok
        cases hok
      refine .inr ⟨_, by simp [resolve, hstart, hstations, hsort]; rfl,
        fun hvalid => hcyclic hvalid.acyclic, fun _ => ?_⟩
      push Not at hcyclic
      obtain ⟨id, hcycle⟩ := hcyclic
      exact .cycle hcycle
    | ok order =>
      have hsorts := TopologicalOrder.sorts_of_sort_eq_ok hnodup hsort
      have hvalid : tree.Valid registry := {
        nodes := hnodes
        links := hwired.fits
        inputs := fun _ hlink _ hlink' => hwired.source_eq hlink hlink'
        acyclic := hwired.acyclic_iff.mp (TopologicalOrder.acyclic_of_sorts hnodup hsorts) }
      refine .inl ⟨stations, order, ?_, hvalid, hwired, hsort⟩
      simp [resolve, hstart, hstations, hsort, pure, Except.pure]
  · rw [List.nil_append] at hwired
    have hmem : ∀ l ∈ before, l ∈ tree.links := by
      intro l hl
      rw [hsplit]
      exact List.mem_append.mpr (.inl hl)
    -- a link that is refused: those before it have been connected
    have hlink : link ∈ tree.links := by
      rw [hsplit]
      simp
    have hcases := hwired.connects link
    rw [hfail] at hcases
    have hviolates := hcases.violates hwired hmem hlink
    exact .inr ⟨e, by simp [resolve, hstart, herror], hviolates.not_valid, fun _ => hviolates⟩

/-- Resolving a tree gives a network if the tree is valid, and otherwise the error names a violated
condition. -/
theorem Network.resolve_cases (registry : NodeRegistry) (tree : NodeTree) (names : NamePool) :
    (∃ network names', Network.resolve tree registry names = .ok (network, names') ∧
      tree.Valid registry ∧ network.Resolves registry tree ∧
      ∃ stations, nameAll stations names = (network.stations, names')) ∨
    ∃ e, Network.resolve tree registry names = .error e ∧
      (registry.FaultsAreProperties → tree.Violates registry e) := by
  rcases resolve_outcome registry tree names with
    ⟨stations, order, hok, hvalid, hwired, hsort⟩ | ⟨e, herror, -, hviolates⟩
  · have hsorts := TopologicalOrder.sorts_of_sort_eq_ok List.nodup_range hsort
    rw [← length_nameAll stations names, ← connections_nameAll stations names] at hsorts
    exact .inl ⟨_, _, hok, hvalid, ⟨hwired.nameAll names, hsorts⟩, stations, rfl⟩
  · exact .inr ⟨e, herror, hviolates⟩

/-- A network that is given resolves the tree, with all outputs named. -/
lemma Network.resolves_of_resolve_eq_ok {network : Network} {names names' : NamePool}
    (h : Network.resolve tree registry names = .ok (network, names')) :
    network.Resolves registry tree ∧
      ∃ stations, nameAll stations names = (network.stations, names') := by
  rcases resolve_cases registry tree names with ⟨network₁, names₁, hok, -, hresult⟩ | ⟨e, herror, -⟩
  · obtain ⟨rfl, rfl⟩ := Prod.mk.inj (Except.ok.inj (hok.symm.trans h))
    exact hresult
  · rw [herror] at h
    cases h

/-! ## The node types at hand -/

namespace NodeRegistry

/-- Registering a type adds it, under its name. -/
lemma get?_register {kind kind' : NodeKind} {name : String}
    (h : (registry.register kind).get? name = some kind') :
    kind' = kind ∨ registry.get? name = some kind' := by
  rw [get?, register, OrderedMap.get?_insert] at h
  split at h
  · exact .inl (Option.some.inj h).symm
  · exact .inr h

lemma mem_of_get?_foldl_register {kinds : List NodeKind} {kind : NodeKind} {name : String}
    (h : (kinds.foldl register registry).get? name = some kind) :
    kind ∈ kinds ∨ registry.get? name = some kind := by
  induction kinds generalizing registry with
  | nil => exact .inr h
  | cons first kinds ih =>
    rcases ih h with hmem | hget
    · exact .inl (List.mem_cons_of_mem _ hmem)
    · rcases get?_register hget with rfl | hget
      · exact .inl List.mem_cons_self
      · exact .inr hget

/-- A registered type is one of those at hand. -/
lemma mem_of_get?_builtin {kind : NodeKind} {name : String} (h : builtin.get? name = some kind) :
    kind ∈ Nodes.sources ++ Nodes.arithmetic ++ Nodes.textures ++ Nodes.outputs := by
  rcases mem_of_get?_foldl_register h with hmem | hget
  · exact hmem
  · cases hget

end NodeRegistry

/-- The defaults of the inputs are values of their types, and no two inputs and no two outputs have
one name. -/
structure Signature.Sound (signature : Signature) : Prop where
  defaults : ∀ input ∈ signature.inputs, ∀ default, input.default? = some default →
    (input.type.literal? default).isSome = true
  nodup_inputs : (signature.inputs.map InputSpec.name).Nodup
  nodup_outputs : (signature.outputs.map Prod.fst).Nodup

/-- Only a property that names no type keeps a node from mixing, and what counts for nothing is a
value of every type that is mixed. -/
lemma Nodes.mixType_cases (node : Node) :
    (∃ type, mixType node = .ok type ∧ (type.literal? (mixDefault type)).isSome = true) ∨
      ∃ fault, mixType node = .error (node.invalidProperty "data_type" fault) := by
  rw [mixType, Node.choice]
  split
  · exact .inl ⟨.vec4, rfl, rfl⟩
  · exact .inl ⟨.vec4, rfl, rfl⟩
  · rw [ok_bind]
    split
    · exact .inl ⟨_, rfl, rfl⟩
    · exact .inl ⟨_, rfl, rfl⟩
    · exact .inl ⟨_, rfl, rfl⟩
    · exact .inr ⟨_, rfl⟩
  · exact .inr ⟨_, rfl⟩

/-- A number is a value of every type. -/
lemma SocketType.isSome_literal?_real (type : SocketType) (x : Float) :
    (type.literal? (.real x)).isSome = true := by
  cases type with
  | _ => rfl

/-- A node of a type at hand has sound sockets, unless a property keeps it from mixing. -/
lemma NodeKind.signature_cases_of_mem {kind : NodeKind}
    (h : kind ∈ Nodes.sources ++ Nodes.arithmetic ++ Nodes.textures ++ Nodes.outputs)
    (node : Node) :
    (∃ signature, kind.signature node = .ok signature ∧ signature.Sound) ∨
      ∃ fault, kind.signature node = .error (node.invalidProperty "data_type" fault) := by
  have hnumber := SocketType.isSome_literal?_real
  -- mixing is the only type whose sockets depend on a property
  by_cases hmix : kind = Nodes.mix
  · subst hmix
    rcases Nodes.mixType_cases node with ⟨type, htype, hdefault⟩ | ⟨fault, hfault⟩
    · refine .inl ⟨_, bind_eq_ok_iff.mpr ⟨type, htype, rfl⟩, ?_, ?_, List.nodup_singleton _⟩
      · simp [Nodes.scalarInput, hnumber, hdefault]
      · simp [Nodes.scalarInput]
    · exact .inr ⟨fault, bind_eq_error_iff.mpr (.inl hfault)⟩
  · -- the defaults of all other types are numbers, or one of two lists of numbers
    have hzero : (SocketType.vec3.literal? Nodes.zeroVector).isSome = true := rfl
    have hwhite : (SocketType.vec4.literal?
        (.array [.real 1, .real 1, .real 1, .real 1])).isSome = true := rfl
    simp only [Nodes.sources, Nodes.arithmetic, Nodes.textures, Nodes.outputs, List.cons_append,
      List.nil_append, List.mem_cons, List.not_mem_nil, or_false, hmix, false_or] at h
    rcases h with rfl | rfl | rfl | rfl | rfl | rfl | rfl | rfl | rfl | rfl | rfl | rfl | rfl |
      rfl | rfl | rfl | rfl | rfl | rfl
    all_goals
      refine .inl ⟨_, rfl, ?_, ?_, ?_⟩
      · simp [Nodes.scalarInput, hnumber, hzero, hwhite]
      · simp [Nodes.scalarInput]
      · simp

/-- The sockets of every node of a type at hand are sound. -/
lemma NodeKind.sound_of_mem {kind : NodeKind}
    (h : kind ∈ Nodes.sources ++ Nodes.arithmetic ++ Nodes.textures ++ Nodes.outputs)
    {node : Node} (hsignature : kind.signature node = .ok signature) : signature.Sound := by
  rcases kind.signature_cases_of_mem h node with ⟨signature', hok, hsound⟩ | ⟨fault, herror⟩
  · obtain rfl := Except.ok.inj (hok.symm.trans hsignature)
    exact hsound
  · rw [hsignature] at herror
    cases herror

lemma NodeRegistry.builtin_faultsAreProperties : builtin.FaultsAreProperties := by
  intro node kind e hkind hfail
  rcases kind.signature_cases_of_mem (mem_of_get?_builtin hkind) node with
    ⟨signature, hok, -⟩ | ⟨fault, herror⟩
  · rw [hfail] at hok
    cases hok
  · obtain rfl := Except.error.inj (herror.symm.trans hfail)
    exact ⟨"data_type", fault, rfl⟩

/-- With the node types at hand, exactly the valid trees are resolved, and the error about another
tree names a condition that it violates. -/
theorem Network.resolve_builtin_iff (tree : NodeTree) (names : NamePool) :
    ((∃ network names', Network.resolve tree .builtin names = .ok (network, names')) ↔
      tree.Valid .builtin) ∧
    ∀ e, Network.resolve tree .builtin names = .error e → tree.Violates .builtin e := by
  rcases resolve_cases .builtin tree names with
    ⟨network, names', hok, hvalid, -⟩ | ⟨e, herror, hviolates⟩
  · refine ⟨iff_of_true ⟨network, names', hok⟩ hvalid, fun e herror => ?_⟩
    rw [hok] at herror
    cases herror
  · have hviolates := hviolates NodeRegistry.builtin_faultsAreProperties
    refine ⟨iff_of_false ?_ hviolates.not_valid, fun e' herror' => ?_⟩
    · rintro ⟨network, names', hok⟩
      rw [hok] at herror
      cases herror
    · obtain rfl := Except.error.inj (herror.symm.trans herror')
      exact hviolates

/-- Two nodes that feed each other. -/
def NodeTree.loop : NodeTree where
  nodes := .ofList [("a", ⟨"a", "reroute", ∅, ∅, []⟩), ("b", ⟨"b", "reroute", ∅, ∅, []⟩)]
  links := [⟨⟨"a", "output"⟩, ⟨"b", "input"⟩⟩, ⟨⟨"b", "output"⟩, ⟨"a", "input"⟩⟩]

theorem Network.resolve_loop :
    Network.resolve .loop .builtin .empty = .error (.cycle ["a", "b"]) ∧
      NodeTree.loop.Violates .builtin (.cycle ["a", "b"]) := by
  have herror : Network.resolve .loop .builtin .empty = .error (.cycle ["a", "b"]) := by rfl
  exact ⟨herror, (Network.resolve_builtin_iff .loop .empty).2 _ herror⟩

end SceneEngine.Shading
