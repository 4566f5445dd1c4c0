import SceneEngine.Proofs.Shading.Names
import SceneEngine.Proofs.Shading.Needed

/-!
# The order of links

A tree lists its links in some order, and may list one several times; and in a document a link can
be written at the input that it leads to, or in the list.  None of this means anything.  This module
shows that none of it shows in the result of a compile: not in the texts of the programs, not in
what they declare, and not in whether there is an error (`ShaderCompiler.compile_eq_of_sameLinks`).

## Stations

Trees with the same nodes and the same set of links are valid together.  Links are connected one
after another, and connecting an input again to the output that feeds it already changes nothing, so
stations that are wired by the same links differ at most in the order in which their inputs were
connected (`Wired.alike`).  This order is still there in the table of sources that each station has,
and everything that reads the table has to be looked at.

## Where the order could show

* The nodes are sorted along the connections of the stations, which are listed by consumer.  What
  the sort reads of them is how often each node feeds another, in this order of consumers, and the
  order within one consumer cannot be seen (`children_connections`).
* Names are given out by nodes and sockets, not by sources (`nameAll_congr`).
* The search for the nodes behind a root may meet them in another order, but finds the same ones,
  and they are put into the order of the network afterwards (`Network.Agrees.needed_eq`).
* Operands are looked up by the name of the input.

So the networks agree (`Network.Agrees`), and everything computed from them is equal.

## Documents

Links that are written at an input move to the list of links while a document is read.
`NodeTree.HasAlso` relates the trees read so far from two documents of which one lists what the
other writes at an input, and it is kept by each node that is read (`ListsLinks.ofJson`).  Two runs
are compared with `Parallel`, which asks that both are refused or that both give a result, and the
results are related.  Which error is reported may differ: it is the first one that is met, and links
are met in their order.
-/

namespace SceneEngine.Shading

/-- Two trees of the same nodes and the same links, in any order and any number. -/
structure NodeTree.SameLinks (tree tree' : NodeTree) : Prop where
  /-- The nodes are the same, in the same order. -/
  nodes_eq : tree.nodes = tree'.nodes
  /-- A link is in one exactly if it is in the other. -/
  mem_links_iff : ∀ link, link ∈ tree.links ↔ link ∈ tree'.links

variable {registry : NodeRegistry} {tree tree' : NodeTree} {stations stations' : List Station}
  {station station' : Station} {links : List Link}

namespace NodeTree.SameLinks

/-- Having the same links is mutual. -/
lemma symm (h : tree.SameLinks tree') : tree'.SameLinks tree :=
  ⟨h.nodes_eq.symm, fun link => (h.mem_links_iff link).symm⟩

variable (h : tree.SameLinks tree')
include h

lemma indexOf?_eq : tree.indexOf? = tree'.indexOf? := by
  funext id
  rw [indexOf?, indexOf?, h.nodes_eq]

/-- What feeds what. -/
lemma feeds_eq : tree.Feeds = tree'.Feeds := by
  funext producer consumer
  simp only [Feeds, h.mem_links_iff]

lemma fits_iff (link : Link) : link.Fits registry tree ↔ link.Fits registry tree' := by
  unfold Link.Fits
  rw [h.nodes_eq]

lemma joins_iff (link : Link) {source : Source} {target : Nat} {socket : String} :
    link.Joins tree source target socket ↔ link.Joins tree' source target socket := by
  unfold Link.Joins
  rw [h.indexOf?_eq]

/-- What makes a tree valid speaks of its links as a set. -/
lemma valid (hvalid : tree.Valid registry) : tree'.Valid registry where
  nodes := h.nodes_eq ▸ hvalid.nodes
  links link hlink := (h.fits_iff link).mp (hvalid.links link ((h.mem_links_iff link).mpr hlink))
  inputs link hlink link' hlink' := hvalid.inputs link ((h.mem_links_iff link).mpr hlink)
    link' ((h.mem_links_iff link').mpr hlink')
  acyclic := h.feeds_eq ▸ hvalid.acyclic

lemma wired (hwired : Wired registry tree tree.links stations) :
    Wired registry tree' tree'.links stations where
  nodes_eq := h.nodes_eq ▸ hwired.nodes_eq
  typed := hwired.typed
  sources_iff j station hstation socket source := by
    rw [hwired.sources_iff j station hstation]
    simp only [h.joins_iff, h.mem_links_iff]
  fits link hlink :=
    (h.fits_iff link).mp (hwired.fits link ((h.mem_links_iff link).mpr hlink))

end NodeTree.SameLinks

/-! ## Stations -/

/-- Two stations that differ at most in the order in which their inputs were connected, and in the
names of their outputs.  Names are given out only afterwards. -/
structure Station.Alike (station station' : Station) : Prop where
  /-- They hold the same node, -/
  node_eq : station.node = station'.node
  /-- of the same type -/
  kind_eq : station.kind = station'.kind
  /-- with the same sockets, -/
  signature_eq : station.signature = station'.signature
  /-- and every input reads the same source. -/
  get?_sources : ∀ socket, station.sources.get? socket = station'.sources.get? socket

/-- Links wire a tree in one way, up to the order in which inputs are connected. -/
lemma Wired.alike (h : Wired registry tree links stations)
    (h' : Wired registry tree links stations') : List.Forall₂ Station.Alike stations stations' := by
  -- station by station: the node in this position is the same, and the type and sockets follow from
  -- it
  refine List.forall₂_iff_get.mpr ⟨h.length_eq.trans h'.length_eq.symm, fun i hi hi' => ?_⟩
  have hstation : stations[i]? = some stations[i] := List.getElem?_eq_getElem hi
  have hstation' : stations'[i]? = some stations'[i] := List.getElem?_eq_getElem hi'
  have hnode : stations[i].node = stations'[i].node := by
    have hnodes := congrArg (·[i]?) (h.nodes_eq.trans h'.nodes_eq.symm)
    simpa [hstation, hstation'] using hnodes
  obtain ⟨hkind, hsignature⟩ := h.typed _ (List.mem_of_getElem? hstation)
  obtain ⟨hkind', hsignature'⟩ := h'.typed _ (List.mem_of_getElem? hstation')
  have hkinds : stations[i].kind = stations'[i].kind := by
    rw [hnode] at hkind
    exact Option.some.inj (hkind.symm.trans hkind')
  refine ⟨hnode, hkinds, ?_, fun socket => ?_⟩
  · rw [hnode, hkinds] at hsignature
    exact Except.ok.inj (hsignature.symm.trans hsignature')
  · refine Option.ext fun source => ?_
    rw [List.get_eq_getElem, List.get_eq_getElem, h.sources_iff i _ hstation,
      h'.sources_iff i _ hstation']

/-- The sources are the same, in some order. -/
lemma Station.Alike.perm_sources (h : station.Alike station') :
    station.sources.values.Perm station'.sources.values :=
  (OrderedMap.perm_entries h.get?_sources).map Prod.snd

/-- What a station reads from the one in position `v`, once for each input, written as connections
are. -/
def childrenAt (v : Nat) (entry : Station × Nat) : List Nat :=
  List.replicate (entry.1.sources.values.countP (·.node == v)) entry.2

/-- Connections are listed by consumer, so the order within a consumer does not show: what is read
from one station is listed as often as it is read, for one consumer after another. -/
lemma children_connections (stations : List Station) (v : Nat) :
    TopologicalOrder.children (connections stations) v =
      stations.zipIdx.flatMap (childrenAt v) := by
  rw [TopologicalOrder.children, connections, List.filter_flatMap, List.map_flatMap]
  refine List.flatMap_congr fun entry _ => ?_
  obtain ⟨station, i⟩ := entry
  rw [List.filter_map, List.map_map, childrenAt, List.countP_eq_length_filter]
  exact List.map_const' ..

lemma flatMap_childrenAt_congr (h : List.Forall₂ Station.Alike stations stations') (v k : Nat) :
    (stations.zipIdx k).flatMap (childrenAt v) = (stations'.zipIdx k).flatMap (childrenAt v) := by
  induction h generalizing k with
  | nil => rfl
  | cons hfirst _ ih =>
    rw [List.zipIdx_cons, List.zipIdx_cons, List.flatMap_cons, List.flatMap_cons, ih, childrenAt,
      childrenAt, hfirst.perm_sources.countP_eq]

/-- Sorting does not depend on the order in which inputs are connected. -/
lemma sort_connections_congr (h : List.Forall₂ Station.Alike stations stations') :
    TopologicalOrder.sort (List.range stations.length) (connections stations) =
      TopologicalOrder.sort (List.range stations'.length) (connections stations') := by
  rw [h.length_eq]
  refine TopologicalOrder.sort_congr fun v => ?_
  rw [children_connections, children_connections, flatMap_childrenAt_congr h]

/-! ## Networks -/

/-- Two stations that differ at most in the order in which their inputs were connected. -/
structure Station.Agrees (station station' : Station) : Prop extends
    station.Alike station' where
  outputNames_eq : station.outputNames = station'.outputNames

lemma nameAll_cons (station : Station) (stations : List Station) (names : NamePool) :
    nameAll (station :: stations) names =
      ((station.nameOutputs names).1 :: (nameAll stations (station.nameOutputs names).2).1,
        (nameAll stations (station.nameOutputs names).2).2) :=
  rfl

/-- Names are given out by nodes and sockets, so stations that are alike get the same. -/
lemma nameAll_congr (h : List.Forall₂ Station.Alike stations stations') (names : NamePool) :
    List.Forall₂ Station.Agrees (nameAll stations names).1 (nameAll stations' names).1 ∧
      (nameAll stations names).2 = (nameAll stations' names).2 := by
  -- along both lists of stations, with the pool that the earlier ones leave
  induction h generalizing names with
  | nil => exact ⟨.nil, rfl⟩
  | @cons station station' stations stations' hfirst _ ih =>
    have hpool : (station.nameOutputs names).2 = (station'.nameOutputs names).2 := by
      rw [Station.nameOutputs, Station.nameOutputs, hfirst.signature_eq, hfirst.node_eq]
    have hnamed : (station.nameOutputs names).1.Agrees (station'.nameOutputs names).1 := {
      node_eq := hfirst.node_eq
      kind_eq := hfirst.kind_eq
      signature_eq := hfirst.signature_eq
      get?_sources := hfirst.get?_sources
      outputNames_eq := by
        simp only [Station.nameOutputs, hfirst.signature_eq, hfirst.node_eq] }
    obtain ⟨hrest, hpools⟩ := ih (station.nameOutputs names).2
    rw [nameAll_cons, nameAll_cons, ← hpool]
    exact ⟨.cons hnamed hrest, hpools⟩

lemma head?_cases (h : List.Forall₂ Station.Agrees stations stations') :
    (stations.head? = none ∧ stations'.head? = none) ∨
      ∃ station station', stations.head? = some station ∧ stations'.head? = some station' ∧
        station.Agrees station' := by
  cases h with
  | nil => exact .inl ⟨rfl, rfl⟩
  | cons hfirst _ => exact .inr ⟨_, _, rfl, rfl, hfirst⟩

/-- Two networks that differ at most in the order in which inputs were connected.  Everything that a
compile reads of a network is the same for both. -/
structure Network.Agrees (network network' : Network) : Prop where
  /-- Stations agree one by one, -/
  stations : List.Forall₂ Station.Agrees network.stations network'.stations
  /-- and are evaluated in the same order. -/
  order_eq : network.order = network'.order

namespace Network.Agrees

variable {network network' : Network} (h : network.Agrees network')
include h

lemma getElem?_cases (i : Nat) :
    (network.stations[i]? = none ∧ network'.stations[i]? = none) ∨
      ∃ station station', network.stations[i]? = some station ∧
        network'.stations[i]? = some station' ∧ station.Agrees station' := by
  by_cases hi : i < network.stations.length
  · have hi' : i < network'.stations.length := h.stations.length_eq ▸ hi
    exact .inr ⟨_, _, List.getElem?_eq_getElem hi, List.getElem?_eq_getElem hi',
      h.stations.get hi hi'⟩
  · have hi' : ¬i < network'.stations.length := h.stations.length_eq ▸ hi
    exact .inl ⟨List.getElem?_eq_none (Nat.le_of_not_lt hi),
      List.getElem?_eq_none (Nat.le_of_not_lt hi')⟩

/-- The variable and type of an output. -/
lemma output_eq : network.output = network'.output := by
  funext i socket
  rcases h.getElem?_cases i with ⟨hnone, hnone'⟩ | ⟨station, station', hstation, hstation', hagrees⟩
  · rw [output, output, hnone, hnone']
  · rw [output, output, hstation, hstation']
    simp only [hagrees.outputNames_eq, hagrees.signature_eq, hagrees.node_eq]

lemma feeds_eq : network.Feeds = network'.Feeds := by
  funext producer consumer
  rcases h.getElem?_cases consumer with
    ⟨hnone, hnone'⟩ | ⟨station, station', hstation, hstation', hagrees⟩
  · rw [Feeds, Feeds, producers, producers, hnone, hnone']
  · rw [feeds_iff_of_getElem? hstation, feeds_iff_of_getElem? hstation']
    simp only [hagrees.perm_sources.mem_iff]

/-- The searches may find the nodes in different orders, but they find the same nodes. -/
lemma contains_closure_eq (seeds : List Nat) :
    (network.closure seeds).contains = (network'.closure seeds).contains := by
  funext i
  rw [Bool.eq_iff_iff, List.contains_iff_mem, List.contains_iff_mem, mem_closure_iff,
    mem_closure_iff, h.feeds_eq]

/-- The nodes behind some seeds, in the order of the network. -/
lemma needed_eq : network.needed = network'.needed := by
  funext seeds
  rw [needed, needed, h.order_eq, h.contains_closure_eq]

/-! ### Roots -/

lemma activeOutput?_cases :
    (activeOutput? network = none ∧ activeOutput? network' = none) ∨
      ∃ station station', activeOutput? network = some station ∧
        activeOutput? network' = some station' ∧ station.Agrees station' := by
  let isOutput (station : Station) : Bool := station.kind.name == Nodes.outputMaterialName
  let isActive (station : Station) : Bool := station.node.isSwitchedOn "is_active_output" false
  have houtputs : List.Forall₂ Station.Agrees (network.stations.filter isOutput)
      (network'.stations.filter isOutput) :=
    List.rel_filter (fun _ _ hagrees => by simp only [isOutput, hagrees.kind_eq]) h.stations
  have hactives : List.Forall₂ Station.Agrees
      ((network.stations.filter isOutput).filter isActive)
      ((network'.stations.filter isOutput).filter isActive) :=
    List.rel_filter (fun _ _ hagrees => by simp only [isActive, hagrees.node_eq]) houtputs
  rw [activeOutput?, activeOutput?, ← List.head?_filter, ← List.head?_filter]
  rcases head?_cases hactives with ⟨hnone, hnone'⟩ | ⟨station, station', hhead, hhead', hagrees⟩
  · rw [hnone, hnone', Option.none_or, Option.none_or]
    exact head?_cases houtputs
  · rw [hhead, hhead', Option.some_or, Option.some_or]
    exact .inr ⟨station, station', rfl, rfl, hagrees⟩

/-- The roots that are found when none are given. -/
lemma inferRoots_eq : inferRoots network = inferRoots network' := by
  rcases h.activeOutput?_cases with
    ⟨hnone, hnone'⟩ | ⟨station, station', hstation, hstation', hagrees⟩
  · rw [inferRoots, inferRoots, hnone, hnone']
  · rw [inferRoots, inferRoots, hstation, hstation']
    simp only [hagrees.get?_sources]

/-- What a root is resolved to. -/
lemma resolveRoot_eq : resolveRoot network = resolveRoot network' := by
  funext found request
  have hid : network.stations[request.source.node]?.map (·.node.id) =
      network'.stations[request.source.node]?.map (·.node.id) := by
    rcases h.getElem?_cases request.source.node with
      ⟨hnone, hnone'⟩ | ⟨station, station', hstation, hstation', hagrees⟩
    · rw [hnone, hnone']
    · rw [hstation, hstation', Option.map_some, Option.map_some, hagrees.node_eq]
  rw [resolveRoot, resolveRoot, h.output_eq, hid]

/-! ### Evaluation -/

lemma operandsOf_eq (hstation : station.Agrees station') :
    operandsOf network station = operandsOf network' station' := by
  have hoperand : operandOf network station = operandOf network' station' := by
    funext input
    rw [operandOf, operandOf, hstation.get?_sources, h.output_eq, hstation.node_eq]
  rw [operandsOf, operandsOf, hoperand, hstation.signature_eq, hstation.node_eq]

lemma outputStatements_eq (index : Nat) :
    outputStatements network index = outputStatements network' index := by
  funext outputs
  induction outputs with
  | nil => rfl
  | cons output outputs ih => rw [outputStatements, outputStatements, h.output_eq, ih]

lemma evaluateNode_eq (library : FragmentLibrary) (stage : Stage) (index : Nat)
    (hstation : station.Agrees station') :
    evaluateNode library network stage index station =
      evaluateNode library network' stage index station' := by
  funext declarations names
  rw [evaluateNode, evaluateNode, h.operandsOf_eq hstation, h.outputStatements_eq,
    hstation.node_eq, hstation.kind_eq, hstation.signature_eq]

/-- Evaluating nodes has the same result or the same error. -/
lemma evaluate_eq (library : FragmentLibrary) (stage : Stage) :
    evaluate library network stage = evaluate library network' stage := by
  funext indices
  induction indices with
  | nil => rfl
  | cons index indices ih =>
    funext declarations names
    rcases h.getElem?_cases index with
      ⟨hnone, hnone'⟩ | ⟨station, station', hstation, hstation', hagrees⟩
    · rw [evaluate, evaluate, hnone, hnone']
    · rw [evaluate, evaluate, hstation, hstation']
      simp only [h.evaluateNode_eq library stage index hagrees, ih]

end Network.Agrees

/-! ## Compiling -/

/-- Trees of the same nodes and links are both refused, or have networks that agree. -/
lemma NodeTree.SameLinks.resolve (h : tree.SameLinks tree') (registry : NodeRegistry)
    (names : NamePool) :
    Parallel (fun result result' => result.1.Agrees result'.1 ∧ result.2 = result'.2)
      (Network.resolve tree registry names) (Network.resolve tree' registry names) := by
  rcases Network.resolve_outcome registry tree names with
    ⟨stations, order, hok, hvalid, hwired, hsort⟩ | ⟨e, herror, hinvalid, -⟩
  · rcases Network.resolve_outcome registry tree' names with
      ⟨stations', order', hok', -, hwired', hsort'⟩ | ⟨e', -, hinvalid', -⟩
    · have halike := (h.wired hwired).alike hwired'
      obtain ⟨hagrees, hnames⟩ := nameAll_congr halike names
      rw [sort_connections_congr halike, hsort'] at hsort
      rw [hok, hok']
      exact .given ⟨⟨hagrees, (Except.ok.inj hsort).symm⟩, hnames⟩
    · exact absurd (h.valid hvalid) hinvalid'
  · rcases Network.resolve_outcome registry tree' names with
      ⟨-, -, -, hvalid', -⟩ | ⟨e', herror', -, -⟩
    · exact absurd (h.symm.valid hvalid') hinvalid
    · rw [herror, herror']
      exact .refused e e'

lemma resolveRoots_congr (h : tree.SameLinks tree') {network network' : Network}
    (hagrees : network.Agrees network') (roots : List Root) :
    resolveRoots tree network roots = resolveRoots tree' network' roots := by
  have hfind : findRoots tree roots = findRoots tree' roots := by
    rw [findRoots, findRoots, h.indexOf?_eq]
  rw [resolveRoots, resolveRoots, hfind, hagrees.inferRoots_eq, hagrees.resolveRoot_eq]

/-- Trees of the same nodes and links are both refused, or have the same result. -/
lemma NodeTree.SameLinks.compile (h : tree.SameLinks tree') (compiler : ShaderCompiler)
    (roots : List Root) :
    Parallel Eq (compiler.compile tree roots) (compiler.compile tree' roots) := by
  refine (h.resolve compiler.nodes .empty).bind fun (network, names) (network', names') hsame => ?_
  obtain ⟨hagrees, rfl⟩ := hsame
  simp only [resolveRoots_congr h hagrees, hagrees.needed_eq, hagrees.evaluate_eq,
    hagrees.contains_closure_eq]
  exact .refl (fun _ => rfl) _

/-! ## Documents -/

/-- A tree has the nodes of another one, its links, and those that were moved. -/
structure NodeTree.HasAlso (moved : List Link) (tree tree' : NodeTree) : Prop where
  /-- The nodes are the same, -/
  nodes_eq : tree.nodes = tree'.nodes
  /-- and the links are, but for those that were moved. -/
  mem_links_iff : ∀ link, link ∈ tree.links ↔ link ∈ tree'.links ∨ link ∈ moved

/-- What is written at one input, added to what was read before. -/
def readInput (id : String) (read : OrderedMap String Json × List Link) (entry : String × Json) :
    Except NodeFault (OrderedMap String Json × List Link) := do
  let socket := Identifier.socketKey entry.1
  match ← InputEntry.ofJson entry.2 with
  | .literal value => return (read.1.insert socket value, read.2)
  | .linked sources =>
    return (read.1, read.2 ++ sources.map fun source => ⟨source, .normalized id socket⟩)

lemma readInputs_eq (id : String) (inputs : List (String × Json)) :
    readInputs id inputs = inputs.foldlM (readInput id) (∅, []) := rfl

/-- What else is written at the inputs does not depend on the links found before. -/
lemma parallel_readInput {moved : List Link} {id : String}
    {read read' : OrderedMap String Json × List Link} (hliterals : read.1 = read'.1)
    (hlinks : ∀ link, link ∈ read.2 ↔ link ∈ read'.2 ∨ link ∈ moved) (entry : String × Json) :
    Parallel (fun read read' => read.1 = read'.1 ∧
        ∀ link, link ∈ read.2 ↔ link ∈ read'.2 ∨ link ∈ moved)
      (readInput id read entry) (readInput id read' entry) := by
  refine (Parallel.refl (fun _ => rfl) (InputEntry.ofJson entry.2)).bind
    fun written written' h => ?_
  subst h
  cases written with
  | literal value => exact .given ⟨by rw [hliterals], hlinks⟩
  | linked sources =>
    refine .given ⟨hliterals, fun link => ?_⟩
    rw [List.mem_append, List.mem_append, hlinks]
    tauto

/-- An input that holds links adds them, and nothing else. -/
lemma parallel_readInputs {moved : List Link} {id name : String} {input : Json}
    {sources : List SocketRef} (hinput : InputEntry.ofJson input = .ok (.linked sources))
    (hmoved : moved = sources.map fun source => ⟨source, .normalized id name⟩)
    (inputs inputs' : List (String × Json)) :
    Parallel (fun read read' => read.1 = read'.1 ∧
        ∀ link, link ∈ read.2 ↔ link ∈ read'.2 ∨ link ∈ moved)
      (readInputs id (inputs ++ (name, input) :: inputs')) (readInputs id (inputs ++ inputs')) := by
  rw [readInputs_eq, readInputs_eq, List.foldlM_append, List.foldlM_append]
  refine (Parallel.refl (fun _ => rfl) (inputs.foldlM (readInput id) (∅, []))).bind
    fun read read' h => ?_
  subst h
  -- the additional input is the one that holds the links; it adds just them
  have hread : readInput id read (name, input) = .ok (read.1, read.2 ++ moved) := by
    rw [readInput, hinput, ok_bind, hmoved]
    simp only [SocketRef.normalized, Identifier.socketKey_socketKey]
    rfl
  rw [List.foldlM_cons, hread, ok_bind]
  refine Parallel.foldlM (fun read read' h entry _ => ?_) ⟨rfl, fun link => List.mem_append⟩
  exact parallel_readInput h.1 h.2 entry

lemma addEntry_eq {entry : NodeEntry} {json : Json} (hentry : NodeEntry.ofJson? json = some entry)
    (tree : NodeTree) (position : Nat) (key? : Option String) :
    tree.addEntry position key? json = do
      let id ← entry.id key? position
      if h : id ∈ tree.nodes.keys then .error (.duplicateNode id)
      else
        let (literals, links) ← (readInputs id entry.inputs).mapError (.malformedNode id)
        let outputs ← (readOutputs entry.outputs).mapError (.malformedNode id)
        let node : Node :=
          { id, kind := entry.kind, literals, outputs, properties := entry.properties }
        return { nodes := tree.nodes.push id node h, links := tree.links ++ links } := by
  rw [NodeTree.addEntry, hentry]

/-- Adding the same node to both trees. -/
lemma NodeTree.HasAlso.addEntry {moved : List Link} (h : NodeTree.HasAlso moved tree tree')
    (position : Nat) (key? : Option String) (json : Json) :
    Parallel (NodeTree.HasAlso moved) (tree.addEntry position key? json)
      (tree'.addEntry position key? json) := by
  obtain ⟨nodes, links⟩ := tree
  obtain ⟨nodes', links'⟩ := tree'
  obtain ⟨rfl, hlinks⟩ := h
  cases hentry : NodeEntry.ofJson? json with
  | none =>
    rw [NodeTree.addEntry, NodeTree.addEntry, hentry]
    exact .refused _ _
  | some entry =>
    rw [addEntry_eq hentry, addEntry_eq hentry]
    refine (Parallel.refl (fun _ => rfl) (entry.id key? position)).bind fun id _ h => ?_
    subst h
    dsimp only
    -- both trees refuse an id that they have, and they have the same ids
    split
    · exact .refused _ _
    refine (Parallel.refl (fun _ => rfl) _).bind fun written _ h => ?_
    subst h
    obtain ⟨literals, found⟩ := written
    refine (Parallel.refl (fun _ => rfl) _).bind fun outputs _ h => ?_
    subst h
    refine .given ⟨rfl, fun link => ?_⟩
    rw [List.mem_append, List.mem_append, hlinks]
    tauto

/-- Reading the same nodes into both trees. -/
lemma NodeTree.HasAlso.addEntries {moved : List Link} (h : NodeTree.HasAlso moved tree tree')
    (entries : List (Option String × Json)) (position : Nat) :
    Parallel (NodeTree.HasAlso moved) (tree.addEntries position entries)
      (tree'.addEntries position entries) := by
  induction entries generalizing tree tree' position with
  | nil => exact .given h
  | cons entry entries ih =>
    exact (h.addEntry position entry.1 entry.2).bind fun _ _ h => ih h (position + 1)

/-- Adding a node without links that are written at one of its inputs. -/
lemma parallel_addEntry {moved : List Link} {entry : NodeEntry} {json json' : Json}
    {inputs inputs' : List (String × Json)} {id name : String} {input : Json}
    {sources : List SocketRef} {key? : Option String} {position : Nat}
    (hentry : NodeEntry.ofJson? json =
      some { entry with inputs := inputs ++ (name, input) :: inputs' })
    (hentry' : NodeEntry.ofJson? json' = some { entry with inputs := inputs ++ inputs' })
    (hid : entry.id key? position = .ok id)
    (hinput : InputEntry.ofJson input = .ok (.linked sources))
    (hmoved : moved = sources.map fun source => ⟨source, .normalized id name⟩) (tree : NodeTree) :
    Parallel (NodeTree.HasAlso moved) (tree.addEntry position key? json)
      (tree.addEntry position key? json') := by
  rw [addEntry_eq hentry, addEntry_eq hentry']
  have hid₁ :
      NodeEntry.id { entry with inputs := inputs ++ (name, input) :: inputs' } key? position =
      .ok id := hid
  have hid₂ : NodeEntry.id { entry with inputs := inputs ++ inputs' } key? position = .ok id := hid
  rw [hid₁, hid₂, ok_bind, ok_bind]
  split
  · exact .refused _ _
  refine ((parallel_readInputs hinput hmoved inputs inputs').mapError _).bind
    fun written written' hwritten => ?_
  -- the inputs were read alike but for the links that were moved
  obtain ⟨literals, found⟩ := written
  obtain ⟨literals', found'⟩ := written'
  obtain ⟨hliterals, hfound⟩ := hwritten
  dsimp only at hliterals hfound ⊢
  subst hliterals
  refine (Parallel.refl (fun _ => rfl) _).bind fun outputs _ h => ?_
  subst h
  refine .given ⟨rfl, fun link => ?_⟩
  rw [List.mem_append, List.mem_append, hfound]
  tauto

/-- Nodes are read one after another, and positions are counted on. -/
lemma addEntries_append (tree : NodeTree) (position : Nat)
    (before after : List (Option String × Json)) :
    tree.addEntries position (before ++ after) = tree.addEntries position before >>= fun tree =>
      tree.addEntries (position + before.length) after := by
  induction before generalizing tree position with
  | nil => rfl
  | cons entry before ih =>
    rw [List.cons_append, NodeTree.addEntries, NodeTree.addEntries, bind_assoc]
    refine congrArg _ (funext fun next => ?_)
    rw [ih, List.length_cons, Nat.add_right_comm, Nat.add_assoc]

/-- The second document lists links beside its nodes that the first has at an input, and is the same
otherwise.  The links of one input are moved; to move those of several, the relation is used as
often. -/
inductive ListsLinks (document document' : Json) : Prop
  | intro (moved : List Link) {json json' input : Json} {key? : Option String} {id name : String}
    {before after : List (Option String × Json)} {entry : NodeEntry}
    {inputs inputs' : List (String × Json)} {sources : List SocketRef} {links links' : List Link}
    (hentries : nodeEntries document = .ok (before ++ (key?, json) :: after))
    (hentries' : nodeEntries document' = .ok (before ++ (key?, json') :: after))
    (hentry : NodeEntry.ofJson? json =
      some { entry with inputs := inputs ++ (name, input) :: inputs' })
    (hentry' : NodeEntry.ofJson? json' = some { entry with inputs := inputs ++ inputs' })
    (hid : entry.id key? before.length = .ok id)
    (hinput : InputEntry.ofJson input = .ok (.linked sources))
    (hlinks : listedLinks document = .ok links) (hlinks' : listedLinks document' = .ok links')
    (hmoved : moved = sources.map fun source => ⟨source, .normalized id name⟩)
    (hlisted : ∀ link, link ∈ links' ↔ link ∈ links ∨ link ∈ moved)

/-- Whether links are written at inputs or listed, the tree has the same nodes and links. -/
lemma ListsLinks.ofJson {document document' : Json} (h : ListsLinks document document') :
    Parallel NodeTree.SameLinks (NodeTree.ofJson document) (NodeTree.ofJson document') := by
  cases h with
  | intro moved hentries hentries' hentry hentry' hid hinput hlinks hlinks' hmoved hlisted =>
    rw [NodeTree.ofJson, NodeTree.ofJson, hentries, hentries', hlinks, hlinks']
    simp only [Except.mapError, ok_bind, addEntries_append, Nat.zero_add]
    -- first the nodes are read, which leaves the moved links missing in the second tree; then the
    -- lists of links are added, which has them
    refine Parallel.bind (R := NodeTree.HasAlso moved) ?_ fun tree tree' h => ?_
    · refine (Parallel.refl (fun _ => rfl) _).bind fun tree _ h => ?_
      subst h
      exact (parallel_addEntry hentry hentry' hid hinput hmoved tree).bind
        fun _ _ h => h.addEntries _ _
    · refine .given ⟨h.nodes_eq, fun link => ?_⟩
      rw [List.mem_append, List.mem_append, h.mem_links_iff, hlisted]
      tauto

namespace ShaderCompiler

/-- Compiling does not depend on how links are written.  Trees of the same nodes and links are both
refused or have the same result, for the same roots; and so are documents that differ in whether
links are written at an input or listed. -/
theorem compile_eq_of_sameLinks (compiler : ShaderCompiler) :
    (∀ tree tree' : NodeTree, tree.SameLinks tree' → ∀ roots,
      Parallel Eq (compiler.compile tree roots) (compiler.compile tree' roots)) ∧
    ∀ document document', ListsLinks document document' →
      Parallel Eq (compiler.compileJson document) (compiler.compileJson document') :=
  ⟨fun _ _ h roots => h.compile compiler roots,
    fun _ _ h => h.ofJson.bind fun _ _ hsame => hsame.compile compiler []⟩

/-- A color at the surface of the material output, by the links given at the input and listed. -/
def tinted (inputs : List (String × Json)) (links : List Json) : Json :=
  .object [("nodes", .array
      [.object [("id", .string "tint"), ("type", .string "rgb")],
       .object [("id", .string "end"), ("type", .string "output_material"),
         ("inputs", .object inputs)]]),
    ("links", .array links)]

/-- The color, as it is written in a link. -/
def tint : Json := .object [("node", .string "tint"), ("socket", .string "color")]

/-- The surface, as it is written in a link. -/
def surface : Json := .object [("node", .string "end"), ("socket", .string "Surface")]

theorem compile_eq_of_sameLinks_tinted :
    ∃ shader,
      standard.compileJson (tinted [("Surface", .object [("link", tint)])] []) = .ok shader ∧
      standard.compileJson (tinted [] [.object [("from", tint), ("to", surface)]]) =
        .ok shader := by
  let link : Link := ⟨⟨"tint", "color"⟩, ⟨"end", "surface"⟩⟩
  let entry : NodeEntry := ⟨some "end", "output_material", [], [], []⟩
  let first : Json := .object [("id", .string "tint"), ("type", .string "rgb")]
  let last (inputs : List (String × Json)) : Json := .object
    [("id", .string "end"), ("type", .string "output_material"), ("inputs", .object inputs)]
  let input : Json := .object [("link", tint)]
  have hentries (inputs : List (String × Json)) (links : List Json) :
      nodeEntries (tinted inputs links) = .ok ([(none, first)] ++ (none, last inputs) :: []) := rfl
  have hentry : NodeEntry.ofJson? (last [("Surface", input)]) =
      some { entry with inputs := [] ++ ("Surface", input) :: [] } := rfl
  have hentry' : NodeEntry.ofJson? (last []) = some { entry with inputs := [] ++ [] } := rfl
  have hlinks : listedLinks (tinted [("Surface", input)] []) = .ok [] := rfl
  have hlinks' : listedLinks (tinted [] [.object [("from", tint), ("to", surface)]]) =
      .ok [link] := rfl
  have hlists : ListsLinks (tinted [("Surface", input)] [])
      (tinted [] [.object [("from", tint), ("to", surface)]]) :=
    .intro [link] (hentries _ _) (hentries _ _) hentry hentry' rfl rfl hlinks hlinks' rfl
      (fun _ => by simp)
  have hsome : (standard.compileJson (tinted [("Surface", input)] [])).toOption.isSome = true := by
    decide +kernel
  obtain ⟨shader, hshader⟩ := Option.isSome_iff_exists.mp hsome
  have hinline := toOption_eq_some_iff.mp hshader
  have hsame := (compile_eq_of_sameLinks standard).2 _ _ hlists
  rw [hinline] at hsame
  generalize hlisted : standard.compileJson
    (tinted [] [.object [("from", tint), ("to", surface)]]) = listed at hsame
  cases hsame with
  | given h => exact ⟨shader, hinline, by rw [h]⟩

end ShaderCompiler

end SceneEngine.Shading
