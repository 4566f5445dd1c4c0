import SceneEngine.Shading.NodeKind
import SceneEngine.TopologicalOrder

/-!
# Networks

A network is a node tree whose nodes and links have been checked: every node with its type and
sockets, the output that feeds each linked input, the variable that will hold each output, and an
order in which every node comes after those it reads from.  Once there is a network, nothing about
the structure of the tree can be wrong any more.

## Resolving

`Network.resolve` checks in this order, and stops at the first fault: every node by itself, with the
values and types that were authored for its sockets; every link, which is connected as soon as it
has been checked, so that a second link to the same input is noticed; and at last whether the nodes
can be put in order.  Inputs may not be fed by two outputs, but a link may be listed twice.

Outputs are named when the order is known, station by station as the nodes were authored, so the
names of a program do not depend on which nodes will be evaluated.

## Needed nodes

Not all nodes of a network lead to a root.  `Network.closure` finds those that some nodes read from,
by a search with a stack, and `Network.needed` puts them into the order of the network.  The search
ends because a node that is found takes what it reads from out of what is unread; the lemmas about
`Network.unread` are there for this.
-/

namespace SceneEngine.Shading

/-- An output of a node, by the node's position. -/
structure Source where
  /-- The position of the node. -/
  node : Nat
  /-- The name of the output. -/
  socket : String
  deriving DecidableEq

/-- A node with its type and what is known about its sockets. -/
structure Station where
  /-- The node as it was authored, -/
  node : Node
  /-- its type -/
  kind : NodeKind
  /-- and the sockets that the type gives it. -/
  signature : Signature
  /-- The outputs that feed the linked inputs, by input. -/
  sources : OrderedMap String Source
  /-- The variables that hold the outputs, by output. -/
  outputNames : OrderedMap String String

/-- The nodes of a tree, checked and connected. -/
structure Network where
  /-- The nodes in authored order. -/
  stations : List Station
  /-- The positions of the nodes, each behind those that it reads from. -/
  order : List Nat

/-! ## Checking a node -/

/-- An authored value must have a constant of its input's type.  Values for inputs that the node
does not have, or fills itself, do not matter. -/
def checkLiterals (node : Node) (signature : Signature) : Except CompileError Unit :=
  node.literals.entries.forM fun (socket, value) =>
    match signature.inputs.find? (·.name == socket) with
    | none => .ok ()
    | some input =>
      if input.default?.isSome && (input.type.literal? value).isNone then
        .error (.malformedNode node.id (.literal socket input.type value.text))
      else .ok ()

/-- A declared output must have the type that the node gives it.  Declarations of outputs that
the node does not have do not matter. -/
def checkOutputs (node : Node) (signature : Signature) : Except CompileError Unit :=
  node.outputs.entries.forM fun (socket, declared?) =>
    match declared?, signature.outputType? socket with
    | some declared, some produced =>
      if produced = declared then .ok ()
      else .error (.typeMismatch node.id socket produced declared)
    | _, _ => .ok ()

/-- A node with its type and sockets, not yet connected. -/
def Station.ofNode (registry : NodeRegistry) (node : Node) : Except CompileError Station := do
  let some kind := registry.get? node.kind | .error (.unknownNodeType node.id node.kind)
  let signature ← kind.signature node
  checkLiterals node signature
  checkOutputs node signature
  return { node, kind, signature, sources := ∅, outputNames := ∅ }

/-! ## Connecting -/

/-- Makes `source` feed the input `socket`.  Saying so again changes nothing; another source is an
error. -/
def Station.connect (station : Station) (socket : String) (source : Source) :
    Except CompileError Station :=
  match station.sources.get? socket with
  | none => .ok { station with sources := station.sources.insert socket source }
  | some existing =>
    if existing = source then .ok station
    else .error (.duplicateLink station.node.id socket)

/-- Whether a value of one type can feed an input of another.  The expression does not matter. -/
def fits (source target : SocketType) : Bool := (source.convert? "value" target).isSome

/-- Checks a link and connects its two ends: both nodes must be there, then both sockets, and the
types must fit. -/
def connectLink (tree : NodeTree) (stations : List Station) (link : Link) :
    Except CompileError (List Station) :=
  match tree.indexOf? link.source.node, tree.indexOf? link.target.node with
  | some i, some j =>
    match stations[i]?, stations[j]? with
    | some producer, some consumer => do
      let some produced := producer.signature.outputType? link.source.socket
        | .error (.unknownSocket link.source.node link.source.socket)
      let some expected := consumer.signature.inputType? link.target.socket
        | .error (.unknownSocket link.target.node link.target.socket)
      if !fits produced expected then
        .error (.typeMismatch link.target.node link.target.socket produced expected)
      else
        let consumer ← consumer.connect link.target.socket ⟨i, link.source.socket⟩
        return stations.set j consumer
    | _, _ => .error (.danglingLink link.source.path link.target.path)
  | _, _ => .error (.danglingLink link.source.path link.target.path)

/-- The connections between nodes, from producer to consumer: by consumer, and for each in the
order in which its inputs were connected. -/
def connections (stations : List Station) : List (Nat × Nat) :=
  stations.zipIdx.flatMap fun (station, i) =>
    station.sources.values.map fun source => (source.node, i)

/-! ## Naming -/

/-- Takes an identifier for every output of a station, made from the id of the node and the name of
the socket. -/
def Station.nameOutputs (station : Station) (names : NamePool) : Station × NamePool :=
  let (outputNames, names) := station.signature.outputs.foldl
    (fun (outputNames, names) (socket, _) =>
      let (name, names) := names.allocate ["n", station.node.id, socket]
      (outputNames.insert socket name, names))
    (∅, names)
  ({ station with outputNames }, names)

/-- Takes an identifier for every output of the stations, one after another. -/
def nameAll : List Station → NamePool → List Station × NamePool
  | [], names => ([], names)
  | station :: stations, names =>
    let (station, names) := station.nameOutputs names
    let (stations, names) := nameAll stations names
    (station :: stations, names)

/-! ## Networks -/

namespace Network

/-- Checks a tree and connects its nodes.  The names in use grow by those of the outputs. -/
def resolve (tree : NodeTree) (registry : NodeRegistry) (names : NamePool) :
    Except CompileError (Network × NamePool) := do
  let stations ← tree.nodes.values.mapM (Station.ofNode registry)
  let stations ← tree.links.foldlM (connectLink tree) stations
  let positions := List.range stations.length
  match TopologicalOrder.sort positions (connections stations) with
  -- the error names the nodes by their ids
  | .error cycle =>
    .error (.cycle (cycle.nodes.filterMap fun i => stations[i]?.map (·.node.id)))
  | .ok order =>
    let (stations, names) := nameAll stations names
    return (⟨stations, order⟩, names)

/-- The variable that holds an output, with its type. -/
def output (network : Network) (index : Nat) (socket : String) :
    Except CompileError (String × SocketType) :=
  match network.stations[index]? with
  | none => .error (.unknownNode s!"#{index}")
  | some station =>
    match station.outputNames.get? socket, station.signature.outputType? socket with
    | some name, some type => .ok (name, type)
    | _, _ => .error (.unknownSocket station.node.id socket)

/-! ## Needed nodes -/

/-- The nodes that the node in one position reads from, in the order in which its inputs were
connected. -/
def producers (network : Network) (i : Nat) : List Nat :=
  match network.stations[i]? with
  | none => []
  | some station => station.sources.values.map (·.node)

/-- What is read from by the nodes that are not in `found`, with repetition. -/
def unread (network : Network) (found : List Nat) : List Nat :=
  ((List.range network.stations.length).filter (!found.contains ·)).flatMap network.producers

/-- Beyond the last station there is nothing to read from. -/
theorem producers_eq_nil (network : Network) {i : Nat} (h : network.stations.length ≤ i) :
    network.producers i = [] := by
  rw [producers, List.getElem?_eq_none h]

/-- When a node is found, what it reads from is unread no more. -/
theorem length_unread_cons (network : Network) {found : List Nat} {i : Nat}
    (h : found.contains i = false) :
    (network.unread (i :: found)).length + (network.producers i).length =
      (network.unread found).length := by
  let rest := (List.range network.stations.length).filter (!found.contains ·)
  have hrest : rest.Nodup := List.nodup_range.filter _
  have hleft : (List.range network.stations.length).filter (!(i :: found).contains ·) =
      rest.erase i := by
    rw [hrest.erase_eq_filter, List.filter_filter]
    exact List.filter_congr fun k _ => by rw [List.contains_cons, Bool.not_or, bne]
  rw [unread, hleft]
  by_cases hi : i < network.stations.length
  · have hmem : i ∈ rest := List.mem_filter.mpr ⟨List.mem_range.mpr hi, by rw [h]; rfl⟩
    have hlength := ((List.perm_cons_erase hmem).flatMap_right network.producers).length_eq
    rw [List.flatMap_cons, List.length_append, Nat.add_comm] at hlength
    exact hlength.symm
  · have hnot : i ∉ rest := fun hmem => hi (List.mem_range.mp (List.mem_filter.mp hmem).1)
    rw [List.erase_of_not_mem hnot, network.producers_eq_nil (Nat.le_of_not_lt hi)]
    rfl

/-- Goes through a stack of nodes, from the top.  A node that was not found yet is found, and what
it reads from comes on top of the stack, the last of it first. -/
def search (network : Network) (found : List Nat) : List Nat → List Nat
  | [] => found
  | i :: stack =>
    if found.contains i then network.search found stack
    else network.search (i :: found) ((network.producers i).reverse ++ stack)
termination_by stack => stack.length + (network.unread found).length
decreasing_by
  · exact Nat.add_lt_add_right (Nat.lt_succ_self _) _
  · next h =>
    -- what comes on the stack is unread no more, and one node has left it
    have hread := network.length_unread_cons (Bool.eq_false_iff.mpr h)
    simp only [List.length_append, List.length_reverse, List.length_cons]
    omega

/-- The nodes in `seeds` and all that they read from, directly or not, in the order in which they
were found. -/
def closure (network : Network) (seeds : List Nat) : List Nat := network.search [] seeds.reverse

/-- The nodes in `seeds` and all that they read from, in the order of the network. -/
def needed (network : Network) (seeds : List Nat) : List Nat :=
  let members := network.closure seeds
  network.order.filter members.contains

end Network

end SceneEngine.Shading
