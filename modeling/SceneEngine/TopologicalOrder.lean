import SceneEngine.Ordered.Map

/-!
# Topological order

Puts the nodes of a directed graph into an order in which every edge points forward, or reports the
nodes that the search could not place and that still lead to others of them.

## The search

The order starts from the nodes without incoming edges, in the order given, and lets a node follow
as soon as its last incoming edge has been followed.  For every node the search keeps the number of
edges into it that have not been followed; a node is ready when none is left.  Nodes that are ready
wait in line, and the first of them is placed next.

The recursions are bounded by numbers of steps, and in each case a step makes progress, so that the
bound is never the reason to stop: placing takes a node each time, and trimming shortens the list in
every round but the last.

## When nodes remain

On a cycle no node ever becomes ready, and neither does a node that a cycle leads to.  From the
nodes that remain, those are taken away again and again that lead to no other remaining node
(`trimSinks`).  What is left consists of the cycles and of what lies on the way from one to another.
-/

namespace SceneEngine.TopologicalOrder

variable {α : Type} [DecidableEq α]

/-- The reason why a graph has no topological order: the nodes that remain after trimming, in the
order given. -/
structure CycleError (α : Type) where
  /-- The nodes. -/
  nodes : List α

/-- The message about a cycle; `describe` writes a node. -/
def CycleError.message (e : CycleError α) (describe : α → String) : String :=
  "Cycle detected between nodes [" ++ ", ".intercalate (e.nodes.map describe) ++ "]"

/-- The edges that join two of the nodes; the others are ignored. -/
def retained (nodes : List α) (edges : List (α × α)) : List (α × α) :=
  edges.filter fun e => nodes.contains e.1 && nodes.contains e.2

/-- The nodes that edges lead to from `node`, in the order of the edges and with repetition. -/
def children (edges : List (α × α)) (node : α) : List α :=
  (edges.filter (·.1 == node)).map Prod.snd

/-- The number of edges into every node.  An edge that is listed twice counts twice. -/
def inDegrees (nodes : List α) (edges : List (α × α)) : OrderedMap α Nat :=
  edges.foldl (fun degrees e => degrees.modify e.2 (· + 1))
    (OrderedMap.ofList (nodes.map (·, 0)))

/-- The state of the search: nodes that are ready, nodes already placed (latest first), and for
every node the number of edges into it that have not been followed. -/
structure State (α : Type) where
  /-- Nodes without edges that have not been followed, waiting to be placed. -/
  ready : List α
  /-- Nodes in the order, latest first. -/
  placed : List α
  /-- Edges into each node that have not been followed. -/
  degrees : OrderedMap α Nat

/-- Follows one edge to `child`, which becomes ready when this was the last edge into it. -/
def State.follow (s : State α) (child : α) : State α :=
  match s.degrees.get? child with
  | none => s
  | some degree =>
    let s := { s with degrees := s.degrees.modify child (· - 1) }
    if degree - 1 = 0 then { s with ready := s.ready ++ [child] } else s

/-- The state before anything is placed. -/
def State.start (nodes : List α) (edges : List (α × α)) : State α :=
  let degrees := inDegrees nodes edges
  { ready := nodes.filter fun node => (degrees.get? node).getD 0 == 0
    placed := []
    degrees }

/-- Places the ready nodes one after another.  Every step places one node, so as many steps as there
are nodes suffice. -/
def State.run (edges : List (α × α)) : Nat → State α → State α
  | 0, s => s
  | steps + 1, s =>
    match s.ready with
    | [] => s
    | node :: ready =>
      let s := { s with ready, placed := node :: s.placed }
      run edges steps ((children edges node).foldl State.follow s)

/-- Whether an edge leads from `node` to one of `nodes`. -/
def leadsInto (edges : List (α × α)) (nodes : List α) (node : α) : Bool :=
  (children edges node).any nodes.contains

/-- Takes away the nodes without an edge into the rest, again and again, until none is left that
could be taken away.  Every round but the last shortens the list. -/
def trimSinks (edges : List (α × α)) : Nat → List α → List α
  | 0, nodes => nodes
  | rounds + 1, nodes =>
    let kept := nodes.filter (leadsInto edges nodes)
    if kept.length = nodes.length then nodes else trimSinks edges rounds kept

/-- Sorts `nodes` so that every edge points forward.  Nodes without incoming edges keep the given
order; others that become ready together come in the order of the last edges to them.  The nodes
must be distinct. -/
def sort (nodes : List α) (edges : List (α × α)) : Except (CycleError α) (List α) :=
  let edges := retained nodes edges
  let final := (State.start nodes edges).run edges nodes.length
  if final.placed.length = nodes.length then .ok final.placed.reverse
  else
    -- some nodes never became ready
    let remaining := nodes.filter fun node => !final.placed.contains node
    .error ⟨trimSinks edges remaining.length remaining⟩

end SceneEngine.TopologicalOrder
