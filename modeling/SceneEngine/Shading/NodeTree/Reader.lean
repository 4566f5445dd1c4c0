import SceneEngine.Json.Parser
import SceneEngine.Shading.NodeTree

/-!
# Reading node trees

A tree is written as a record with its nodes, in a list or by their ids, and a list of links.  An
input holds a value, a record around a value, or links that end there.  Records of fixed shape may
also be written as the list of their fields; fields without meaning are ignored.

## Nodes

Entries are read one after another and added to the tree.  The id of a node is its own or the one it
stands under, and may be neither missing nor empty.  Inputs whose entries hold links add to the
links of the tree, all others keep a value; declared outputs keep their type, if it is one that
exists.

## Errors

Reading stops at the first fault.  Errors about an entry name it by its id if it has one, else by
what it stands under, else by its position.  Links that are listed are read after all nodes, and
errors about them name their position in the list.
-/

namespace SceneEngine.Shading

/-! ## Records of fixed shape -/

/-- The field of a record of fixed shape: by its name, or by its position when the record is
written as a list. -/
def shapeField? (json : Json) (name : String) (position : Nat) : Option Json :=
  match json with
  | .object fields => Json.fieldOf? fields name
  | .array items => items[position]?
  | _ => none

/-- Whether a document can be a record of fixed shape with `count` fields. -/
def hasShape (json : Json) (count : Nat) : Bool :=
  match json with
  | .object _ => true
  | .array items => items.length ≤ count
  | _ => false

/-- Reads a socket reference as it is written. -/
def SocketRef.ofJson? (json : Json) : Option SocketRef := do
  guard (hasShape json 2)
  let node ← (← shapeField? json "node" 0).asString?
  let socket ← (← shapeField? json "socket" 1).asString?
  return .normalized node socket

/-- Reads a link. -/
def Link.ofJson? (json : Json) : Option Link := do
  guard (hasShape json 2)
  let source ← SocketRef.ofJson? (← shapeField? json "from" 0)
  let target ← SocketRef.ofJson? (← shapeField? json "to" 1)
  return ⟨source, target⟩

/-- The fields of a node's entry. -/
structure NodeEntry where
  /-- The id, if the entry has its own. -/
  id? : Option String
  /-- The name of the type. -/
  kind : String
  /-- What is written at the inputs, -/
  inputs : List (String × Json)
  /-- what is declared of the outputs -/
  outputs : List (String × Json)
  /-- and what is left to the type. -/
  properties : List (String × Json)

/-- A field that holds a text, or nothing when it is null or missing. -/
def optionalString? : Option Json → Option (Option String)
  | none => some none
  | some .null => some none
  | some (.string s) => some (some s)
  | some _ => none

/-- A field that holds a record; it is empty when it is missing. -/
def optionalRecord? : Option Json → Option (List (String × Json))
  | none => some []
  | some json => json.asObject?

/-- Reads the fields of a node's entry. -/
def NodeEntry.ofJson? (json : Json) : Option NodeEntry := do
  guard (hasShape json 5)
  let id? ← optionalString? (shapeField? json "id" 0)
  let kind ← (← shapeField? json "type" 1).asString?
  let inputs ← optionalRecord? (shapeField? json "inputs" 2)
  let outputs ← optionalRecord? (shapeField? json "outputs" 3)
  let properties ← optionalRecord? (shapeField? json "properties" 4)
  return { id?, kind, inputs, outputs, properties }

/-! ## Inputs and outputs -/

/-- What is written at an input. -/
inductive InputEntry where
  /-- A value. -/
  | literal (value : Json)
  /-- Outputs that feed the input; an empty list leaves it without a value of its own. -/
  | linked (sources : List SocketRef)

/-- Reads what is written at an input.  A record with a link is linked, one that says so holds a
list of links, and any other record may hold its value in a field. -/
def InputEntry.ofJson (json : Json) : Except NodeFault InputEntry :=
  match json with
  | .object fields =>
    match Json.fieldOf? fields "link" with
    | some link =>
      match SocketRef.ofJson? link with
      | some source => .ok (.linked [source])
      | none => .error .unreadableLink
    | none =>
      if (Json.fieldOf? fields "type").bind Json.asString? = some "linked" then
        match ((Json.fieldOf? fields "links").getD (.array [])).asArray? with
        | some items =>
          match items.mapM SocketRef.ofJson? with
          | some sources => .ok (.linked sources)
          | none => .error .unreadableLinks
        | none => .error .unreadableLinks
      else .ok (.literal ((Json.fieldOf? fields "value").getD json))
  | json => .ok (.literal json)

/-- Reads the inputs of the node `id`: the values written at them, and the links that end there. -/
def readInputs (id : String) (inputs : List (String × Json)) :
    Except NodeFault (OrderedMap String Json × List Link) :=
  inputs.foldlM (fun (literals, links) (name, json) => do
    let socket := Identifier.socketKey name
    match ← InputEntry.ofJson json with
    | .literal value => return (literals.insert socket value, links)
    | .linked sources =>
      return (literals, links ++ sources.map fun source => ⟨source, .normalized id socket⟩))
    (∅, [])

/-- The type that an output declares, if any. -/
def declaredType? (json : Json) : Option String :=
  let type := match json with
    | .object fields => (Json.fieldOf? fields "type").bind Json.asString?
    | json => json.asString?
  type.filter (· != "linked")

/-- Reads the declared outputs of a node. -/
def readOutputs (outputs : List (String × Json)) :
    Except NodeFault (OrderedMap String (Option SocketType)) :=
  outputs.foldlM (fun declared (name, json) => do
    let type ← match declaredType? json with
      | none => pure none
      | some type =>
        match SocketType.parse? type with
        | some type => pure (some type)
        | none => .error (.outputType name type)
    return declared.insert (Identifier.socketKey name) type) ∅

/-! ## Trees -/

/-- The entries of the nodes, each with the id it stands under, if it stands under one. -/
def nodeEntries (json : Json) : Except TreeFault (List (Option String × Json)) :=
  match json.asObject? with
  | none => .error .notARecord
  | some fields =>
    match Json.fieldOf? fields "nodes" with
    | none => .error .noNodes
    | some (.array items) => .ok (items.map (none, ·))
    | some (.object entries) => .ok (entries.map fun (id, entry) => (some id, entry))
    | some _ => .error .nodesNeitherListNorMap

/-- The id of the entry in position `position`: its own, or the one it stands under.  An error
names the entry by what it stands under. -/
def NodeEntry.id (entry : NodeEntry) (key? : Option String) (position : Nat) :
    Except CompileError String :=
  match entry.id?.or key? with
  | some id =>
    if id.isEmpty then .error (.malformedNode (key?.getD s!"#{position}") .noId) else .ok id
  | none => .error (.malformedNode (key?.getD s!"#{position}") .noId)

/-- Adds the node of one entry to a tree, and the links written at its inputs. -/
def NodeTree.addEntry (tree : NodeTree) (position : Nat) (key? : Option String) (json : Json) :
    Except CompileError NodeTree := do
  let some entry := NodeEntry.ofJson? json
    | let name? := (json.field? "id").bind Json.asString?
      .error (.malformedNode ((name?.or key?).getD s!"#{position}") .unreadable)
  let id ← entry.id key? position
  if h : id ∈ tree.nodes.keys then .error (.duplicateNode id)
  else
    -- the id is known by now, and every error names it
    let (literals, links) ← (readInputs id entry.inputs).mapError (.malformedNode id)
    let outputs ← (readOutputs entry.outputs).mapError (.malformedNode id)
    let node : Node := { id, kind := entry.kind, literals, outputs, properties := entry.properties }
    return { nodes := tree.nodes.push id node h, links := tree.links ++ links }

/-- Adds the nodes of the entries from `position` on. -/
def NodeTree.addEntries (tree : NodeTree) (position : Nat) :
    List (Option String × Json) → Except CompileError NodeTree
  | [] => .ok tree
  | (key?, json) :: entries => do
    (← tree.addEntry position key? json).addEntries (position + 1) entries

/-- Reads the listed links from `position` on. -/
def readLinks (position : Nat) : List Json → Except TreeFault (List Link)
  | [] => .ok []
  | json :: items =>
    match Link.ofJson? json with
    | none => .error (.unreadableLink position)
    | some link => return link :: (← readLinks (position + 1) items)

/-- The links listed beside the nodes. -/
def listedLinks (json : Json) : Except TreeFault (List Link) :=
  match json.field? "links" with
  | none => .ok []
  | some links =>
    match links.asArray? with
    | none => .error .linksNotAList
    | some items => readLinks 0 items

/-- Reads a tree from a document. -/
def NodeTree.ofJson (json : Json) : Except CompileError NodeTree := do
  let entries ← (nodeEntries json).mapError .malformedTree
  let tree ← NodeTree.empty.addEntries 0 entries
  let links ← (listedLinks json).mapError .malformedTree
  return { tree with links := tree.links ++ links }

/-- Reads a tree from text. -/
def NodeTree.parse (text : String) : Except CompileError NodeTree :=
  match Json.parse? text with
  | none => .error (.malformedTree .unreadable)
  | some json => NodeTree.ofJson json

end SceneEngine.Shading
