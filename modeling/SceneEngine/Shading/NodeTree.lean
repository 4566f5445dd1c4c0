import SceneEngine.Json.Basic
import SceneEngine.Ordered.Map
import SceneEngine.Shading.SocketRef

/-!
# Node trees

A node tree as it is authored: nodes with their types, the values written at their inputs, the
outputs they declare and free properties, and the links between them.  Nothing has been checked but
that ids are different; types may be unknown, links may lead nowhere, and values may be of any kind.

Ids are kept as they were written.  Names of sockets are normalized wherever they occur, so that
sockets can be compared.  Properties keep their names, and mean something only to the type of the
node, which reads them as the kind of value that it expects.
-/

namespace SceneEngine.Shading

/-- A node as it is authored. -/
structure Node where
  /-- The id, by which links refer to the node. -/
  id : String
  /-- The name of its type, as authored. -/
  kind : String
  /-- The values written at inputs that are not linked, by normalized socket name. -/
  literals : OrderedMap String Json
  /-- The declared outputs by normalized socket name, with their type if one was given. -/
  outputs : OrderedMap String (Option SocketType)
  /-- What the type reads beside the inputs. -/
  properties : List (String × Json)

namespace Node

/-- A property, in whatever form it was written. -/
def property? (node : Node) (name : String) : Option Json := Json.fieldOf? node.properties name

/-- A property that is a text. -/
def stringProperty? (node : Node) (name : String) : Option String :=
  (node.property? name).bind Json.asString?

/-- A property that is a number. -/
def realProperty? (node : Node) (name : String) : Option Float :=
  (node.property? name).bind Json.asReal?

/-- A property that is a truth value. -/
def boolProperty? (node : Node) (name : String) : Option Bool :=
  (node.property? name).bind Json.asBool?

end Node

/-- A tree of nodes: the nodes by their ids in authored order, and the links, those written at
inputs before those listed. -/
structure NodeTree where
  /-- The nodes by their ids, in authored order. -/
  nodes : OrderedMap String Node
  /-- The links between sockets. -/
  links : List Link

namespace NodeTree

/-- The tree without nodes. -/
def empty : NodeTree := ⟨∅, []⟩

/-- The position of a node in authored order. -/
def indexOf? (tree : NodeTree) (id : String) : Option Nat := tree.nodes.keys.idxOf? id

/-- The node in a position of the authored order. -/
def nodeAt? (tree : NodeTree) (index : Nat) : Option Node := tree.nodes.values[index]?

end NodeTree

end SceneEngine.Shading
