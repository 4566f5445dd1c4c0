import SceneEngine.Shading.Target

/-!
# Compile errors

Why a node tree has no program.  Every constructor is a cause, with the names and values that an
author needs to find the place; `message` puts it into words.

Three kinds of faults are told apart below the errors themselves.  A `TreeFault` is about a document
that is no node tree at all, or whose list of links cannot be read; a `NodeFault` is about one node
and stands in an error together with the id of the node; a `PropertyFault` is about a property of a
node and stands together with both names.  Errors about links name the ends of the link, and errors
about types name both types.

The message of a document of the wrong form does not say what is wrong with the form: the place is
all that is told.
-/

namespace SceneEngine.Shading

/-- What is wrong with a document that should be a node tree. -/
inductive TreeFault where
  /-- The text is not a document. -/
  | unreadable
  /-- The document is not a record, -/
  | notARecord
  /-- or has no nodes, -/
  | noNodes
  /-- or has something else in their place. -/
  | nodesNeitherListNorMap
  /-- The links are not in a list. -/
  | linksNotAList
  /-- An entry of the list of links does not have the form of a link. -/
  | unreadableLink (position : Nat)
  /-- The path of a root does not name a socket. -/
  | rootPath (path : String)
  deriving DecidableEq

/-- What is wrong with one node. -/
inductive NodeFault where
  /-- The entry does not have the form of a node. -/
  | unreadable
  /-- The entry has no id, and stands under none. -/
  | noId
  /-- A link written at an input does not have the form of a socket. -/
  | unreadableLink
  /-- Links written at an input do not have the form of a list of sockets. -/
  | unreadableLinks
  /-- An output is declared with a type that does not exist. -/
  | outputType (output type : String)
  /-- An authored value has no constant of the input's type. -/
  | literal (socket : String) (type : SocketType) (value : String)
  /-- The value in force for an input has no constant of its type. -/
  | noLiteral (socket : String) (type : SocketType)
  /-- A node type made more or fewer outputs than it announced. -/
  | outputCount (kind : String) (produced expected : Nat)
  deriving DecidableEq

/-- What is wrong with a property. -/
inductive PropertyFault where
  /-- A text was expected. -/
  | notAString (value : String)
  /-- A number was expected. -/
  | notANumber
  /-- Several numbers were expected. -/
  | notNumbers
  /-- A name is missing, or nothing of it is left. -/
  | noName
  /-- No image is named. -/
  | noImage
  /-- The value is none of the known ones; `what` says which kind of value was meant. -/
  | unsupported (what value : String)
  deriving DecidableEq

/-- Why a node tree does not compile. -/
inductive CompileError where
  /-- The document is not a node tree. -/
  | malformedTree (fault : TreeFault)
  /-- The entry of a node cannot be read, or a value in it cannot be used. -/
  | malformedNode (node : String) (fault : NodeFault)
  /-- Two nodes have one id. -/
  | duplicateNode (node : String)
  /-- No such type is registered. -/
  | unknownNodeType (node kind : String)
  /-- A root refers to a node that is not there. -/
  | unknownNode (node : String)
  /-- A node has no such input or output. -/
  | unknownSocket (node socket : String)
  /-- A link refers to a node that is not there. -/
  | danglingLink (source target : String)
  /-- An input is linked to two outputs. -/
  | duplicateLink (node socket : String)
  /-- A value of one type cannot be used as one of the other. -/
  | typeMismatch (node socket : String) (source target : SocketType)
  /-- Nodes read from each other in a circle. -/
  | cycle (nodes : List String)
  /-- A fragment is asked for that the library does not have. -/
  | unknownFragment (name : String)
  /-- Nothing says what the program is to put out. -/
  | missingRoot
  /-- Two roots drive one target. -/
  | duplicateRoot (target : Target)
  /-- A property cannot be used. -/
  | invalidProperty (node property : String) (fault : PropertyFault)
  deriving DecidableEq

/-- What stands in a message for the details of a document of the wrong form. -/
def wrongForm : String := "<json>"

/-- What is wrong with a tree, in words. -/
def TreeFault.message : TreeFault → String
  | .unreadable => wrongForm
  | .notARecord => "expected an object"
  | .noNodes => "missing 'nodes'"
  | .nodesNeitherListNorMap => "'nodes' must be a list or a map"
  | .linksNotAList => "'links' must be a list"
  | .unreadableLink position => s!"link #{position}: " ++ wrongForm
  | .rootPath path => s!"invalid root path '{path}'"

/-- What is wrong with a node, in words. -/
def NodeFault.message : NodeFault → String
  | .unreadable => wrongForm
  | .noId => "missing id"
  | .unreadableLink => "bad link: " ++ wrongForm
  | .unreadableLinks => "bad links: " ++ wrongForm
  | .outputType output type => s!"output '{output}' has unknown type '{type}'"
  | .literal socket type value =>
    s!"input '{socket}' expects a {type.glsl} literal, got {value}"
  | .noLiteral socket type => s!"input '{socket}' expects a {type.glsl} literal"
  | .outputCount kind produced expected =>
    s!"'{kind}' produced {produced} outputs, expected {expected}"

/-- What is wrong with a property, in words. -/
def PropertyFault.message : PropertyFault → String
  | .notAString value => s!"expected a string, got {value}"
  | .notANumber => "expected a number"
  | .notNumbers => "expected a list of numbers"
  | .noName => "expected a non-empty name"
  | .noImage => "expected an image path"
  | .unsupported what value => s!"unsupported {what} {value}"

/-- The error in words. -/
def CompileError.message : CompileError → String
  | .malformedTree fault => "Malformed node tree: " ++ fault.message
  | .malformedNode node fault => s!"Malformed node '{node}': " ++ fault.message
  | .duplicateNode node => s!"Node id '{node}' is used more than once"
  | .unknownNodeType node kind => s!"Node '{node}' has unknown type '{kind}'"
  | .unknownNode node => s!"Reference to unknown node '{node}'"
  | .unknownSocket node socket => s!"Node '{node}' has no socket '{socket}'"
  | .danglingLink source target => s!"Link {source} -> {target} references a missing node"
  | .duplicateLink node socket => s!"Input '{socket}' of node '{node}' is linked more than once"
  | .typeMismatch node socket source target =>
    s!"A {source.glsl} value does not fit '{node}.{socket}' ({target.glsl})"
  | .cycle nodes => "Cycle detected between nodes [" ++ ", ".intercalate nodes ++ "]"
  | .unknownFragment name => s!"Unknown library fragment '{name}'"
  | .missingRoot => "The node tree has no output root"
  | .duplicateRoot target => s!"Output target {target.name} is assigned more than once"
  | .invalidProperty node property fault =>
    s!"Node '{node}': invalid property '{property}': " ++ fault.message

end SceneEngine.Shading
