import SceneEngine.Json.Printer
import SceneEngine.Shading.Declarations
import SceneEngine.Shading.FragmentLibrary
import SceneEngine.Shading.NodeTree
import SceneEngine.Text.Quoted

/-!
# Node types

A node type answers two questions about a node: which typed sockets it has, and which expressions
its outputs are, given the expressions of its inputs.  While it answers the second it may declare
parameters and the like, take fresh identifiers, and write statements of its own.

## Sockets and operands

A `Signature` lists the inputs and outputs of a node, which may depend on its properties.  An input
with a default always has an expression when code is written; an input without one has an expression
only if it is linked, and the type fills it in some other way otherwise.  Expressions come converted
to the types of the inputs (`Operands`).

## Emission

Code is written in the monad `Emit`, which reads where the code will stand and changes what has been
collected.  Everything that is declared is noted twice: among the declarations of the compile, where
an entry that is there already stays, and among the requirements of the node.  So each program can
later be given the declarations that its own nodes rely on.

A value that the vertex stage knows reaches a fragment by being passed on (`Emit.interpolated`);
code for the vertex stage uses the expression for it instead.

## Registries

Types are looked up by canonical names (`canonicalKind`): authored names are normalized, and a few
short forms stand for other names.
-/

namespace SceneEngine.Shading

/-! ## Sockets -/

/-- An input of a node type. -/
structure InputSpec where
  /-- The normalized name of the socket. -/
  name : String
  /-- The type that values are converted to. -/
  type : SocketType
  /-- The value that counts when the socket is neither linked nor given one; without it the node
  fills the input itself. -/
  default? : Option Json

/-- The typed sockets of a node. -/
structure Signature where
  /-- The inputs in the order of their evaluation. -/
  inputs : List InputSpec
  /-- The outputs in the order in which their expressions are given. -/
  outputs : List (String × SocketType)

namespace Signature

/-- The type of an input. -/
def inputType? (signature : Signature) (name : String) : Option SocketType :=
  (signature.inputs.find? (·.name == name)).map InputSpec.type

/-- The type of an output. -/
def outputType? (signature : Signature) (name : String) : Option SocketType :=
  (signature.outputs.find? (·.1 == name)).map Prod.snd

end Signature

/-- The name of the output of a node with a single one: the declared name if the node declares
exactly one output, and `default` otherwise. -/
def Node.singleOutput (node : Node) (default : String) : String :=
  match node.outputs.keys with
  | [name] => name
  | _ => default

/-! ## Operands -/

/-- The expression that feeds an input. -/
structure Operand where
  /-- The text of the expression. -/
  expr : String
  /-- Whether it comes from a link. -/
  isLinked : Bool

/-- The expressions that feed the inputs of a node, already of the types of its inputs. -/
structure Operands where
  /-- The id of the node, for errors. -/
  node : String
  /-- The expressions by input. -/
  values : OrderedMap String Operand

namespace Operands

/-- The expression that feeds an input.  An input that the node fills itself has none unless it is
linked. -/
def get (operands : Operands) (name : String) : Except CompileError String :=
  match operands.values.get? name with
  | some operand =>
    if operand.isLinked || !operand.expr.isEmpty then .ok operand.expr
    else .error (.unknownSocket operands.node name)
  | none => .error (.unknownSocket operands.node name)

/-- The expression that feeds an input, if it comes from a link. -/
def linked? (operands : Operands) (name : String) : Option String :=
  ((operands.values.get? name).filter Operand.isLinked).map Operand.expr

end Operands

/-! ## Emission -/

/-- A statement in the body of a program. -/
inductive Statement where
  /-- Declares a variable with its value. -/
  | declare (type : SocketType) (name value : String)
  /-- A statement given as text. -/
  | verbatim (text : String)
  deriving DecidableEq

/-- The text of a statement. -/
def Statement.text : Statement → String
  | .declare type name value => type.glsl ++ " " ++ name ++ " = " ++ value ++ ";"
  | .verbatim text => text

/-- Where code is being written: the stage, the node, and the library at hand. -/
structure Site where
  /-- The stage, -/
  stage : Stage
  /-- the id of the node -/
  node : String
  /-- and the fragments that may be included. -/
  library : FragmentLibrary

/-- What writing code changes: the declarations and names of the whole compile, and the
requirements and statements of the node. -/
structure Emission where
  /-- What has been declared in the compile, -/
  declarations : Declarations
  /-- the names in use, -/
  names : NamePool
  /-- what this node relies on -/
  requires : Requirements
  /-- and its statements so far. -/
  statements : List Statement

/-- Writing the code of a node.  An error ends it. -/
abbrev Emit := ReaderT Site (StateT Emission (Except CompileError))

namespace Emit

/-- The stage that code is written for. -/
def stage : Emit Stage := return (← read).stage

/-- Appends a fragment and its dependencies to a list of fragments. -/
def withFragment (name : String) (included : OrderedSet String) : Emit (OrderedSet String) := do
  match (← read).library.resolve name included with
  | (included, .ok ()) => return included
  | (_, .error e) => throw e

/-- Includes a library fragment, with its dependencies, in the program. -/
def fragment (name : String) : Emit Unit := do
  let all ← withFragment name (← get).declarations.includes
  -- the node relies on the dependencies as well, whether another node has included them or not
  let own ← withFragment name (← get).requires.includes
  modify fun e =>
    { e with
      declarations := { e.declarations with includes := all }
      requires := { e.requires with includes := own } }

/-- Declares a parameter; one that is declared already keeps its default.  The result is its name.
-/
def uniform (name : String) (default : UniformValue) : Emit String := do
  modify fun e =>
    { e with
      declarations :=
        { e.declarations with uniforms := e.declarations.uniforms.insertIfNew name default }
      requires := { e.requires with uniforms := e.requires.uniforms.insert name } }
  return name

/-- A fresh identifier made from parts. -/
def freshName (parts : List String) : Emit String := do
  let (name, names) := (← get).names.allocate parts
  modify fun e => { e with names }
  return name

/-- A fresh identifier for a variable of this node. -/
def freshLocal (suffix : String) : Emit String := do freshName ["n", (← read).node, suffix]

/-- The sampler among the parameters that is bound to an image. -/
def samplerOf? (uniforms : UniformTable) (image : String) : Option String :=
  uniforms.entries.findSome? fun (name, value) =>
    match value with
    | .texture path => if path = image then some name else none
    | _ => none

/-- Declares the sampler of an image.  All nodes that read an image share its sampler. -/
def sampler (image : String) : Emit String := do
  -- the image is looked for among the values, because its name depends on what was taken before
  let name ← match samplerOf? (← get).declarations.uniforms image with
    | some name => pure name
    | none => freshName ["tex", image]
  uniform name (.texture image)

/-- Asks for a hook before every draw. -/
def hook (hook : RenderHook) : Emit Unit :=
  modify fun e =>
    { e with declarations := { e.declarations with hooks := e.declarations.hooks.insert hook } }

/-- Sets a preprocessor flag. -/
def define (name : String) : Emit Unit :=
  modify fun e =>
    { e with
      declarations := { e.declarations with defines := e.declarations.defines.insert name }
      requires := { e.requires with defines := e.requires.defines.insert name } }

/-- Declares an attribute of the vertex. -/
def vertexAttribute (name : String) (type : SocketType) : Emit String := do
  modify fun e =>
    { e with
      declarations :=
        { e.declarations with attributes := e.declarations.attributes.insertIfNew name type }
      requires := { e.requires with attributes := e.requires.attributes.insert name } }
  return name

/-- Declares a value that the vertex stage passes on, assigned from `source` there. -/
def varying (name : String) (type : SocketType) (source : String) : Emit String := do
  modify fun e =>
    { e with
      declarations :=
        { e.declarations with
          varyings := e.declarations.varyings.insertIfNew name ⟨type, source⟩ }
      requires := { e.requires with varyings := e.requires.varyings.insert name } }
  return name

/-- Writes a statement ahead of the assignments of the node's outputs. -/
def statement (s : Statement) : Emit Unit :=
  modify fun e => { e with statements := e.statements ++ [s] }

/-- A value that the vertex stage computes as `source` and passes to the fragment stage as `name`.
Code of the vertex stage itself reads `inVertex`. -/
def interpolated (name : String) (type : SocketType) (source inVertex : String) : Emit String := do
  match ← stage with
  | .vertex => return inVertex
  | .fragment => varying name type source

/-- The surface coordinates of the mesh, a `vec2`. -/
def uv : Emit String := interpolated "vUv" .vec2 "uv" "uv"

/-- The position in object space, a `vec3`. -/
def objectPosition : Emit String := interpolated "vPosition" .vec3 "position" "position"

/-- The normal in world space, a `vec3`. -/
def normal : Emit String :=
  let source := "normalize(mat3(modelMatrix) * normal)"
  interpolated "vNormal" .vec3 source source

/-- The position in world space, a `vec3`.  The vertex stage has a variable for it, but only behind
the code of nodes. -/
def worldPosition : Emit String :=
  interpolated "vWorldPosition" .vec3 "worldPosition.xyz"
    "(modelMatrix * vec4(position, 1.0)).xyz"

end Emit

/-! ## Types and registries -/

/-- A node type. -/
structure NodeKind where
  /-- The canonical name. -/
  name : String
  /-- The sockets of a node, which may depend on its properties. -/
  signature : Node → Except CompileError Signature
  /-- Writes the code of a node and gives an expression for each output. -/
  emit : Node → Operands → Emit (List String)

/-- The error about a property. -/
def Node.invalidProperty (node : Node) (property : String) (fault : PropertyFault) : CompileError :=
  .invalidProperty node.id property fault

/-- A property that chooses among words, in upper case; `default` when it is missing or null. -/
def Node.choice (node : Node) (property default : String) : Except CompileError String :=
  match node.property? property with
  | none => .ok default
  | some .null => .ok default
  | some (.string s) => .ok (String.ofList (s.toList.map Char.toUpper))
  | some other => .error (node.invalidProperty property (.notAString other.text))

/-- A switch among the properties; `default` when it is not a truth value. -/
def Node.isSwitchedOn (node : Node) (property : String) (default : Bool) : Bool :=
  (node.boolProperty? property).getD default

/-- Node types by canonical name. -/
structure NodeRegistry where
  /-- The types, by the names under which they were registered. -/
  kinds : OrderedMap String NodeKind

/-- Short forms of type names, and what they stand for. -/
def kindAliases : List (String × String) :=
  [("combxyz", "combine_xyz"), ("sepxyz", "separate_xyz"), ("vect_math", "vector_math"),
   ("camera", "camera_data"), ("time", "scene_time")]

/-- The canonical form of an authored type name. -/
def canonicalKind (kind : String) : String :=
  let key := Identifier.socketKey kind
  ((kindAliases.find? (·.1 == key)).map Prod.snd).getD key

namespace NodeRegistry

/-- The registry without node types. -/
def empty : NodeRegistry := ⟨∅⟩

/-- Adds a node type or replaces the one of the same name. -/
def register (registry : NodeRegistry) (kind : NodeKind) : NodeRegistry :=
  ⟨registry.kinds.insert kind.name kind⟩

/-- The type that an authored name stands for. -/
def get? (registry : NodeRegistry) (kind : String) : Option NodeKind :=
  registry.kinds.get? (canonicalKind kind)

/-- Describes a registry by the sorted names of its types. -/
def describe (registry : NodeRegistry) : String :=
  let names := registry.kinds.keys.mergeSort (fun a b => decide (a ≤ b))
  "NodeRegistry \x7b kinds: " ++ Quoted.list (names.map Quoted.quote) ++ " \x7d"

end NodeRegistry

end SceneEngine.Shading
