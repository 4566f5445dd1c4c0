import SceneEngine.Shading.FragmentLibrary.Builtin
import SceneEngine.Shading.Network
import SceneEngine.Shading.NodeTree.Reader
import SceneEngine.Shading.Nodes.Builtin
import SceneEngine.Shading.Program
import SceneEngine.Text.Blank

/-!
# Compiling node trees

A tree is checked and connected, the nodes that feed each root are evaluated once and in order, and
the pieces of code are put together into programs.  Each step can fail, with an error that says what
is wrong with the tree.

## Roots

A root is an output of the tree that drives something in the program: the color and the coverage of
a fragment, or the displacement of a vertex.  Roots are given by the caller, or read from the links
that end in the material output (`resolveRoots`).  Each target has one root at most, and a tree
without any root has no program.

## Evaluation

Evaluating a node writes its code for a stage (`evaluateNode`): the expressions of its inputs are
formed from the variables of other nodes or from constants, the type of the node gives an expression
for each output, and each of these is stored in the variable of the output.  Nodes are evaluated for
the fragments first and then for the vertices, and a node that both stages need is evaluated in
each.  Declarations and names are handed on from node to node, through both stages.

## Programs

A compile keeps the code of nodes, not texts (`CompiledShader`).  The main program contains all of
it.  The program that only writes depth takes over the vertex stage and, of the fragment stage, the
nodes that feed the coverage; it is put together from the same code.  `ProgramBase` has the
declarations that both share, and each program declares of them what its nodes rely on.
-/

namespace SceneEngine.Shading

/-- A root whose socket has been found: the node that feeds it, and the expression of its value,
converted to the target's type. -/
structure ResolvedRoot where
  /-- What the root drives, -/
  target : Target
  /-- the position of its node -/
  node : Nat
  /-- and the converted expression. -/
  expr : String

/-- The sources of a vertex and a fragment shader. -/
structure ShaderSources where
  /-- The text for vertices, -/
  vertex : String
  /-- and that for fragments. -/
  fragment : String
  deriving DecidableEq

/-- A tree with its programs, in pieces. -/
structure CompiledShader where
  /-- What all programs share. -/
  base : ProgramBase
  /-- The evaluated nodes of the vertex stage. -/
  vertexCode : StageCode
  /-- The evaluated nodes of the fragment stage. -/
  fragmentCode : StageCode
  /-- The nodes that feed the coverage, among those of the fragment stage. -/
  alphaNodes : List Nat
  /-- The roots, in the order in which they were asked for. -/
  roots : List ResolvedRoot

/-- The node types and fragments that trees are compiled with. -/
structure ShaderCompiler where
  /-- Node types by name. -/
  nodes : NodeRegistry
  /-- Pieces of shader source by name. -/
  library : FragmentLibrary

/-- The compiler with the node types and fragments of this library. -/
def ShaderCompiler.standard : ShaderCompiler := ⟨.builtin, .builtin⟩

/-! ## Roots -/

/-- An output asked for, by the position of its node. -/
structure RootRequest where
  /-- What the output is to drive. -/
  target : Target
  /-- The output. -/
  source : Source

/-- The inputs of the material output, and what they drive. -/
def materialInputs : List (String × Target) :=
  [("surface", .color), ("alpha", .alpha), ("displacement", .displacement)]

/-- The material output that counts: the first one marked as active, or else the first. -/
def activeOutput? (network : Network) : Option Station :=
  let outputs := network.stations.filter (·.kind.name == Nodes.outputMaterialName)
  (outputs.find? (·.node.isSwitchedOn "is_active_output" false)).or outputs.head?

/-- Reads the roots from the links that end in the material output.  Inputs without a link drive
nothing. -/
def inferRoots (network : Network) : Except CompileError (List RootRequest) :=
  match activeOutput? network with
  | none => .error .missingRoot
  | some station =>
    .ok (materialInputs.filterMap fun (socket, target) =>
      (station.sources.get? socket).map fun source => ⟨target, source⟩)

/-- Finds the nodes of explicit roots. -/
def findRoots (tree : NodeTree) (roots : List Root) : Except CompileError (List RootRequest) :=
  roots.mapM fun root =>
    match tree.indexOf? root.socket.node with
    | some i => .ok ⟨root.target, ⟨i, root.socket.socket⟩⟩
    | none => .error (.unknownNode root.socket.node)

/-- Finds the value of a root, and adds it behind those found before.  Its type must convert to that
of the target. -/
def resolveRoot (network : Network) (found : List ResolvedRoot) (request : RootRequest) :
    Except CompileError (List ResolvedRoot) := do
  if found.any (·.target == request.target) then .error (.duplicateRoot request.target)
  else
    let (name, type) ← network.output request.source.node request.source.socket
    match type.convert? name request.target.type with
    | some expr => return found ++ [⟨request.target, request.source.node, expr⟩]
    | none =>
      let node := (network.stations[request.source.node]?.map (·.node.id)).getD ""
      .error (.typeMismatch node request.source.socket type request.target.type)

/-- The roots of a tree: the explicit ones, or those of its material output. -/
def resolveRoots (tree : NodeTree) (network : Network) (roots : List Root) :
    Except CompileError (List ResolvedRoot) := do
  let requests ← if roots.isEmpty then inferRoots network else findRoots tree roots
  if requests.isEmpty then .error .missingRoot
  else requests.foldlM (resolveRoot network) []

/-- The nodes of the roots whose target satisfies `keep`. -/
def rootNodes (roots : List ResolvedRoot) (keep : Target → Bool) : List Nat :=
  (roots.filter fun root => keep root.target).map ResolvedRoot.node

/-- The expression that drives a target. -/
def rootExpr? (roots : List ResolvedRoot) (target : Target) : Option String :=
  (roots.find? (·.target == target)).map ResolvedRoot.expr

/-! ## Evaluation -/

/-- The expression that feeds an input: the variable of the output linked to it, converted; or else
the constant of the value authored for it or in force; or nothing, when the node fills it itself. -/
def operandOf (network : Network) (station : Station) (input : InputSpec) :
    Except CompileError Operand :=
  match station.sources.get? input.name with
  | some source => do
    let (name, type) ← network.output source.node source.socket
    match type.convert? name input.type with
    | some expr => return ⟨expr, true⟩
    | none => .error (.typeMismatch station.node.id input.name type input.type)
  | none =>
    match input.default? with
    | none => .ok ⟨"", false⟩
    | some default =>
      let value := (station.node.literals.get? input.name).getD default
      match input.type.literal? value with
      | some expr => .ok ⟨expr, false⟩
      | none => .error (.malformedNode station.node.id (.noLiteral input.name input.type))

/-- The expressions that feed the inputs of a node. -/
def operandsOf (network : Network) (station : Station) : Except CompileError Operands := do
  let values ← station.signature.inputs.foldlM
    (fun values input => do return values.insert input.name (← operandOf network station input)) ∅
  return ⟨station.node.id, values⟩

/-- The statements that store the outputs of a node in their variables, one for each. -/
def outputStatements (network : Network) (index : Nat) :
    List ((String × SocketType) × String) → Except CompileError (List Statement)
  | [] => .ok []
  | ((socket, type), expr) :: rest => do
    let (name, _) ← network.output index socket
    return .declare type name expr :: (← outputStatements network index rest)

/-- Evaluates one node for a stage: its own statements come first, then those that store its
outputs. -/
def evaluateNode (library : FragmentLibrary) (network : Network) (stage : Stage) (index : Nat)
    (station : Station) (declarations : Declarations) (names : NamePool) :
    Except CompileError (NodeCode × Declarations × NamePool) := do
  let operands ← operandsOf network station
  let start : Emission := { declarations, names, requires := {}, statements := [] }
  let site : Site := { stage, node := station.node.id, library }
  let (exprs, written) ← ((station.kind.emit station.node operands).run site).run start
  let outputs := station.signature.outputs
  -- a type that keeps its own promises never ends here
  if exprs.length ≠ outputs.length then
    .error (.malformedNode station.node.id
      (.outputCount station.kind.name exprs.length outputs.length))
  else
    let stored ← outputStatements network index (outputs.zip exprs)
    let code : NodeCode :=
      { statements := written.statements ++ stored, requires := written.requires }
    return (code, written.declarations, written.names)

/-- Evaluates nodes for a stage, one after another.  Each must come after those that it reads from.
-/
def evaluate (library : FragmentLibrary) (network : Network) (stage : Stage) :
    List Nat → Declarations → NamePool →
      Except CompileError (StageCode × Declarations × NamePool)
  | [], declarations, names => .ok ([], declarations, names)
  | index :: rest, declarations, names =>
    match network.stations[index]? with
    | none => .error (.unknownNode s!"#{index}")
    | some station => do
      let (code, declarations, names) ←
        evaluateNode library network stage index station declarations names
      let (codes, declarations, names) ←
        evaluate library network stage rest declarations names
      return ((index, code) :: codes, declarations, names)

/-- The trimmed texts of the included fragments, by name. -/
def includedTexts (library : FragmentLibrary) (names : List String) :
    Except CompileError (OrderedMap String String) :=
  names.foldlM
    (fun texts name =>
      match library.get? name with
      | some fragment => .ok (texts.insert name (Blank.trim fragment.source))
      | none => .error (.unknownFragment name))
    ∅

/-! ## Programs -/

namespace CompiledShader

/-- The expression that drives a target. -/
def root? (shader : CompiledShader) (target : Target) : Option String :=
  rootExpr? shader.roots target

/-- Whether the tree drives a target. -/
def hasRoot (shader : CompiledShader) (target : Target) : Bool := (shader.root? target).isSome

/-- The vertex shader of the main program. -/
def mainVertex (shader : CompiledShader) : VertexShader :=
  shader.base.vertexShader (shader.vertexCode.map Prod.snd) (shader.fragmentCode.map Prod.snd)
    (shader.root? .displacement)

/-- The fragment shader of the main program. -/
def mainFragment (shader : CompiledShader) : FragmentShader :=
  shader.base.fragmentShader (shader.fragmentCode.map Prod.snd) (shader.root? .alpha)
    (.color (shader.root? .color))

/-- The main program. -/
def sources (shader : CompiledShader) : ShaderSources :=
  ⟨shader.mainVertex.text, shader.mainFragment.text⟩

/-- The code of the nodes that feed the coverage, taken from that of the fragments. -/
def alphaCode (shader : CompiledShader) : List NodeCode :=
  shader.alphaNodes.filterMap fun i => (shader.fragmentCode.find? (·.1 == i)).map Prod.snd

/-- The vertex shader of the program that only writes depth. -/
def depthVertex (shader : CompiledShader) : VertexShader :=
  shader.base.vertexShader (shader.vertexCode.map Prod.snd) shader.alphaCode
    (shader.root? .displacement)

/-- The fragment shader of the program that only writes depth. -/
def depthFragment (shader : CompiledShader) : FragmentShader :=
  shader.base.fragmentShader shader.alphaCode (shader.root? .alpha) .depth

/-- The program that only writes depth.  It keeps displacement and coverage and drops the color;
no node is evaluated again. -/
def depthVariant (shader : CompiledShader) : ShaderSources :=
  ⟨shader.depthVertex.text, shader.depthFragment.text⟩

end CompiledShader

namespace ShaderCompiler

/-- Compiles a tree.  Without explicit roots they are read from its material output. -/
def compile (compiler : ShaderCompiler) (tree : NodeTree) (roots : List Root) :
    Except CompileError CompiledShader := do
  let (network, names) ← Network.resolve tree compiler.nodes .empty
  let roots ← resolveRoots tree network roots
  -- a root counts for the stage in which its target is computed
  let members (stage : Stage) := network.needed (rootNodes roots (·.stage == stage))
  let (fragmentCode, declarations, names) ←
    evaluate compiler.library network .fragment (members .fragment) {} names
  let (vertexCode, declarations, _) ←
    evaluate compiler.library network .vertex (members .vertex) declarations names
  let alphaMembers := network.closure (rootNodes roots (· == .alpha))
  -- fragments are looked up once for both stages, in the order in which they were included
  let includes ← includedTexts compiler.library declarations.includes.toList
  return {
    base := { declarations, includes }
    vertexCode
    fragmentCode
    alphaNodes := (fragmentCode.map Prod.fst).filter alphaMembers.contains
    roots }

/-- Reads a tree from a document and compiles it. -/
def compileJson (compiler : ShaderCompiler) (tree : Json) : Except CompileError CompiledShader := do
  compiler.compile (← NodeTree.ofJson tree) []

end ShaderCompiler

end SceneEngine.Shading
