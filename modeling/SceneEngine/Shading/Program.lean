import SceneEngine.Shading.Declarations
import SceneEngine.Shading.NodeKind

/-!
# Programs

A pair of shaders put together from the code of nodes.  A shader is first described by its parts,
restricted to what its nodes rely on, and then written as text.

## Parts

`VertexShader` and `FragmentShader` list what a shader declares and contains.  The vertex shader
passes on what the fragment nodes beside it read, so it declares what these rely on of attributes
and passed values beside what its own nodes do.  Both are made from a `ProgramBase`, the
declarations of a compile, by choosing the entries that are asked for; entries keep the order in
which they were first declared.

## Text

A shader is a list of lines in groups, with an empty line behind each group: the version and the
flags, what comes in, the parameters, what goes out, the library fragments, and the main function.
The main function has the statements of the nodes first.  Behind them come those that every shader
of its kind has: a vertex shader displaces the vertex, assigns the passed values and the position; a
fragment shader drops fragments that are hardly covered, and writes a color or the depth.
-/

namespace SceneEngine.Shading

/-- The code that a node contributes to a stage. -/
structure NodeCode where
  /-- The statements, of which the last ones store the outputs of the node. -/
  statements : List Statement
  /-- What the statements rely on. -/
  requires : Requirements

/-- The evaluated nodes of a stage, by their positions, each behind those that it reads from. -/
abbrev StageCode := List (Nat × NodeCode)

/-- What several nodes rely on together. -/
def requirementsOf (codes : List NodeCode) : Requirements :=
  codes.foldl (fun all code => all.merge code.requires) {}

/-! ## Parts -/

/-- The parts of a vertex shader. -/
structure VertexShader where
  /-- Flags. -/
  defines : List String
  /-- Attributes beyond those that every mesh has. -/
  attributes : List (String × SocketType)
  /-- Parameters beyond the matrices. -/
  uniforms : List (String × UniformValue)
  /-- Values to pass on. -/
  varyings : List (String × Varying)
  /-- Texts of library fragments, without repetition. -/
  includes : List String
  /-- The statements of the nodes. -/
  statements : List Statement
  /-- The expression of the displacement. -/
  displacement? : Option String

/-- What a fragment shader puts out. -/
inductive FragmentOutput where
  /-- A color; white without an expression. -/
  | color (expr? : Option String)
  /-- The depth of the fragment. -/
  | depth

/-- The parts of a fragment shader. -/
structure FragmentShader where
  /-- Flags. -/
  defines : List String
  /-- Parameters. -/
  uniforms : List (String × UniformValue)
  /-- Values that are passed on by the vertex shader. -/
  varyings : List (String × Varying)
  /-- Texts of library fragments, without repetition. -/
  includes : List String
  /-- The statements of the nodes. -/
  statements : List Statement
  /-- The expression of the coverage. -/
  coverage? : Option String
  /-- What is written in the end. -/
  output : FragmentOutput

/-- What all programs of one compile share. -/
structure ProgramBase where
  /-- The declarations of the compile. -/
  declarations : Declarations
  /-- The texts of the included fragments, dependencies first. -/
  includes : OrderedMap String String

namespace ProgramBase

/-- The texts of the fragments asked for.  Fragments of the same text are written once. -/
def includeTexts (base : ProgramBase) (wanted : OrderedSet String) : List String :=
  let chosen := (base.includes.filter fun name _ => decide (name ∈ wanted)).values
  (OrderedSet.ofList chosen).toList

/-- The flags asked for. -/
def definesIn (base : ProgramBase) (wanted : OrderedSet String) : List String :=
  base.declarations.defines.toList.filter fun name => decide (name ∈ wanted)

/-- The entries of a kind of declaration that are asked for. -/
def choose {α : Type} (declared : OrderedMap String α) (wanted : OrderedSet String) :
    List (String × α) :=
  (declared.filter fun name _ => decide (name ∈ wanted)).entries

/-- The vertex shader of some nodes.  It passes on what the fragment nodes beside it read. -/
def vertexShader (base : ProgramBase) (codes beside : List NodeCode)
    (displacement? : Option String) : VertexShader :=
  let own := requirementsOf codes
  let downstream := requirementsOf beside
  -- flags and attributes are declared for either side, parameters and fragments only for its own
  let both := own.merge downstream
  { defines := base.definesIn both.defines
    attributes := choose base.declarations.attributes both.attributes
    uniforms := choose base.declarations.uniforms own.uniforms
    varyings := choose base.declarations.varyings downstream.varyings
    includes := base.includeTexts own.includes
    statements := codes.flatMap NodeCode.statements
    displacement? }

/-- The fragment shader of some nodes. -/
def fragmentShader (base : ProgramBase) (codes : List NodeCode) (coverage? : Option String)
    (output : FragmentOutput) : FragmentShader :=
  let own := requirementsOf codes
  { defines := base.definesIn own.defines
    uniforms := choose base.declarations.uniforms own.uniforms
    varyings := choose base.declarations.varyings own.varyings
    includes := base.includeTexts own.includes
    statements := codes.flatMap NodeCode.statements
    coverage?
    output }

end ProgramBase

/-! ## Text -/

/-- Appends an empty line, unless the text already ends with one. -/
def withBlank (lines : List String) : List String :=
  match lines.getLast? with
  | none => [""]
  | some line =>
    if line.isEmpty || line.toList.getLast? == some '\n' then lines else lines ++ [""]

/-- Appends lines that belong together and an empty line; nothing when there are none. -/
def withGroup (lines group : List String) : List String :=
  if group.isEmpty then lines else withBlank (lines ++ group)

/-- Appends texts, each followed by an empty line. -/
def withTexts (lines texts : List String) : List String :=
  texts.foldl (fun lines text => withBlank (lines ++ [text])) lines

/-- The text of lines, each ended by a line break. -/
def textOf (lines : List String) : String := String.join (lines.map (· ++ "\n"))

/-- The first lines of a shader. -/
def headerLines (defines : List String) : List String :=
  let start := ["#version 300 es", "precision highp float;", "precision highp int;"]
  let flags := defines.map fun name => "#define " ++ name
  withBlank (if flags.isEmpty then start else withBlank start ++ flags)

/-- The declarations of parameters. -/
def uniformLines (uniforms : List (String × UniformValue)) : List String :=
  uniforms.map fun (name, value) => "uniform " ++ value.glsl ++ " " ++ name ++ ";"

/-- The declarations of values passed between the stages. -/
def varyingLines (qualifier : String) (varyings : List (String × Varying)) : List String :=
  varyings.map fun (name, varying) => qualifier ++ " " ++ varying.type.glsl ++ " " ++ name ++ ";"

/-- The main function with the statements of its body. -/
def mainLines (body : List String) : List String :=
  ["void main() \x7b"] ++ body.map ("    " ++ ·) ++ ["\x7d"]

/-- The statements of a vertex shader behind those of its nodes. -/
def VertexShader.finalStatements (shader : VertexShader) : List String :=
  let displaced := match shader.displacement? with
    | some offset => "vec3 displaced = position + " ++ offset ++ ";"
    | none => "vec3 displaced = position;"
  [displaced, "vec4 worldPosition = modelMatrix * vec4(displaced, 1.0);"] ++
    (shader.varyings.map fun (name, varying) => name ++ " = " ++ varying.source ++ ";") ++
    ["gl_Position = projectionMatrix * viewMatrix * worldPosition;"]

/-- The text of a vertex shader. -/
def VertexShader.text (shader : VertexShader) : String :=
  let inputs := ["in vec3 position;", "in vec3 normal;", "in vec2 uv;"] ++
    shader.attributes.map fun (name, type) => "in " ++ type.glsl ++ " " ++ name ++ ";"
  let matrices := ["uniform mat4 modelMatrix;", "uniform mat4 viewMatrix;",
    "uniform mat4 projectionMatrix;"]
  let lines := withGroup (headerLines shader.defines) inputs
  let lines := withGroup lines (matrices ++ uniformLines shader.uniforms)
  let lines := withGroup lines (varyingLines "out" shader.varyings)
  let lines := withTexts lines shader.includes
  let body := shader.statements.map Statement.text ++ shader.finalStatements
  textOf (lines ++ mainLines body)

/-- Fragments that are covered less than this are dropped. -/
def coverageCutoff : String := "0.3"

/-- The statements of a fragment shader behind those of its nodes. -/
def FragmentShader.finalStatements (shader : FragmentShader) : List String :=
  let coverage := match shader.coverage? with
    | some expr =>
      ["float coverage = " ++ expr ++ ";", "if (coverage < " ++ coverageCutoff ++ ") discard;"]
    | none => []
  let output := match shader.output with
    | .depth => ["fragColor = vec4(vec3(gl_FragCoord.z), 1.0);"]
    | .color expr? =>
      ["fragColor = " ++ expr?.getD "vec4(1.0)" ++ ";"] ++
        if shader.coverage?.isSome then ["fragColor.a = coverage;"] else []
  coverage ++ output

/-- The text of a fragment shader. -/
def FragmentShader.text (shader : FragmentShader) : String :=
  let lines := headerLines shader.defines
  let lines := withGroup lines (uniformLines shader.uniforms)
  let lines := withGroup lines (varyingLines "in" shader.varyings)
  let lines := withGroup lines ["out vec4 fragColor;"]
  let lines := withTexts lines shader.includes
  let body := shader.statements.map Statement.text ++ shader.finalStatements
  textOf (lines ++ mainLines body)

end SceneEngine.Shading
