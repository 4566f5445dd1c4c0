import SceneEngine.Script.Document
import SceneEngine.Shading.Material

/-!
# Shaders in scripts

How parameters, frames and compiled shaders are written and shown, and node types whose code is
given as a list of steps.

A node type made of steps can do whatever the built-in ones can: ask for operands and for names,
declare parameters, textures and attributes, include fragments, and write statements.  Each step
makes a text, and later steps and the expressions of the outputs refer to the texts by their numbers
(`fillPlaces`).  Scripts can so bring types of their own, well-behaved or not.
-/

namespace SceneEngine.Script

open Shading

/-! ## Parameters and frames -/

/-- Reads the value of a parameter. -/
def readUniform (json : Json) : UniformValue :=
  match json with
  | .object [("Int", n)] => .int (Int32.ofInt (int n))
  | .object [("Bool", b)] => .bool (b.asBool?.getD false)
  | .object [("Vec2", v)] => .vec2 (vec 2 v)
  | .object [("Vec3", v)] => .vec3 (vec 3 v)
  | .object [("Vec4", v)] => .vec4 (vec 4 v)
  | .object [("Texture", path)] => .texture (text path)
  | .object [(_, x)] => .float (single x)
  | json => .float (single json)

/-- Shows the value of a parameter. -/
def showUniform : UniformValue → Json
  | .float x => .object [("Float", bits32 x)]
  | .int n => .object [("Int", .integer n.toInt)]
  | .bool b => .object [("Bool", .bool b)]
  | .vec2 v => .object [("Vec2", coordinates v)]
  | .vec3 v => .object [("Vec3", coordinates v)]
  | .vec4 v => .object [("Vec4", coordinates v)]
  | .texture path => .object [("Texture", .string path)]

/-- Shows parameters with their values and types, in the order of the table. -/
def showTable (table : UniformTable) : Json :=
  list (fun (name, value) => .array [.string name, showUniform value, .string value.glsl])
    table.entries

/-- Reads what is known about a frame. -/
def readFrame (json : Json) : FrameInfo where
  time := realAt json "time"
  frame := (natAt json "frame").toUInt64
  cameraPosition := vec 3 (field json "camera_position")
  cameraDirection := vec 3 (field json "camera_direction")
  objectLocation := vec 3 (field json "object_location")

/-- Shows what is known about a frame. -/
def showFrame (frame : FrameInfo) : Json :=
  .object
    [("time", bits64 frame.time), ("frame", num frame.frame.toNat),
     ("camera_position", coordinates frame.cameraPosition),
     ("camera_direction", coordinates frame.cameraDirection),
     ("object_location", coordinates frame.objectLocation)]

/-! ## Words -/

/-- A socket type by its name; `float` when there is none of the name. -/
def readSocketType (json : Json) : SocketType := (SocketType.parse? (text json)).getD .float

/-- A target by its name; `color` when there is none of the name. -/
def readTarget (json : Json) : Target := (Target.all.find? (·.name == text json)).getD .color

/-- A hook by its name; the first one when there is none of the name. -/
def readHook (json : Json) : RenderHook :=
  (RenderHook.all.find? (·.name == text json)).getD .updateTime

/-- The word for a stage. -/
def stageWord : Stage → String
  | .vertex => "Vertex"
  | .fragment => "Fragment"

/-! ## Compiled shaders -/

/-- Shows the sources of a program. -/
def showSources (sources : ShaderSources) : Json :=
  .object [("vertex", .string sources.vertex), ("fragment", .string sources.fragment)]

/-- Shows a compiled shader; with a frame also its parameters for that frame, that is after its
hooks have written theirs. -/
def showShader (shader : CompiledShader) (frame? : Option FrameInfo) : Json :=
  let sources := shader.sources
  let declarations := shader.base.declarations
  let fields :=
    [("vertex", .string sources.vertex), ("fragment", .string sources.fragment),
     ("depth", showSources shader.depthVariant),
     ("roots", list (fun t : Target => .string t.name) (Target.all.filter shader.hasRoot)),
     ("uniforms", showTable declarations.uniforms),
     ("defines", list .string declarations.defines.toList),
     ("varyings", list (fun (name, v) => list .string [name, v.type.glsl, v.source])
       declarations.varyings.entries),
     ("attributes", list (fun (name, t) => list .string [name, t.glsl])
       declarations.attributes.entries),
     ("includes", list .string declarations.includes.toList),
     ("hooks", list (fun h : RenderHook => .string h.name) declarations.hooks.toList)]
  let table := frame?.map fun frame =>
    ("table", showTable (declarations.applyHooks declarations.uniforms frame))
  .object (fields ++ table.toList)

/-- Shows a material by its fragment source. -/
def showMaterial (material : Material) : Json :=
  .object
    [("name", .string material.name), ("fragment", .string material.shader.sources.fragment),
     ("depth", .bool material.depth?.isSome)]

/-- Shows a material with its whole shader. -/
def showWholeMaterial (material : Material) : Json :=
  .object
    [("name", .string material.name), ("shader", showShader material.shader none),
     ("same_sources", .bool true), ("depth", orNull showSources material.depth?)]

/-! ## Node types given as steps -/

/-- Puts the texts made so far into the numbered places of a template.  The highest number goes
first, so that `%1` does not claim a part of `%10`. -/
def fillPlaces (made : List String) (template : String) : String :=
  made.zipIdx.reverse.foldl (fun t (value, i) => t.replace ("%" ++ toString i) value) template

/-- Runs one step, which makes a text. -/
def emitStep (operands : Operands) (made : List String) (step : Json) : Emit String := do
  let word (i : Nat) := text (item step i)
  match word 0 with
  | "arg" => operands.get (word 1)
  | "linked" => return (operands.linked? (word 1)).getD "none"
  | "include" => do Emit.fragment (word 1); return ""
  | "uniform" => Emit.uniform (word 1) (readUniform (item step 2))
  | "texture" => Emit.sampler (word 1)
  | "attribute" => Emit.vertexAttribute (word 1) (readSocketType (item step 2))
  | "varying" => Emit.varying (word 1) (readSocketType (item step 2)) (word 3)
  | "local" => Emit.freshLocal (word 1)
  | "uv" => Emit.uv
  | "object_position" => Emit.objectPosition
  | "normal" => Emit.normal
  | "world_position" => Emit.worldPosition
  | "stage" => return stageWord (← Emit.stage)
  | "hook" => do Emit.hook (readHook (item step 1)); return ""
  | "define" => do Emit.define (word 1); return ""
  | "statement" => do Emit.statement (.verbatim (fillPlaces made (word 1))); return ""
  | _ => return ""

/-- Reads a node type.  Its steps run in order; the expressions of its outputs are templates. -/
def readNodeKind (spec : Json) : NodeKind where
  name := textAt spec "name"
  signature _ := .ok
    { inputs := (itemsAt spec "inputs").map fun json =>
        ⟨Identifier.socketKey (textAt json "name"), readSocketType (field json "type"),
          json.field? "default"⟩
      outputs := (itemsAt spec "outputs").map fun json =>
        (Identifier.socketKey (text (item json 0)), readSocketType (item json 1)) }
  emit _ operands := do
    let made ← (itemsAt spec "steps").foldlM
      (fun made step => do return made ++ [← emitStep operands made step]) []
    return (itemsAt spec "exprs").map fun expr => fillPlaces made (text expr)

/-- Reads a library of fragments, built upon the standard one unless the script says otherwise;
also gives what registering them had to say. -/
def readLibrary (spec : Json) : FragmentLibrary × Log :=
  let start := if (field spec "builtin").asBool? == some false then FragmentLibrary.empty
    else FragmentLibrary.builtin
  (itemsAt spec "fragments").foldl
    (fun (library, log) json =>
      let fragment : Fragment :=
        { name := textAt json "name", source := textAt json "source"
          dependencies := (itemsAt json "deps").map text }
      let (library, entries) := library.register fragment
      (library, log ++ entries))
    (start, [])

end SceneEngine.Script
