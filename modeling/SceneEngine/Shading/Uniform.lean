import SceneEngine.Ordered.Map
import SceneEngine.Vec

/-!
# Uniforms

The parameters of a program that the host sets before it draws, and the hooks that refresh some of
them for every frame.

Most parameters have the value that they were declared with for as long as the program is used.
Those about the frame cannot: the time, the camera and the drawn object.  For each of the three
there is a hook, which writes the parameters that belong together.  A material lists the hooks that
its program needs, and a host applies them to the table of parameters before each draw.
-/

namespace SceneEngine.Shading

/-- The value of a parameter. -/
inductive UniformValue where
  /-- A number of single precision. -/
  | float (value : Float32)
  /-- A whole number. -/
  | int (value : Int32)
  /-- A truth value. -/
  | bool (value : Bool)
  /-- Two coordinates, -/
  | vec2 (value : Vec 2)
  /-- three, -/
  | vec3 (value : Vec 3)
  /-- or four. -/
  | vec4 (value : Vec 4)
  /-- An image to sample, by its path. -/
  | texture (path : String)

/-- The type of a parameter in a shader. -/
def UniformValue.glsl : UniformValue → String
  | .float _ => "float"
  | .int _ => "int"
  | .bool _ => "bool"
  | .vec2 _ => "vec2"
  | .vec3 _ => "vec3"
  | .vec4 _ => "vec4"
  | .texture _ => "sampler2D"

/-- What the hooks know about a frame. -/
structure FrameInfo where
  /-- Seconds since the start. -/
  time : Float := 0
  /-- The number of frames before this one. -/
  frame : UInt64 := 0
  /-- From where the scene is seen, -/
  cameraPosition : Vec 3 := Vec.zero
  /-- and in which direction. -/
  cameraDirection : Vec 3 := Vec.zero
  /-- The origin of the object being drawn. -/
  objectLocation : Vec 3 := Vec.zero

/-- The parameters of a material with their current values, in the order of declaration. -/
abbrev UniformTable := OrderedMap String UniformValue

/-- The elapsed time in seconds. -/
def timeUniform : String := "uTime"

/-- The frame counter. -/
def frameUniform : String := "uFrame"

/-- The position of the camera. -/
def cameraPositionUniform : String := "uCameraPosition"

/-- The direction in which the camera looks. -/
def cameraDirectionUniform : String := "uCameraDirection"

/-- The origin of the drawn object. -/
def objectLocationUniform : String := "uObjectLocation"

/-- Something a material needs before every draw. -/
inductive RenderHook where
  /-- The time and the number of the frame. -/
  | updateTime
  /-- The camera. -/
  | updateCamera
  /-- The object that is drawn. -/
  | updateObjectLocation
  deriving DecidableEq

namespace RenderHook

/-- All hooks. -/
def all : List RenderHook := [.updateTime, .updateCamera, .updateObjectLocation]

/-- The name of a hook. -/
def name : RenderHook → String
  | .updateTime => "UpdateTime"
  | .updateCamera => "UpdateCamera"
  | .updateObjectLocation => "UpdateObjectLocation"

/-- The parameters that a hook writes, with their values for a frame. -/
def writes (hook : RenderHook) (frame : FrameInfo) : List (String × UniformValue) :=
  match hook with
  | .updateTime =>
    [(timeUniform, .float frame.time.toFloat32),
     (frameUniform, .float frame.frame.toFloat32)]
  | .updateCamera =>
    [(cameraPositionUniform, .vec3 frame.cameraPosition),
     (cameraDirectionUniform, .vec3 frame.cameraDirection)]
  | .updateObjectLocation => [(objectLocationUniform, .vec3 frame.objectLocation)]

/-- Refreshes the parameters that a hook owns; all others stay. -/
def apply (hook : RenderHook) (table : UniformTable) (frame : FrameInfo) : UniformTable :=
  (hook.writes frame).foldl (fun table (name, value) => table.insert name value) table

end RenderHook

end SceneEngine.Shading
