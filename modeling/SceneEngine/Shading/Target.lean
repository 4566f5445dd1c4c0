import SceneEngine.Shading.SocketType

/-!
# Stages and targets

A program has two stages.  The vertex stage runs once for every vertex of a mesh and places it, the
fragment stage once for every fragment that is covered and colors it.  A target is what an output of
the tree drives: the color and the coverage of a fragment, or the displacement of a vertex.

A target determines the stage in which it is computed and the type that a value must convert to.
Each target is driven by one root at most; without one the program does what it would do for a plain
surface.
-/

namespace SceneEngine.Shading

/-- The stage that code runs in. -/
inductive Stage where
  /-- Once for every vertex. -/
  | vertex
  /-- Once for every fragment. -/
  | fragment
  deriving DecidableEq

/-- What an output of a tree drives. -/
inductive Target where
  /-- The color of a fragment. -/
  | color
  /-- The coverage of a fragment; fragments that are hardly covered are dropped. -/
  | alpha
  /-- The offset of a vertex in object space. -/
  | displacement
  deriving DecidableEq

namespace Target

/-- The name of a target. -/
def name : Target → String
  | .color => "color"
  | .alpha => "alpha"
  | .displacement => "displacement"

/-- The type that a target's value is converted to. -/
def type : Target → SocketType
  | .color => .vec4
  | .alpha => .float
  | .displacement => .vec3

/-- The stage in which a target is computed. -/
def stage : Target → Stage
  | .displacement => .vertex
  | _ => .fragment

/-- All targets, in the order in which they are listed. -/
def all : List Target := [.color, .alpha, .displacement]

end Target

end SceneEngine.Shading
