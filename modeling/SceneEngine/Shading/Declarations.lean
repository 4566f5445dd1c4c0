import SceneEngine.Ordered.Map
import SceneEngine.Ordered.Set
import SceneEngine.Shading.SocketType
import SceneEngine.Shading.Uniform

/-!
# Declarations

What a program declares beside the code of its nodes, collected while the nodes are evaluated, and
what the code of a single node relies on.

The declarations belong to a whole compile and hold the details: types, default values, sources
(`Declarations`).  The requirements belong to a node and are names only (`Requirements`).  Since
nodes are evaluated once but their code may go into several programs, a program takes from the
declarations what the requirements of its nodes name, and so a part of the nodes can be written with
no more than it needs.

Declarations keep the order of first use, which is the order in which they stand in a program.
-/

namespace SceneEngine.Shading

/-- A value that passes from the vertex to the fragment stage. -/
structure Varying where
  /-- The type on both sides. -/
  type : SocketType
  /-- The expression it is assigned from in the vertex stage. -/
  source : String
  deriving DecidableEq

/-- The declarations of one compile, each kind in the order of first use. -/
structure Declarations where
  /-- Parameters with their default values. -/
  uniforms : UniformTable := ∅
  /-- Preprocessor flags. -/
  defines : OrderedSet String := ∅
  /-- Values that pass from the vertex to the fragment stage. -/
  varyings : OrderedMap String Varying := ∅
  /-- Attributes of a vertex beyond position, normal and surface coordinates. -/
  attributes : OrderedMap String SocketType := ∅
  /-- Library fragments, dependencies first. -/
  includes : OrderedSet String := ∅
  /-- What to do before every draw. -/
  hooks : OrderedSet RenderHook := ∅

/-- The parameters after all hooks have refreshed theirs, in the order in which they were asked for.
-/
def Declarations.applyHooks (declarations : Declarations) (table : UniformTable)
    (frame : FrameInfo) : UniformTable :=
  declarations.hooks.toList.foldl (fun table hook => hook.apply table frame) table

/-- The names that the code of a node, or of several, relies on. -/
structure Requirements where
  /-- Parameters, -/
  uniforms : OrderedSet String := ∅
  /-- flags, -/
  defines : OrderedSet String := ∅
  /-- values passed between the stages, -/
  varyings : OrderedSet String := ∅
  /-- attributes of the vertex -/
  attributes : OrderedSet String := ∅
  /-- and library fragments. -/
  includes : OrderedSet String := ∅

/-- What two pieces of code rely on together, the first one's names first. -/
def Requirements.merge (a b : Requirements) : Requirements where
  uniforms := a.uniforms.insertMany b.uniforms.toList
  defines := a.defines.insertMany b.defines.toList
  varyings := a.varyings.insertMany b.varyings.toList
  attributes := a.attributes.insertMany b.attributes.toList
  includes := a.includes.insertMany b.includes.toList

end SceneEngine.Shading
