import SceneEngine.Store.Scene

/-!
# Standard components

The components that every engine knows.  An application may declare more behind them.

Materials are the reason for three of them.  An author names a material (`materialName`) and draws
its tree (`shaderTree`); from both the engine makes what the renderer needs (`material`).  One
component is nothing but a mark: whoever has it is the active `camera`, and the store sees to it
that nobody else has it.
-/

namespace SceneEngine

namespace Components

/-- What an entity is, for example a lamp.  Every new entity has it. -/
def type : String := "type"

/-- The name of the geometry. -/
def mesh : String := "mesh"

/-- The node tree of the material, a document. -/
def shaderTree : String := "shaderTree"

/-- The name of the material; trees are replaced by it. -/
def materialName : String := "materialName"

/-- The compiled material, which the engine writes. -/
def material : String := "material"

/-- The tree of logic nodes, a document. -/
def logicTree : String := "logicTree"

/-- The position in the world. -/
def position : String := "position"

/-- The velocity in the world. -/
def velocity : String := "velocity"

/-- The direction in which the entity looks. -/
def direction : String := "direction"

/-- The entity that owns this one. -/
def ownerId : String := "ownerId"

/-- The mark of the active camera, of which there is at most one. -/
def camera : String := "camera"

end Components

open Components in
/-- The declarations of the standard components, in the order in which they get their identifiers.
The defaults that are texts are shared, so they are drawn from the supply. -/
def standardComponents : StateM Supply (List ComponentDef) := do
  let emptyText : StateM Supply ComponentValue := return .text (← modifyGet (·.share ""))
  return [
    { name := type, default := ← emptyText, seeded := true },
    { name := mesh, default := ← emptyText },
    { name := shaderTree, default := .null },
    { name := materialName, default := ← emptyText },
    { name := material, default := .null },
    { name := logicTree, default := .null },
    { name := position, default := .vec3 Vec.zero },
    { name := velocity, default := .vec3 Vec.zero },
    { name := direction, default := .vec3 (Vec.ofList [0, 0, -1]) },
    { name := ownerId, default := ← emptyText },
    { name := camera, default := .null, singleton := true }]

end SceneEngine
