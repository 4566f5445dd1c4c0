import SceneEngine.Shading.Nodes.Arithmetic
import SceneEngine.Shading.Nodes.Output
import SceneEngine.Shading.Nodes.Source
import SceneEngine.Shading.Nodes.Texture

/-!
# The node types at hand

All node types of this library in one registry.  Their names are different, so the order in which
they are registered does not matter.
-/

namespace SceneEngine.Shading

/-- The registry of all node types of this library. -/
def NodeRegistry.builtin : NodeRegistry :=
  (Nodes.sources ++ Nodes.arithmetic ++ Nodes.textures ++ Nodes.outputs).foldl
    NodeRegistry.register .empty

end SceneEngine.Shading
