import SceneEngine.Shading.NodeKind

/-!
# Outputs

Node types at the end of a tree: shading, and the material output from which the roots of a tree are
read.  There is no light in these programs beside what a surface sends out, so shading comes to
multiplying a color by a strength and leaving its coverage alone.

The material output is never evaluated.  It exists to be linked to: its inputs have no defaults, and
those that are linked become the roots of a compile for which none are given.
-/

namespace SceneEngine.Shading.Nodes

/-- Light of a color. -/
def emission : NodeKind where
  name := "emission"
  signature _ := .ok
    { inputs :=
        [⟨"color", .vec4, some (.array [.real 1, .real 1, .real 1, .real 1])⟩,
         ⟨"strength", .float, some (.real 1)⟩]
      outputs := [("emission", .vec4)] }
  emit _ operands := do
    let color ← operands.get "color"
    let strength ← operands.get "strength"
    return ["vec4(" ++ color ++ ".rgb * " ++ strength ++ ", " ++ color ++ ".a)"]

/-- The name of the material output. -/
def outputMaterialName : String := "output_material"

/-- The end of a material.  It has no code of its own; the links that end here say what the
program puts out. -/
def outputMaterial : NodeKind where
  name := outputMaterialName
  signature _ := .ok
    { inputs :=
        [⟨"surface", .vec4, none⟩, ⟨"alpha", .float, none⟩, ⟨"displacement", .vec3, none⟩]
      outputs := [] }
  emit _ _ := return []

/-- All outputs. -/
def outputs : List NodeKind := [emission, outputMaterial]

end SceneEngine.Shading.Nodes
