import SceneEngine.Shading.NodeKind

/-!
# Textures

Node types that sample images or noise at a place.  The place is what is linked to the type's input,
or else what is natural for it: the surface coordinates for an image, the position in object space
for noise.  The input has no default for this reason.

Samples are stored in variables of the node, where several outputs are computed from one of them:
reading an image is expensive, and fractal noise even more so.
-/

namespace SceneEngine.Shading.Nodes

/-- The coordinates that a texture is read at: those linked to it, or its natural ones. -/
def coordinates (operands : Operands) (natural : Emit String) : Emit String :=
  match operands.linked? "vector" with
  | some expr => return expr
  | none => natural

/-- The path of the image that a node samples: a text, or a record with a path or a name. -/
def imagePath? (node : Node) : Option String :=
  let image := match node.property? "image" with
    | some (.string path) => some path
    | some (.object fields) =>
      ((Json.fieldOf? fields "filepath").or (Json.fieldOf? fields "name")).bind Json.asString?
    | _ => none
  image.filter (!·.isEmpty)

/-- Samples an image. -/
def texImage : NodeKind where
  name := "tex_image"
  signature _ := .ok
    { inputs := [⟨"vector", .vec3, none⟩], outputs := [("color", .vec4), ("alpha", .float)] }
  emit node operands := do
    let some path := imagePath? node | throw (node.invalidProperty "image" .noImage)
    let sampler ← Emit.sampler path
    let vector ← coordinates operands do return "vec3(" ++ (← Emit.uv) ++ ", 0.0)"
    let sample ← Emit.freshLocal "sample"
    Emit.statement
      (.declare .vec4 sample ("texture(" ++ sampler ++ ", " ++ vector ++ ".xy)"))
    return [sample, sample ++ ".a"]

/-- Fractal noise, as a number and as a color whose parts are read at different places. -/
def texNoise : NodeKind where
  name := "tex_noise"
  signature _ := .ok
    { inputs :=
        [⟨"vector", .vec3, none⟩, ⟨"scale", .float, some (.real 5)⟩,
         ⟨"detail", .float, some (.real 2)⟩, ⟨"roughness", .float, some (.real 0.5)⟩]
      outputs := [("fac", .float), ("color", .vec4)] }
  emit _ operands := do
    Emit.fragment "noise"
    let vector ← coordinates operands Emit.objectPosition
    let detail ← operands.get "detail"
    let roughness ← operands.get "roughness"
    let point ← Emit.freshLocal "p"
    let fac ← Emit.freshLocal "fac"
    let scale ← operands.get "scale"
    let noise (place : String) :=
      "tessel_fbm(" ++ place ++ ", " ++ detail ++ ", " ++ roughness ++ ")"
    Emit.statement (.declare .vec3 point (vector ++ " * " ++ scale))
    Emit.statement (.declare .float fac (noise point))
    let green := noise (point ++ " + vec3(19.1, 33.4, 47.2)")
    let blue := noise (point ++ " + vec3(74.2, 12.5, 5.3)")
    return [fac, "vec4(" ++ fac ++ ", " ++ green ++ ", " ++ blue ++ ", 1.0)"]

/-- Noise without any correlation between places. -/
def texWhiteNoise : NodeKind where
  name := "tex_white_noise"
  signature _ := .ok
    { inputs := [⟨"vector", .vec3, none⟩], outputs := [("value", .float), ("color", .vec4)] }
  emit _ operands := do
    Emit.fragment "hash"
    let vector ← coordinates operands Emit.objectPosition
    return ["tessel_hash13(" ++ vector ++ ")", "vec4(tessel_hash33(" ++ vector ++ "), 1.0)"]

/-- All textures. -/
def textures : List NodeKind := [texImage, texNoise, texWhiteNoise]

end SceneEngine.Shading.Nodes
