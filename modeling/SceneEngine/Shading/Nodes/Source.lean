import SceneEngine.Shading.NodeKind

/-!
# Sources

Node types that read constants, the mesh, or the state of the frame.  They have no inputs; what they
give is told by properties or by the place at which the code runs.

What is known about the surface is passed on to the fragment stage under fixed names, and attributes
under names made from theirs.  The three types about the frame declare parameters with a default and
ask for the hook that refreshes them.  All parameters of a hook are declared together, whichever
outputs of the node are used, so that the hook finds them.
-/

namespace SceneEngine.Shading.Nodes

/-- A constant number, the property `value`; zero without one. -/
def value : NodeKind where
  name := "value"
  signature node := .ok { inputs := [], outputs := [(node.singleOutput "value", .float)] }
  emit node _ := do
    let x ← match node.property? "value" with
      | none => pure 0
      | some .null => pure 0
      | some json =>
        match json.asReal? with
        | some x => pure x
        | none => throw (node.invalidProperty "value" .notANumber)
    return [SocketType.constant x]

/-- The color of a node that is not given one. -/
def defaultColor : Json := .array [.real 0.8, .real 0.8, .real 0.8, .real 1.0]

/-- A constant color, the property `color`. -/
def rgb : NodeKind where
  name := "rgb"
  signature node := .ok { inputs := [], outputs := [(node.singleOutput "color", .vec4)] }
  emit node _ :=
    match SocketType.vec4.literal? ((node.property? "color").getD defaultColor) with
    | some literal => return [literal]
    | none => throw (node.invalidProperty "color" .notNumbers)

/-- Coordinates of the mesh. -/
def texCoord : NodeKind where
  name := "tex_coord"
  signature _ := .ok
    { inputs := []
      outputs := [("generated", .vec3), ("normal", .vec3), ("uv", .vec3), ("object", .vec3)] }
  emit _ _ := do
    let position ← Emit.objectPosition
    let normal ← Emit.normal
    let uv ← Emit.uv
    return ["(" ++ position ++ " * 0.5 + 0.5)", normal, "vec3(" ++ uv ++ ", 0.0)", position]

/-- A named attribute of the vertices of the mesh.  The name is reduced to an identifier, and
something of it must be left. -/
def attributeNode : NodeKind where
  name := "attribute"
  signature _ := .ok
    { inputs := [], outputs := [("color", .vec4), ("vector", .vec3), ("fac", .float)] }
  emit node _ := do
    let name := Identifier.sanitize ((node.stringProperty? "attribute_name").getD "")
    if name.isEmpty then throw (node.invalidProperty "attribute_name" .noName)
    let attributeName ← Emit.vertexAttribute ("a_" ++ name) .vec4
    let color ← Emit.interpolated ("v_" ++ name) .vec4 attributeName attributeName
    return [color, color ++ ".xyz", SocketType.average 4 color]

/-- The elapsed time and the number of frames. -/
def sceneTime : NodeKind where
  name := "scene_time"
  signature _ := .ok { inputs := [], outputs := [("seconds", .float), ("frame", .float)] }
  emit _ _ := do
    let seconds ← Emit.uniform timeUniform (.float 0)
    let frame ← Emit.uniform frameUniform (.float 0)
    Emit.hook .updateTime
    return [seconds, frame]

/-- Where the shaded point lies as seen from the camera. -/
def cameraData : NodeKind where
  name := "camera_data"
  signature _ := .ok
    { inputs := []
      outputs := [("view_vector", .vec3), ("view_z_depth", .float), ("view_distance", .float)] }
  emit _ _ := do
    let camera ← Emit.uniform cameraPositionUniform (.vec3 Vec.zero)
    let direction ← Emit.uniform cameraDirectionUniform (.vec3 ⟨#v[0, 0, -1]⟩)
    Emit.hook .updateCamera
    let world ← Emit.worldPosition
    let offset ← Emit.freshLocal "offset"
    Emit.statement (.declare .vec3 offset (world ++ " - " ++ camera))
    return ["normalize(" ++ offset ++ ")", "dot(" ++ offset ++ ", normalize(" ++ direction ++ "))",
      "length(" ++ offset ++ ")"]

/-- Where the drawn object lies, and a random number that belongs to that place. -/
def objectInfo : NodeKind where
  name := "object_info"
  signature _ := .ok { inputs := [], outputs := [("location", .vec3), ("random", .float)] }
  emit _ _ := do
    let location ← Emit.uniform objectLocationUniform (.vec3 Vec.zero)
    Emit.hook .updateObjectLocation
    Emit.define "USE_OBJECT_INFO"
    Emit.fragment "hash"
    return [location, "tessel_hash13(" ++ location ++ ")"]

/-- All sources. -/
def sources : List NodeKind :=
  [value, rgb, texCoord, attributeNode, sceneTime, cameraData, objectInfo]

end SceneEngine.Shading.Nodes
