import SceneEngine.Shading.NodeKind

/-!
# Arithmetic

Node types that compute with numbers and vectors.

The two types that calculate choose an operation by a property.  Their operations are templates in
which placeholders stand for the operands, a dollar sign with a mark: the first three operands are
numbered, and the fourth, a scale, has a letter.  All operands of a node are evaluated, whether its
operation uses them or not.  The templates for vectors come in two tables, since the result of an
operation is either a vector or a number, and the other output is zero then.

The other types mix, limit, map, take apart and put together.  Words that choose among variants are
compared in upper case, and an unknown one is an error that names the property.
-/

namespace SceneEngine.Shading.Nodes

/-! ## Templates -/

/-- Puts `operand` in the place of every dollar sign that is followed by `mark`. -/
def fillMark (mark : Char) (operand : List Char) : List Char → List Char
  | [] => []
  | '$' :: c :: cs =>
    if c = mark then operand ++ fillMark mark operand cs else '$' :: fillMark mark operand (c :: cs)
  | c :: cs => c :: fillMark mark operand cs

/-- The marks of the operands in their order. -/
def operandMarks : List Char := ['1', '2', '3', 'S']

/-- Fills the operands of an operation into its template, one after another. -/
def fill (template : String) (operands : List String) : String :=
  String.ofList <| (operandMarks.zip operands).foldl
    (fun cs (mark, operand) => fillMark mark operand.toList cs) template.toList

/-- The operations on numbers. -/
def mathTemplates : List (String × String) :=
  [("ADD", "$1 + $2"),
   ("SUBTRACT", "$1 - $2"),
   ("MULTIPLY", "$1 * $2"),
   ("DIVIDE", "$2 != 0.0 ? $1 / $2 : 0.0"),
   ("MULTIPLY_ADD", "$1 * $2 + $3"),
   ("POWER", "pow($1, $2)"),
   ("LOGARITHM", "($1 > 0.0 && $2 > 0.0) ? log($1) / log($2) : 0.0"),
   ("SQRT", "$1 > 0.0 ? sqrt($1) : 0.0"),
   ("INVERSE_SQRT", "$1 > 0.0 ? inversesqrt($1) : 0.0"),
   ("ABSOLUTE", "abs($1)"),
   ("EXPONENT", "exp($1)"),
   ("MINIMUM", "min($1, $2)"),
   ("MAXIMUM", "max($1, $2)"),
   ("LESS_THAN", "$1 < $2 ? 1.0 : 0.0"),
   ("GREATER_THAN", "$1 > $2 ? 1.0 : 0.0"),
   ("SIGN", "sign($1)"),
   ("COMPARE", "abs($1 - $2) <= max($3, 1e-5) ? 1.0 : 0.0"),
   ("ROUND", "floor($1 + 0.5)"),
   ("FLOOR", "floor($1)"),
   ("CEIL", "ceil($1)"),
   ("TRUNC", "trunc($1)"),
   ("FRACT", "fract($1)"),
   ("MODULO", "$2 != 0.0 ? $1 - $2 * trunc($1 / $2) : 0.0"),
   ("FLOORED_MODULO", "$2 != 0.0 ? $1 - floor($1 / $2) * $2 : 0.0"),
   ("SNAP", "$2 != 0.0 ? floor($1 / $2) * $2 : 0.0"),
   ("PINGPONG", "$2 != 0.0 ? abs(fract(($1 - $2) / ($2 * 2.0)) * $2 * 2.0 - $2) : 0.0"),
   ("SINE", "sin($1)"),
   ("COSINE", "cos($1)"),
   ("TANGENT", "tan($1)"),
   ("ARCSINE", "asin($1)"),
   ("ARCCOSINE", "acos($1)"),
   ("ARCTANGENT", "atan($1)"),
   ("ARCTAN2", "atan($1, $2)"),
   ("RADIANS", "radians($1)"),
   ("DEGREES", "degrees($1)")]

/-- The operations on vectors whose result is a vector. -/
def vectorTemplates : List (String × String) :=
  [("ADD", "$1 + $2"),
   ("SUBTRACT", "$1 - $2"),
   ("MULTIPLY", "$1 * $2"),
   ("DIVIDE", "$1 / $2"),
   ("MULTIPLY_ADD", "$1 * $2 + $3"),
   ("CROSS_PRODUCT", "cross($1, $2)"),
   ("REFLECT", "reflect($1, normalize($2))"),
   ("SCALE", "$1 * $S"),
   ("NORMALIZE", "normalize($1)"),
   ("ABSOLUTE", "abs($1)"),
   ("MINIMUM", "min($1, $2)"),
   ("MAXIMUM", "max($1, $2)"),
   ("FLOOR", "floor($1)"),
   ("CEIL", "ceil($1)"),
   ("FRACT", "fract($1)"),
   ("MODULO", "mod($1, $2)"),
   ("SNAP", "floor($1 / $2) * $2"),
   ("SINE", "sin($1)"),
   ("COSINE", "cos($1)"),
   ("TANGENT", "tan($1)")]

/-- The operations on vectors whose result is a number. -/
def scalarTemplates : List (String × String) :=
  [("DOT_PRODUCT", "dot($1, $2)"),
   ("DISTANCE", "distance($1, $2)"),
   ("LENGTH", "length($1)")]

/-- The template of an operation. -/
def template? (templates : List (String × String)) (operation : String) : Option String :=
  (templates.find? (·.1 == operation)).map Prod.snd

/-! ## Calculating -/

/-- An input that is a number. -/
def scalarInput (name : String) (default : Float) : InputSpec :=
  ⟨name, .float, some (.real default)⟩

/-- A vector of zeros. -/
def zeroVector : Json := .array [.real 0, .real 0, .real 0]

/-- Keeps an expression between zero and one. -/
def saturate (expr : String) : String := "clamp(" ++ expr ++ ", 0.0, 1.0)"

/-- Calculates with numbers; the property `operation` says how.  The result can be kept between zero
and one. -/
def math : NodeKind where
  name := "math"
  signature node := .ok
    { inputs :=
        [scalarInput "value" 0.5, scalarInput "value_001" 0.5, scalarInput "value_002" 0.5]
      outputs := [(node.singleOutput "value", .float)] }
  emit node operands := do
    let operation ← node.choice "operation" "ADD"
    let some template := template? mathTemplates operation
      | throw (node.invalidProperty "operation" (.unsupported "operation" operation))
    let a ← operands.get "value"
    let b ← operands.get "value_001"
    let c ← operands.get "value_002"
    -- the brackets keep the operation together wherever the expression is put
    let expr := "(" ++ fill template [a, b, c] ++ ")"
    return [if node.isSwitchedOn "use_clamp" false then saturate expr else expr]

/-- Calculates with vectors; the property `operation` says how.  Only one of the two outputs
carries the result, the other is zero. -/
def vectorMath : NodeKind where
  name := "vector_math"
  signature _ := .ok
    { inputs :=
        [⟨"vector", .vec3, some zeroVector⟩, ⟨"vector_001", .vec3, some zeroVector⟩,
         ⟨"vector_002", .vec3, some zeroVector⟩, scalarInput "scale" 1]
      outputs := [("vector", .vec3), ("value", .float)] }
  emit node operands := do
    let operation ← node.choice "operation" "ADD"
    let vector? := template? vectorTemplates operation
    let scalar? := template? scalarTemplates operation
    if vector?.isNone && scalar?.isNone then
      throw (node.invalidProperty "operation" (.unsupported "operation" operation))
    let a ← operands.get "vector"
    let b ← operands.get "vector_001"
    let c ← operands.get "vector_002"
    let scale ← operands.get "scale"
    let result (template? : Option String) (absent : String) : String :=
      match template? with
      | some template => "(" ++ fill template [a, b, c, scale] ++ ")"
      | none => absent
    return [result vector? "vec3(0.0)", result scalar? "0.0"]

/-! ## Mixing and limiting -/

/-- The type of the values that a node mixes. -/
def mixType (node : Node) : Except CompileError SocketType := do
  match ← node.choice "data_type" "RGBA" with
  | "FLOAT" => return .float
  | "VECTOR" => return .vec3
  | "RGBA" => return .vec4
  | other => .error (node.invalidProperty "data_type" (.unsupported "data type" other))

/-- What counts for a value to mix when nothing is authored. -/
def mixDefault : SocketType → Json
  | .float => .real 0
  | .vec3 => zeroVector
  | _ => .array [.real 0.5, .real 0.5, .real 0.5, .real 1]

/-- The ways to blend two colors. -/
def blendModes : List String :=
  ["MIX", "ADD", "SUBTRACT", "MULTIPLY", "SCREEN", "DARKEN", "LIGHTEN", "DIFFERENCE"]

/-- Blends two values; colors may be blended in several ways, vectors and numbers in one. -/
def mix : NodeKind where
  name := "mix"
  signature node := do
    let type ← mixType node
    let default := some (mixDefault type)
    return {
      inputs := [scalarInput "factor" 0.5, ⟨"a", type, default⟩, ⟨"b", type, default⟩]
      outputs := [("result", type)] }
  emit node operands := do
    let type ← mixType node
    let given ← operands.get "factor"
    let factor := if node.isSwitchedOn "clamp_factor" true then saturate given else given
    let a ← operands.get "a"
    let b ← operands.get "b"
    -- only colors have blend modes, and only they need the fragment
    let result ←
      if type = .vec4 then do
        let mode ← node.choice "blend_type" "MIX"
        if !blendModes.contains mode then
          throw (node.invalidProperty "blend_type" (.unsupported "blend mode" mode))
        Emit.fragment "blend"
        let name := "tessel_blend_" ++ String.ofList (mode.toList.map Char.toLower)
        pure (name ++ "(" ++ factor ++ ", " ++ a ++ ", " ++ b ++ ")")
      else pure ("mix(" ++ a ++ ", " ++ b ++ ", " ++ factor ++ ")")
    return [if node.isSwitchedOn "clamp_result" false then saturate result else result]

/-- Keeps a number between two bounds, which one variant accepts in any order. -/
def clampNode : NodeKind where
  name := "clamp"
  signature _ := .ok
    { inputs := [scalarInput "value" 1, scalarInput "min" 0, scalarInput "max" 1]
      outputs := [("result", .float)] }
  emit node operands := do
    let x ← operands.get "value"
    let low ← operands.get "min"
    let high ← operands.get "max"
    let bounded := "(" ++ x ++ ", " ++ low ++ ", " ++ high ++ ")"
    match ← node.choice "clamp_type" "MINMAX" with
    | "MINMAX" => return ["clamp" ++ bounded]
    | "RANGE" =>
      Emit.fragment "clamp_range"
      return ["tessel_clamp_range" ++ bounded]
    | other => throw (node.invalidProperty "clamp_type" (.unsupported "clamp type" other))

/-- Maps one range of numbers to another. -/
def mapRange : NodeKind where
  name := "map_range"
  signature _ := .ok
    { inputs :=
        [scalarInput "value" 1, scalarInput "from_min" 0, scalarInput "from_max" 1,
         scalarInput "to_min" 0, scalarInput "to_max" 1]
      outputs := [("result", .float)] }
  emit node operands := do
    Emit.fragment "map_range"
    let low ← operands.get "to_min"
    let high ← operands.get "to_max"
    let x ← operands.get "value"
    let fromLow ← operands.get "from_min"
    let fromHigh ← operands.get "from_max"
    let arguments := ", ".intercalate [x, fromLow, fromHigh, low, high]
    let mapped := "tessel_map_range(" ++ arguments ++ ")"
    if node.isSwitchedOn "clamp" true then
      Emit.fragment "clamp_range"
      return ["tessel_clamp_range(" ++ mapped ++ ", " ++ low ++ ", " ++ high ++ ")"]
    else return [mapped]

/-! ## Vectors -/

/-- Makes a vector of three numbers. -/
def combineXyz : NodeKind where
  name := "combine_xyz"
  signature _ := .ok
    { inputs := [scalarInput "x" 0, scalarInput "y" 0, scalarInput "z" 0]
      outputs := [("vector", .vec3)] }
  emit _ operands := do
    let x ← operands.get "x"
    let y ← operands.get "y"
    let z ← operands.get "z"
    return ["vec3(" ++ x ++ ", " ++ y ++ ", " ++ z ++ ")"]

/-- Takes a vector apart. -/
def separateXyz : NodeKind where
  name := "separate_xyz"
  signature _ := .ok
    { inputs := [⟨"vector", .vec3, some zeroVector⟩]
      outputs := [("x", .float), ("y", .float), ("z", .float)] }
  emit _ operands := do
    let vector ← operands.get "vector"
    return [vector ++ ".x", vector ++ ".y", vector ++ ".z"]

/-- Passes its input on.  It has the type of its first output that declares one. -/
def reroute : NodeKind where
  name := "reroute"
  signature node :=
    let type := (node.outputs.values.findSome? id).getD .vec4
    .ok
      { inputs := [⟨"input", type, some (.real 0)⟩]
        outputs := [(node.singleOutput "output", type)] }
  emit _ operands := return [← operands.get "input"]

/-- All of these. -/
def arithmetic : List NodeKind :=
  [math, vectorMath, mix, clampNode, mapRange, combineXyz, separateXyz, reroute]

end SceneEngine.Shading.Nodes
