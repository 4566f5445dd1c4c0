import SceneEngine.Script.Document
import SceneEngine.Store.Scene

/-!
# Component values in scripts

A value is written as null, a truth value, or a record with one field that names its kind.  Each
text, document or resource that is read is a new object, unless the script refers to a value it has
named before.

Whether two values are one object matters, because the store compares them by it: a text written
anew is a change, even if it reads the same, and a reference to the old one is none.
-/

namespace SceneEngine.Script

/-- The values that a script has named. -/
abbrev NamedValues := OrderedMap String ComponentValue

/-- Reads a value; what has none of the known forms is null. -/
def readValue (named : NamedValues) (json : Json) : StateM Supply ComponentValue :=
  match json with
  | .bool b => return .bool b
  | .object [(kind, content)] =>
    match kind with
    | "i" => return .int (int content)
    | "f" => return .float (real content)
    | "v2" => return .vec2 (vec 2 content)
    | "v3" => return .vec3 (vec 3 content)
    | "v4" => return .vec4 (vec 4 content)
    | "t" => return .text (← modifyGet (·.share (text content)))
    | "j" => return .json (← modifyGet (·.share content))
    | "s" => return .resource (← modifyGet (·.share (.text (text content))))
    | "ref" => return (named.get? (text content)).getD .null
    | _ => return .null
  | _ => return .null

/-- Shows a value.  Of a resource that is no text only its presence is shown. -/
def showValue : ComponentValue → Json
  | .null => .null
  | .bool b => .bool b
  | .int n => .object [("i", .integer n)]
  | .float x => .object [("f", bits64 x)]
  | .vec2 v => .object [("v2", coordinates v)]
  | .vec3 v => .object [("v3", coordinates v)]
  | .vec4 v => .object [("v4", coordinates v)]
  | .text s => .object [("t", .string s.content)]
  | .json j => .object [("j", j.content)]
  | .resource r =>
    match r.content with
    | .text s => .object [("s", .string s)]
    | .material _ => .object [("s", .null)]

/-- Shows what a value can be taken for, and its description. -/
def showReadings (value : ComponentValue) : Json :=
  let readings :=
    [("out", showValue value), ("is_null", .bool value.isNull),
     ("bool", orNull .bool value.asBool?), ("int", orNull .integer value.asInt?),
     ("float", orNull bits64 value.asFloat?), ("vec2", orNull coordinates value.asVec2?),
     ("vec3", orNull coordinates value.asVec3?), ("vec4", orNull coordinates value.asVec4?),
     ("text", orNull .string value.asText?), ("json", value.asJson?.getD .null),
     ("shared_string", orNull .string value.asTextResource?), ("shared_int", .bool false)]
  .object (readings ++ (value.describe?.map fun s => ("debug", .string s)).toList)

/-- Reads the declaration of a component.  Its default cannot refer to a named value. -/
def readComponentDef (json : Json) : StateM Supply ComponentDef := do
  let default ← readValue ∅ (field json "default")
  let kind := textAt json "kind"
  return { name := textAt json "name", default, seeded := kind == "seeded",
           singleton := kind == "singleton" }

end SceneEngine.Script
