import SceneEngine.Json.Basic
import SceneEngine.Shading.Material
import SceneEngine.Vec

/-!
# Component values

What a component of an entity can hold: nothing, truth values, numbers, vectors, and objects.
Texts, documents and resources are objects that several entities can share; each carries the mark of
the moment it was made, and two of them are the same object only if their marks agree.

## Changes

When a value is written over another one, the store has to know whether this is a change
(`ComponentValue.sameAs`).  The comparison is cheap rather than deep.  Numbers are compared by their
bits and objects by their identity, so that a text that is written again with the same content
counts as a change.  Vectors are compared numerically, coordinate by coordinate.

## Access

Systems read values of the kinds they expect; a value of another kind reads as none
(`ComponentValue.asFloat?` and the like).  Only whole numbers are converted, into doubles.
-/

namespace SceneEngine

/-- An object that can be shared: its content and a mark that no other object has. -/
structure Shared (α : Type) where
  /-- The mark, which tells the object from all others. -/
  mark : Nat
  /-- What the object holds. -/
  content : α

/-- Whether two references lead to the same object. -/
def Shared.isSame {α : Type} (a b : Shared α) : Bool := a.mark == b.mark

/-- A resource that belongs to some part of the application. -/
inductive Resource where
  /-- A text that is kept as a resource, and not as the text of a component. -/
  | text (content : String)
  /-- A compiled material. -/
  | material (content : Shading.Material)

/-- The value of a component. -/
inductive ComponentValue where
  /-- Present without data. -/
  | null
  /-- A truth value. -/
  | bool (value : Bool)
  /-- A whole number. -/
  | int (value : Int)
  /-- A number of double precision. -/
  | float (value : Float)
  /-- A point or direction in the plane, -/
  | vec2 (value : Vec 2)
  /-- in space, -/
  | vec3 (value : Vec 3)
  /-- or a color. -/
  | vec4 (value : Vec 4)
  /-- A text that can be shared. -/
  | text (value : Shared String)
  /-- A document that can be shared. -/
  | json (value : Shared Json)
  /-- Something that a part of the application made. -/
  | resource (value : Shared Resource)
  deriving Inhabited

namespace ComponentValue

/-- Whether replacing `a` by `b` is no change.  Numbers are compared by their bits, so that a NaN
is the same as itself and the two zeros are not; vectors are compared numerically, where it is the
other way round; and objects by their identity.  `Float` and `Float32` have a single NaN, so the
bits of two NaNs are always the same here: a payload that a NaN may carry elsewhere is not told
apart. -/
def sameAs : ComponentValue → ComponentValue → Bool
  | .null, .null => true
  | .bool a, .bool b => a == b
  | .int a, .int b => a == b
  | .float a, .float b => a.toBits == b.toBits
  | .vec2 a, .vec2 b => a == b
  | .vec3 a, .vec3 b => a == b
  | .vec4 a, .vec4 b => a == b
  | .text a, .text b => a.isSame b
  | .json a, .json b => a.isSame b
  | .resource a, .resource b => a.isSame b
  | _, _ => false

/-- Whether the value carries no data. -/
def isNull : ComponentValue → Bool
  | .null => true
  | _ => false

/-- The truth value. -/
def asBool? : ComponentValue → Option Bool
  | .bool b => some b
  | _ => none

/-- The whole number. -/
def asInt? : ComponentValue → Option Int
  | .int n => some n
  | _ => none

/-- The number; whole numbers are rounded to doubles. -/
def asFloat? : ComponentValue → Option Float
  | .float x => some x
  | .int n => some (Json.realOfInteger n)
  | _ => none

/-- The vector of two coordinates. -/
def asVec2? : ComponentValue → Option (Vec 2)
  | .vec2 v => some v
  | _ => none

/-- The vector of three coordinates. -/
def asVec3? : ComponentValue → Option (Vec 3)
  | .vec3 v => some v
  | _ => none

/-- The vector of four coordinates. -/
def asVec4? : ComponentValue → Option (Vec 4)
  | .vec4 v => some v
  | _ => none

/-- The text. -/
def asText? : ComponentValue → Option String
  | .text s => some s.content
  | _ => none

/-- The document. -/
def asJson? : ComponentValue → Option Json
  | .json j => some j.content
  | _ => none

/-- The resource, if it is a text. -/
def asTextResource? : ComponentValue → Option String
  | .resource ⟨_, .text s⟩ => some s
  | _ => none

/-- The material, with its identity, by which one tells whether it was replaced. -/
def asMaterial? : ComponentValue → Option (Shared Shading.Material)
  | .resource ⟨mark, .material m⟩ => some ⟨mark, m⟩
  | _ => none

/-- Describes a value that is not a document by its kind and content; resources are not looked
into. -/
def describe? : ComponentValue → Option String
  | .null => some "Null"
  | .bool b => some s!"Bool({b})"
  | .int n => some s!"Int({n})"
  | .float x => some s!"Float({Decimal.plainText x})"
  | .vec2 v => some s!"Vec2({v.describe})"
  | .vec3 v => some s!"Vec3({v.describe})"
  | .vec4 v => some s!"Vec4({v.describe})"
  | .text s => some s!"Text({Quoted.quote s.content})"
  | .json _ => none
  | .resource _ => some "Shared(..)"

end ComponentValue

end SceneEngine
