import SceneEngine.Decimal.Layout
import SceneEngine.Json.Basic

/-!
# Socket types

The types of the values that flow between the nodes of a shading tree, the conversions inserted
where two types differ, and the constants written for authored values.

## Conversions

A link may join sockets of different types if the value can be converted (`SocketType.convert?`).
Truth values become numbers and whole numbers become `float`s, numbers spread over vectors, vectors
are padded or cut off to another size, and a vector becomes a number by averaging.  What would lose
the kind of the value does not convert: nothing becomes a truth value, and nothing but a truth value
becomes a whole number.

## Constants

An authored value has a constant of a type if it is a number, a truth value or a list that the type
can make something of (`SocketType.literal?`).  Authors may leave coordinates out, and the fourth
one is one if they do.  Numbers that are not finite have no constant of their own and become zero.
-/

namespace SceneEngine.Shading

/-- The type of a value carried by a socket. -/
inductive SocketType where
  /-- A truth value. -/
  | bool
  /-- A whole number. -/
  | int
  /-- A number. -/
  | float
  /-- Two coordinates, -/
  | vec2
  /-- three, -/
  | vec3
  /-- or four, which may be a color with its coverage. -/
  | vec4
  deriving DecidableEq, Inhabited

namespace SocketType

/-- The spelling of a type in a shader. -/
def glsl : SocketType → String
  | .bool => "bool"
  | .int => "int"
  | .float => "float"
  | .vec2 => "vec2"
  | .vec3 => "vec3"
  | .vec4 => "vec4"

/-- The number of coordinates of a vector type. -/
def width? : SocketType → Option Nat
  | .vec2 => some 2
  | .vec3 => some 3
  | .vec4 => some 4
  | _ => none

/-- The authored names of each type, in lower case. -/
def authoredNames : List (String × SocketType) :=
  [("bool", .bool), ("boolean", .bool),
   ("int", .int), ("integer", .int),
   ("float", .float), ("value", .float),
   ("vec2", .vec2), ("vector2", .vec2),
   ("vec3", .vec3), ("vector", .vec3), ("vector3", .vec3),
   ("vec4", .vec4), ("vector4", .vec4), ("rgba", .vec4), ("color", .vec4), ("shader", .vec4)]

/-- Reads an authored type name; case does not matter. -/
def parse? (name : String) : Option SocketType :=
  let key := String.ofList (name.toList.map Char.toLower)
  (authoredNames.find? (·.1 == key)).map Prod.snd

/-- What stands for the missing coordinates of a vector, by their positions. -/
def padding : List String := ["0.0", "0.0", "0.0", "1.0"]

/-- The names of the coordinates. -/
def accessors : List String := ["x", "y", "z", "w"]

/-- The constant for a number; what is not a finite number becomes zero. -/
def constant (x : Float) : String := Decimal.plainText (if x.isFinite then x else 0)

/-- A scalar of type `int` or `bool` as a `float`. -/
def scalarAsFloat (source : SocketType) (expr : String) : String :=
  match source with
  | .bool => "(" ++ expr ++ " ? 1.0 : 0.0)"
  | _ => "float(" ++ expr ++ ")"

/-- A vector of `n` coordinates averaged down to a `float`; the fourth coordinate does not
count. -/
def average (n : Nat) (expr : String) : String :=
  let n := min n 3
  let sum := " + ".intercalate ((accessors.take n).map fun c => expr ++ "." ++ c)
  "((" ++ sum ++ ") / " ++ toString n ++ ".0)"

/-- A vector of `n` coordinates as one of `m ≠ n`, cut off or padded. -/
def resize (n m : Nat) (target : SocketType) (expr : String) : String :=
  if m < n then expr ++ "." ++ String.join (accessors.take m)
  else target.glsl ++ "(" ++ expr ++ ", " ++ ", ".intercalate ((padding.take m).drop n) ++ ")"

/-- Turns the expression `expr` of type `source` into one of type `target`: whole numbers and truth
values become `float`s, truth values whole numbers, scalars spread over a vector, vectors are
padded, cut off or averaged.  Nothing else converts. -/
def convert? (source : SocketType) (expr : String) (target : SocketType) : Option String :=
  if source = target then some expr
  else
    match source.width?, target.width? with
    | some n, some m => some (resize n m target expr)
    | none, some _ =>
      let scalar := if source = .float then expr else scalarAsFloat source expr
      some (target.glsl ++ "(" ++ scalar ++ ")")
    | some n, none => if target = .float then some (average n expr) else none
    | none, none =>
      match source, target with
      | .int, .float => some (scalarAsFloat .int expr)
      | .bool, .float => some (scalarAsFloat .bool expr)
      | .bool, .int => some ("(" ++ expr ++ " ? 1 : 0)")
      | _, _ => none

/-- The coordinates of a vector constant: authored ones as far as they go, then the padding. -/
def coordinates? (n : Nat) (items : List Json) : Option (List String) :=
  (List.range n).mapM fun i =>
    match items[i]? with
    | some item => item.asReal?.map constant
    | none => padding[i]?

/-- The constant of type `type` for an authored value, if it has one.  A number spreads over a
vector; a list shorter than the vector is padded, a longer one cut off. -/
def literal? (type : SocketType) (value : Json) : Option String :=
  match type, value with
  | .bool, .bool b => some (if b then "true" else "false")
  | .int, .bool b => some (if b then "1" else "0")
  | .float, .bool b => some (if b then "1.0" else "0.0")
  | _, .array items => do
    let n ← type.width?
    let parts ← coordinates? n items
    return type.glsl ++ "(" ++ ", ".intercalate parts ++ ")"
  | .bool, value => value.asReal?.map fun x => if x != 0 then "true" else "false"
  | .int, value => value.asReal?.map fun x => toString x.round.toInt64.toInt
  | .float, value => value.asReal?.map constant
  | _, value => value.asReal?.map fun x => type.glsl ++ "(" ++ constant x ++ ")"

end SocketType

end SceneEngine.Shading
