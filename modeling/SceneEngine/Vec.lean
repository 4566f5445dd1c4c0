import SceneEngine.Decimal.Layout

/-!
# Vectors

Vectors of two, three or four single-precision coordinates, as components and shader parameters hold
them.  All arithmetic is done coordinate by coordinate from left to right and rounded after every
step, since the order of roundings shows in the last digits.

There are two ways to say that vectors agree.  The comparison of this module is numerical: the two
zeros are equal and a NaN differs from itself.  `Proofs/Vec` compares vectors by the bits of their
coordinates, where it is the other way round.

Below the vectors come a few functions on numbers that move things smoothly from one place to
another.
-/

namespace SceneEngine

/-- A vector of `n` single-precision coordinates. -/
structure Vec (n : Nat) where
  /-- The coordinates, in order. -/
  coordinates : Vector Float32 n

namespace Vec

variable {n : Nat}

/-- The vector with every coordinate `x`. -/
def splat (x : Float32) : Vec n := ⟨Vector.replicate n x⟩

/-- The origin. -/
def zero : Vec n := splat 0

instance : Inhabited (Vec n) := ⟨zero⟩

/-- Reads the first `n` numbers of a list; missing ones are zero. -/
def ofList (l : List Float32) : Vec n := ⟨Vector.ofFn fun i => l.getD i 0⟩

/-- The coordinates in order. -/
def toList (v : Vec n) : List Float32 := v.coordinates.toList

/-- Applies `f` to every coordinate. -/
def map (f : Float32 → Float32) (v : Vec n) : Vec n := ⟨v.coordinates.map f⟩

/-- Combines two vectors coordinate by coordinate. -/
def zipWith (f : Float32 → Float32 → Float32) (v w : Vec n) : Vec n :=
  ⟨v.coordinates.zipWith f w.coordinates⟩

instance : Add (Vec n) := ⟨zipWith (· + ·)⟩

instance : Sub (Vec n) := ⟨zipWith (· - ·)⟩

instance : Neg (Vec n) := ⟨map (- ·)⟩

instance : HMul (Vec n) Float32 (Vec n) := ⟨fun v t => v.map (· * t)⟩

/-- Numerical equality of all coordinates: the two zeros are equal, a NaN differs from itself. -/
instance : BEq (Vec n) :=
  ⟨fun v w => (v.toList.zip w.toList).all fun (x, y) => x == y⟩

/-- The sum of the products of the coordinates, added up from zero. -/
def dot (v w : Vec n) : Float32 :=
  (v.toList.zip w.toList).foldl (fun sum (x, y) => sum + x * y) 0

/-- The length of a vector. -/
def length (v : Vec n) : Float32 := (v.dot v).sqrt

/-- Vectors shorter than this have no direction. -/
def epsilon : Float32 := 1e-5

/-- The vector of length one in the same direction; a vector too short to have a direction stays as
it is. -/
def normalize (v : Vec n) : Vec n :=
  let len := v.length
  if len > epsilon then v * (1.0 / len) else v

/-- The point at the fraction `t` of the way from `start` to `stop`. -/
def lerp (start stop : Vec n) (t : Float32) : Vec n := start + (stop - start) * t

/-- The coordinate at a position, if there is one. -/
def coordinate? (v : Vec n) (i : Nat) : Option Float32 := v.toList[i]?

/-- What is said about a position without a coordinate. -/
def outOfBounds (n : Nat) : String := s!"Index out of bounds for Vec{n}"

/-- Describes a vector with its coordinates' names. -/
def describe (v : Vec n) : String :=
  let part (name : String) (x : Float32) := s!"{name}: {Decimal.plainText32 x}"
  let parts := List.zipWith part ["x", "y", "z", "w"] v.toList
  s!"Vec{n} \x7b " ++ ", ".intercalate parts ++ " \x7d"

/-- The product that is orthogonal to both factors. -/
def cross (v w : Vec 3) : Vec 3 :=
  let ⟨a⟩ := v
  let ⟨b⟩ := w
  ⟨#v[a[1] * b[2] - a[2] * b[1], a[2] * b[0] - a[0] * b[2], a[0] * b[1] - a[1] * b[0]]⟩

/-- Adds a fourth coordinate. -/
def extend (v : Vec 3) (w : Float32) : Vec 4 := ⟨v.coordinates.push w⟩

/-- Drops the fourth coordinate. -/
def truncate (v : Vec 4) : Vec 3 := ⟨v.coordinates.pop⟩

/-- The projection to the view plane. -/
def xy (v : Vec 3) : Vec 2 := ⟨#v[v.coordinates[0], v.coordinates[1]]⟩

/-- The projection to the ground plane. -/
def xz (v : Vec 3) : Vec 2 := ⟨#v[v.coordinates[0], v.coordinates[2]]⟩

/-- Places a vector on the ground plane. -/
def onGround (v : Vec 2) : Vec 3 := ⟨#v[v.coordinates[0], 0, v.coordinates[1]]⟩

/-- Places a vector on the view plane. -/
def onView (v : Vec 2) : Vec 3 := ⟨#v[v.coordinates[0], v.coordinates[1], 0]⟩

end Vec

/-- Keeps `x` between `low` and `high`; the lower end is tested first. -/
def clamp {α : Type} [LT α] [DecidableLT α] (x low high : α) : α :=
  if x < low then low else if x > high then high else x

/-- Moves `start` towards `target`.  `smoothing` is the fraction of the distance that is left
after a second, so the movement does not depend on how a second is cut into frames. -/
def damp (start target smoothing milliseconds : Float32) : Float32 :=
  let t := 1.0 - Float32.pow smoothing (milliseconds / 1000.0)
  start + (target - start) * t

/-- Moves every coordinate of a vector towards a target. -/
def Vec.damp {n : Nat} (start target : Vec n) (smoothing milliseconds : Float32) : Vec n :=
  start.zipWith (fun a b => SceneEngine.damp a b smoothing milliseconds) target

end SceneEngine
