import SceneEngine.Json.Basic
import SceneEngine.Text.Hex
import SceneEngine.Vec

/-!
# Documents of scripts

Tools talk to a running engine in documents.  What they write is read leniently: a part that is
missing or of another kind counts as null, empty or zero.  What the engine shows is exact: a real
number is shown by the digits of its bits, and all values that are no number alike.

So no function that reads can fail, and a script always means something; and two answers are the
same text just if they say the same, down to the last bit of a number and the sign of a zero.
-/

namespace SceneEngine.Script

/-! ## Reading -/

/-- A field; null when it is missing. -/
def field (json : Json) (key : String) : Json := (json.field? key).getD .null

/-- A field that is there and not null.  To leave a field out and to write null mean the same. -/
def given? (json : Json) (key : String) : Option Json :=
  match json.field? key with
  | some .null => none
  | other => other

/-- A text; empty when the document is none. -/
def text (json : Json) : String := json.asString?.getD ""

/-- The text in a field. -/
def textAt (json : Json) (key : String) : String := text (field json key)

/-- The items of a list; none when the document is no list. -/
def items (json : Json) : List Json := json.asArray?.getD []

/-- The items of the list in a field. -/
def itemsAt (json : Json) (key : String) : List Json := items (field json key)

/-- An item of a list; null when it is missing. -/
def item (json : Json) (i : Nat) : Json := ((items json)[i]?).getD .null

/-- A whole number; zero when the document is none.  A real number is not rounded. -/
def int (json : Json) : Int :=
  match json with
  | .integer n => n
  | _ => 0

/-- The count in a field. -/
def natAt (json : Json) (key : String) : Nat := (int (field json key)).toNat

/-- Whether a field holds true. -/
def flagAt (json : Json) (key : String) : Bool := (field json key).asBool?.getD false

/-- A real number, or one of the words `nan`, `inf` and `-inf`; zero when the document is
neither. -/
def real (json : Json) : Float :=
  match json with
  | .string "nan" => 0.0 / 0.0
  | .string "inf" => 1.0 / 0.0
  | .string "-inf" => -1.0 / 0.0
  | json => json.asReal?.getD 0

/-- The real number in a field. -/
def realAt (json : Json) (key : String) : Float := real (field json key)

/-- A real number of single precision. -/
def single (json : Json) : Float32 := (real json).toFloat32

/-- The real number of single precision in a field. -/
def singleAt (json : Json) (key : String) : Float32 := single (field json key)

/-- A vector of a given size; missing coordinates are zero. -/
def vec (n : Nat) (json : Json) : Vec n := Vec.ofList ((items json).map single)

/-! ## Showing -/

/-- A count. -/
def num (n : Nat) : Json := .integer n

/-- A list of what is shown for each element. -/
def list {α : Type} (f : α → Json) (l : List α) : Json := .array (l.map f)

/-- What is shown for a value, or null. -/
def orNull {α : Type} (f : α → Json) : Option α → Json
  | some a => f a
  | none => .null

/-- A real number by its bits, so that nothing is lost in writing it. -/
def bits64 (x : Float) : Json := .string (if x.isNaN then "nan" else Hex.encode 16 x.toBits.toNat)

/-- A real number of single precision by its bits. -/
def bits32 (x : Float32) : Json := .string (if x.isNaN then "nan" else Hex.encode 8 x.toBits.toNat)

/-- The coordinates of a vector by their bits. -/
def coordinates {n : Nat} (v : Vec n) : Json := list bits32 v.toList

end SceneEngine.Script
