/-!
# Documents

A document is a tree of null, truth values, numbers, texts, lists and records.  Numbers are whole if
they were written so and fit into 64 bits, and doubles otherwise.  The fields of a record keep the
order in which their names first came.

Whole numbers may use all 64 bits, with a sign or without, so that the range is that of both kinds
of machine integers together.  The functions that look into a document (`asString?` and the like)
answer only for the kind they are named after, and never convert; the one exception is that a whole
number is also a real one.
-/

namespace SceneEngine

/-- A document.  Nothing keeps a record from having two fields of one name; those that were read
never do. -/
inductive Json where
  | null
  | bool (value : Bool)
  | integer (value : Int)
  | real (value : Float)
  | string (value : String)
  /-- A list. -/
  | array (items : List Json)
  /-- A record, its fields in their order. -/
  | object (fields : List (String × Json))
  deriving Inhabited

namespace Json

/-- The least integer of 64 bits with a sign. -/
def leastInteger : Int := -0x8000000000000000

/-- The greatest integer of 64 bits with a sign. -/
def greatestInteger : Int := 0x7fffffffffffffff

/-- The greatest integer of 64 bits without a sign. -/
def greatestNatural : Int := 0xffffffffffffffff

/-- The double nearest to an integer of 64 bits.  Both halves of the range go through naturals, for
which the machine has a conversion. -/
def realOfInteger (n : Int) : Float :=
  if n < 0 then -(n.natAbs.toUInt64.toFloat) else n.toNat.toUInt64.toFloat

/-- The text, if the document is one. -/
def asString? : Json → Option String
  | .string s => some s
  | _ => none

/-- The truth value, if the document is one. -/
def asBool? : Json → Option Bool
  | .bool b => some b
  | _ => none

/-- The number, if the document is one; whole numbers are rounded to doubles. -/
def asReal? : Json → Option Float
  | .integer n => some (realOfInteger n)
  | .real x => some x
  | _ => none

/-- The whole number, if the document is one that has a sign bit to spare. -/
def asInteger? : Json → Option Int
  | .integer n => if n ≤ greatestInteger then some n else none
  | _ => none

/-- The items, if the document is a list. -/
def asArray? : Json → Option (List Json)
  | .array items => some items
  | _ => none

/-- The fields, if the document is a record. -/
def asObject? : Json → Option (List (String × Json))
  | .object fields => some fields
  | _ => none

/-- The value of the field `key` among `fields`, the first if there are several. -/
def fieldOf? (fields : List (String × Json)) (key : String) : Option Json :=
  (fields.find? (·.1 == key)).map Prod.snd

/-- The value of a field, if the document is a record that has it. -/
def field? (json : Json) (key : String) : Option Json :=
  json.asObject?.bind (fieldOf? · key)

/-- Writes a field: in place if its name is present, behind all others if it is new. -/
def setField : List (String × Json) → String → Json → List (String × Json)
  | [], key, value => [(key, value)]
  | (k, v) :: fields, key, value =>
    if k = key then (k, value) :: fields else (k, v) :: setField fields key value

end Json

end SceneEngine
