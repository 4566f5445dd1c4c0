/-!
# Readers

A reader takes what it understands from the front of a text and returns what is left.  When it does
not understand the text it has no result, and nothing is taken.
-/

namespace SceneEngine

/-- A reader of values of a type.  A text is a list of characters here. -/
abbrev Reader (α : Type) := List Char → Option (α × List Char)

/-- Whether a character is a decimal digit. -/
def isDigit (c : Char) : Bool := '0' ≤ c && c ≤ '9'

/-- The value of a decimal digit. -/
def digitValue (c : Char) : Nat := c.toNat - '0'.toNat

/-- The value of decimal digits. -/
def decimalValue (digits : List Char) : Nat := digits.foldl (fun n c => 10 * n + digitValue c) 0

end SceneEngine
