/-!
# Hexadecimal text

Fixed-width, lower-case hexadecimal numbers, and reading them in either case.  Identifiers, digests
and the bits of numbers are written this way.
-/

namespace SceneEngine.Hex

/-- The lower-case hexadecimal digit of `n % 16`. -/
def digit (n : Nat) : Char := Nat.digitChar (n % 16)

/-- The last `width` hexadecimal digits of `n`, most significant first, with zeros in front. -/
def digits : Nat → Nat → List Char
  | 0, _ => []
  | width + 1, n => digits width (n / 16) ++ [digit n]

/-- The last `width` hexadecimal digits of `n`. -/
def encode (width n : Nat) : String := String.ofList (digits width n)

/-- The value of a hexadecimal digit of either case. -/
def digitValue? (c : Char) : Option Nat :=
  if '0' ≤ c ∧ c ≤ '9' then some (c.toNat - '0'.toNat)
  else if 'a' ≤ c ∧ c ≤ 'f' then some (c.toNat - 'a'.toNat + 10)
  else if 'A' ≤ c ∧ c ≤ 'F' then some (c.toNat - 'A'.toNat + 10)
  else none

/-- Reads hexadecimal digits, most significant first, behind the value `high`. -/
def decodeFrom? (high : Nat) : List Char → Option Nat
  | [] => some high
  | c :: cs => (digitValue? c).bind fun d => decodeFrom? (16 * high + d) cs

/-- Reads a text of hexadecimal digits only.  No digits at all are zero. -/
def decode? (cs : List Char) : Option Nat := decodeFrom? 0 cs

end SceneEngine.Hex
