/-!
# Binary fractions

A floating-point number taken apart: a sign and a natural number times a power of two.  What follows
computes with these in exact arithmetic.

The formats are told apart by three numbers only (`Reading.ofFields`): the width of the fraction,
the largest exponent field, and the power of two of the last bit.  Doubles and numbers of single
precision are the two cases.
-/

namespace SceneEngine.Decimal

/-- The number `mantissa * 2 ^ exponent` as a floating-point format holds it. -/
structure Binary where
  /-- The digits in base two, the hidden one included. -/
  mantissa : Nat
  /-- The power of two that the last digit counts. -/
  exponent : Int
  /-- Whether the next smaller number of the format is only half as far away as the next larger
  one, which is the case right at a power of two. -/
  narrowBelow : Bool
  deriving DecidableEq

/-- What a floating-point number stands for. -/
inductive Reading where
  /-- No number at all. -/
  | notANumber
  /-- An infinity. -/
  | infinite (negative : Bool)
  /-- A number, which may be zero with either sign. -/
  | finite (negative : Bool) (magnitude : Binary)
  deriving DecidableEq

/-- Reads a number from its sign, exponent and fraction fields.  `fractionBits` is the width of
the fraction field, `exponentMask` the largest exponent field, and `least` the power of two that
the last bit of the smallest numbers counts. -/
def Reading.ofFields (fractionBits exponentMask : Nat) (least : Int) (negative : Bool)
    (exponent fraction : Nat) : Reading :=
  if exponent = exponentMask then
    if fraction = 0 then .infinite negative else .notANumber
  else if exponent = 0 then .finite negative ⟨fraction, least, false⟩
  else
    .finite negative
      ⟨fraction + 1 <<< fractionBits, least + (exponent - 1 : Nat),
        fraction == 0 && decide (1 < exponent)⟩

/-- Takes a double apart. -/
def Reading.ofFloat (x : Float) : Reading :=
  let bits := x.toBits.toNat
  .ofFields 52 0x7ff (-1074) (bits.testBit 63) (bits >>> 52 &&& 0x7ff)
    (bits &&& 0xfffffffffffff)

/-- Takes a single-precision number apart. -/
def Reading.ofFloat32 (x : Float32) : Reading :=
  let bits := x.toBits.toNat
  .ofFields 23 0xff (-149) (bits.testBit 31) (bits >>> 23 &&& 0xff)
    (bits &&& 0x7fffff)

end SceneEngine.Decimal
