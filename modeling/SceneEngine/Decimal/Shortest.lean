import SceneEngine.Decimal.Binary

/-!
# The shortest decimal that reads back

Every real number closer to a binary fraction than to its two neighbours in the format reads back as
that fraction.  Among the decimals in this interval the ones with the fewest digits are taken, and
of those the nearest.

The search is by brute force in exact arithmetic.  For one digit, two digits and so on, the interval
is laid over the grid of decimals with so many digits (`Window`), and the first grid that has a
point in it gives the result.  Seventeen digits are always enough for a double.

The ends of the interval lie half way between two numbers of the format.  They read back as the one
whose last bit is zero, so they belong to the interval if the mantissa is even.
-/

namespace SceneEngine.Decimal

/-- What to do when two decimals of the fewest digits are equally near. -/
inductive Tie where
  /-- Take the larger one. -/
  | up
  /-- Take the one whose last digit is even. -/
  | toEven
  deriving DecidableEq

/-- The decimal `digits * 10 ^ exponent`. -/
structure Scaled where
  digits : Nat
  exponent : Int
  deriving DecidableEq

/-- A binary fraction and the ends of the interval that reads back as it, counted in steps of
`10 ^ step`: each of the three naturals over the common denominator. -/
structure Window where
  /-- The fraction itself. -/
  value : Nat
  /-- The lower end. -/
  low : Nat
  /-- The upper end. -/
  high : Nat
  /-- What a step counts in the unit of the other three. -/
  denominator : Nat
  /-- Whether the ends themselves read back. -/
  closed : Bool

/-- The interval around `b` in steps of `10 ^ step`.  It is measured in quarters of the last
binary place, so that both half distances are whole. -/
def Binary.window (b : Binary) (step : Int) : Window :=
  let scale := 1 <<< (b.exponent - 2).toNat * Nat.pow 10 (-step).toNat
  let below := if b.narrowBelow then 1 else 2
  { value := 4 * b.mantissa * scale
    low := (4 * b.mantissa - below) * scale
    high := (4 * b.mantissa + 2) * scale
    denominator := 1 <<< (2 - b.exponent).toNat * Nat.pow 10 step.toNat
    closed := b.mantissa % 2 == 0 }

/-- Whether `n` steps read back as the value. -/
def Window.holds (w : Window) (n : Nat) : Bool :=
  let x := n * w.denominator
  if w.closed then w.low ≤ x && x ≤ w.high else w.low < x && x < w.high

/-- The number of steps nearest to the value that reads back, if the grid has one.  If any grid
point reads back, one of the two neighbours of the value does, so no others are tried. -/
def Window.nearest? (w : Window) (tie : Tie) : Option Nat :=
  let n := w.value / w.denominator
  match w.holds n, w.holds (n + 1) with
  | true, true =>
    let down := w.value - n * w.denominator
    let up := (n + 1) * w.denominator - w.value
    if down < up then some n
    else if up < down then some (n + 1)
    else match tie with
      | .up => some (n + 1)
      | .toEven => if n % 2 = 0 then some n else some (n + 1)
  | true, false => some n
  | false, true => some (n + 1)
  | false, false => none

/-- The number of decimal digits before the point; zero or negative for numbers below one.  The
shift by 350 places makes the whole part of every double positive. -/
def Binary.magnitude (b : Binary) : Int :=
  let w := b.window (-350)
  (Nat.toDigits 10 (w.value / w.denominator)).length - 350

/-- The shortest decimal that reads back as `b`, with at most 17 digits. -/
def Binary.shortest (b : Binary) (tie : Tie) : Scaled :=
  let top := b.magnitude
  let attempt (count : Nat) : Option Scaled :=
    ((b.window (top - count)).nearest? tie).map (⟨·, top - count⟩)
  ((List.range' 1 17).findSome? attempt).getD ⟨b.mantissa, b.exponent⟩

end SceneEngine.Decimal
