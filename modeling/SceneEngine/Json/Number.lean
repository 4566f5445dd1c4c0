import SceneEngine.Json.Basic
import SceneEngine.Text.Reader

/-!
# Reading numbers

A number is written in decimal.  Without point and exponent it is whole if it fits into 64 bits.
Every other number is a double: its digits are collected into a significand of at most 64 bits,
digits that no longer fit are dropped, the significand is rounded to a double and scaled by a power
of ten.

That is not always the double nearest to what is written: the significand is rounded, and so is the
result of scaling it.  What is kept here is the way of computing, step by step, so that the result
is the same double and not merely one close to it.  A number too large for all doubles cannot be
read, and a number too small for them is zero.
-/

namespace SceneEngine.Json

/-- Splits off the digits at the front of a text; there may be none. -/
def spanDigits (cs : List Char) : List Char × List Char := cs.span isDigit

/-- Appends digits to a significand as long as it fits into 64 bits, and counts the digits that
were taken. -/
def collect (significand taken : Nat) : List Char → Nat × Nat
  | [] => (significand, taken)
  | c :: cs =>
    let next := 10 * significand + digitValue c
    if next < 0x10000000000000000 then collect next (taken + 1) cs else (significand, taken)

/-- Scales a double by a power of ten, in steps that have a double of their own.  There is no
result beyond the largest double; far below the smallest one the result is zero, which three
steps suffice to reach. -/
def scaleReal : Nat → Float → Int → Option Float
  | 0, x, _ => some x
  | steps + 1, x, exponent =>
    let power (n : Nat) : Float := OfScientific.ofScientific 1 false n
    if exponent.natAbs ≤ 308 then
      if 0 ≤ exponent then
        let y := x * power exponent.natAbs
        if y.isInf then none else some y
      else some (x / power exponent.natAbs)
    else if x == 0 then some x
    else if 0 ≤ exponent then none
    else scaleReal steps (x / power 308) (exponent + 308)

/-- The double `± significand * 10 ^ exponent`. -/
def realOfParts (negative : Bool) (significand : Nat) (exponent : Int) : Option Float :=
  (scaleReal 5 significand.toUInt64.toFloat exponent).map fun x => if negative then -x else x

/-- A number without point and exponent.  Zero with a minus sign is no whole number but a double,
which can have the sign. -/
def wholeNumber (negative : Bool) (whole : List Char) : Option Json :=
  let n := decimalValue whole
  let value : Int := if negative then -n else n
  let fits := if negative then n ≠ 0 ∧ leastInteger ≤ value else value ≤ greatestNatural
  if fits then some (.integer value)
  else
    let (significand, taken) := collect 0 0 whole
    (realOfParts negative significand (whole.length - taken)).map .real

/-- The whole part of a number: a single zero, or digits that do not start with one. -/
def wholePart : Reader (List Char) := fun cs =>
  match spanDigits cs with
  | ([], _) => none
  | ('0' :: _ :: _, _) => none
  | result => some result

/-- The digits behind the point, if there is one; there must be at least one. -/
def fractionPart : Reader (Option (List Char))
  | '.' :: cs =>
    match spanDigits cs with
    | ([], _) => none
    | (digits, rest) => some (some digits, rest)
  | cs => some (none, cs)

/-- The exponent, if there is one.  Behind its letter a sign may follow, and at least one digit
must. -/
def exponentPart (cs : List Char) : Option (Option Int × List Char) :=
  let read (negative : Bool) (cs : List Char) : Option (Option Int × List Char) :=
    match spanDigits cs with
    | ([], _) => none
    | (digits, rest) =>
      let n := decimalValue digits
      some (some (if negative then -n else n), rest)
  match cs with
  | e :: cs =>
    if e = 'e' ∨ e = 'E' then
      match cs with
      | '+' :: cs => read false cs
      | '-' :: cs => read true cs
      | cs => read false cs
    else some (none, e :: cs)
  | [] => some (none, [])

/-- Reads a number.  Digits on both sides of the point go into one significand, and the exponent is
corrected by where the digits stood. -/
def number : Reader Json := fun cs => do
  let (negative, cs) := match cs with
    | '-' :: cs => (true, cs)
    | cs => (false, cs)
  let (whole, cs) ← wholePart cs
  let (fraction?, cs) ← fractionPart cs
  let (exponent?, cs) ← exponentPart cs
  let value ←
    if fraction?.isNone && exponent?.isNone then wholeNumber negative whole
    else
      let (high, taken) := collect 0 0 whole
      let (significand, behind) := collect high 0 (fraction?.getD [])
      let exponent : Int := (whole.length - taken : Nat) - behind + exponent?.getD 0
      (realOfParts negative significand exponent).map .real
  return (value, cs)

end SceneEngine.Json
