import SceneEngine.Decimal.Shortest

/-!
# Writing decimals

A layout says which powers of ten are written out with a point and which with an exponent; the
digits are always the fewest that read back.  A written number always shows a point or an exponent,
so it cannot be mistaken for an integer.

There are two layouts, for two kinds of readers.  Source texts and descriptions have the `plain`
one, documents the `document` one; they differ in where exponents begin, in the sign before an
exponent, and in what happens to ties between two shortest decimals.
-/

namespace SceneEngine.Decimal

/-- How floating-point numbers are written.  Both bounds are for the leading digit. -/
structure Layout where
  /-- The smallest power of ten of a leading digit that is written without an exponent. -/
  least : Int
  /-- The largest such power. -/
  greatest : Int
  /-- What stands before an exponent that is not negative. -/
  exponentSign : List Char
  /-- Which of two equally near decimals is taken. -/
  tie : Tie

/-- Digits without trailing zeros, and the position of the point counted from their start. -/
def Scaled.normalized (s : Scaled) : List Char × Int :=
  let digits := Nat.toDigits 10 s.digits
  ((digits.reverse.dropWhile (· == '0')).reverse, digits.length + s.exponent)

/-- Writes digits with a point in the given position, with zeros where digits are missing, and at
least one digit on both sides. -/
def positional (digits : List Char) (point : Int) : List Char :=
  if point ≤ 0 then ['0', '.'] ++ List.replicate (-point).toNat '0' ++ digits
  else if point < digits.length then
    digits.take point.toNat ++ ['.'] ++ digits.drop point.toNat
  else digits ++ List.replicate (point.toNat - digits.length) '0' ++ ['.', '0']

/-- Writes digits with a point behind the first one and an exponent. -/
def scientific (sign : List Char) (digits : List Char) (point : Int) : List Char :=
  let fraction := digits.drop 1
  digits.take 1 ++ (if fraction.isEmpty then [] else '.' :: fraction) ++ ['e'] ++
    (if 1 ≤ point then sign else []) ++ (toString (point - 1)).toList

/-- The text of a positive number. -/
def Layout.magnitude (layout : Layout) (b : Binary) : List Char :=
  let (digits, point) := (b.shortest layout.tie).normalized
  if layout.least < point && point ≤ layout.greatest + 1 then positional digits point
  else scientific layout.exponentSign digits point

/-- The text of a number.  Zero keeps its sign. -/
def Layout.text (layout : Layout) : Reading → String
  | .notANumber => "NaN"
  | .infinite negative => if negative then "-inf" else "inf"
  | .finite negative b =>
    let body := if b.mantissa = 0 then ['0', '.', '0'] else layout.magnitude b
    String.ofList (if negative then '-' :: body else body)

/-- Source texts and descriptions write numbers from `0.0001` up to, but not including, `1e16`
without an exponent. -/
def plain : Layout := ⟨-4, 15, [], .up⟩

/-- Documents write numbers from `0.00001` up to, but not including, `1e16` without an exponent,
and larger ones with a sign before the exponent. -/
def document : Layout := ⟨-5, 15, ['+'], .toEven⟩

/-- The text of a double in source texts and descriptions. -/
def plainText (x : Float) : String := plain.text (.ofFloat x)

/-- The text of a single-precision number in descriptions. -/
def plainText32 (x : Float32) : String := plain.text (.ofFloat32 x)

end SceneEngine.Decimal
