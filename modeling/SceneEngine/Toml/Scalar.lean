import SceneEngine.Toml.Basic
import SceneEngine.Toml.Text

/-!
# Plain values

Values that are written without quotes and brackets: truth values, numbers, dates and times.

A plain word is taken from the text first, up to the next character that cannot belong to it, and
only then does it turn out what it is (`plainValue?`).  Dates come before numbers, since they begin
with digits as well.

For numbers there are three outcomes.  A word may be no value at all, and then there is no document;
it may be a number; or it looks like a number on the outside but has no value, because it is too
large or because something stands between its digits that should not be there.  In this case it is
kept as it is written, and only whoever needs the number finds fault with it.
-/

namespace SceneEngine.Toml

/-! ## Numbers -/

/-- Whether every underscore stands between two digits.  `before` says whether a digit stands in
front of the text. -/
def underscoresFit (digit : Char → Bool) : Bool → List Char → Bool
  | _, [] => true
  | _, ['_'] => false
  | before, '_' :: c :: cs => before && digit c && underscoresFit digit true cs
  | _, c :: cs => underscoresFit digit (digit c) cs

/-- Leaves underscores out. -/
def withoutUnderscores (cs : List Char) : List Char := cs.filter (· != '_')

/-- The digits of a text that holds nothing but digits, at least one, and underscores. -/
def digitsOf? (digit : Char → Bool) (cs : List Char) : Option (List Char) :=
  let digits := withoutUnderscores cs
  if digits.isEmpty || !digits.all digit then none else some digits

/-- The value of a digit in any base up to sixteen. -/
def baseDigit? (base : Nat) (c : Char) : Option Nat :=
  let value? :=
    if isDigit c then some (digitValue c)
    else if 'a' ≤ c && c ≤ 'f' then some (c.toNat - 'a'.toNat + 10)
    else if 'A' ≤ c && c ≤ 'F' then some (c.toNat - 'A'.toNat + 10)
    else none
  value?.filter (· < base)

/-- Whether a character is a digit in a base. -/
def isBaseDigit (base : Nat) (c : Char) : Bool := (baseDigit? base c).isSome

/-- The value of digits in a base. -/
def naturalOf? (base : Nat) (cs : List Char) : Option Nat :=
  if underscoresFit (isBaseDigit base) false cs then
    (digitsOf? (isBaseDigit base) cs).map fun digits =>
      digits.foldl (fun n c => base * n + (baseDigit? base c).getD 0) 0
  else none

/-- A sign at the front, and whether it is a minus. -/
def splitSign : List Char → Bool × Bool × List Char
  | '+' :: cs => (true, false, cs)
  | '-' :: cs => (true, true, cs)
  | cs => (false, false, cs)

/-- A mark at the front that says which base the digits behind it have: sixteen, eight or two. -/
def baseMark? : List Char → Option (Nat × List Char)
  | '0' :: 'x' :: cs => some (16, cs)
  | '0' :: 'o' :: cs => some (8, cs)
  | '0' :: 'b' :: cs => some (2, cs)
  | _ => none

/-- The size of the negative numbers that are understood: 127 bits. -/
def negativeLimit : Nat := 1 <<< 127

/-- The size of the positive numbers that are understood: 128 bits. -/
def positiveLimit : Nat := 1 <<< 128

/-- Whether a whole number is understood. -/
def integerInRange (n : Int) : Bool := -(negativeLimit : Int) ≤ n && n < positiveLimit

/-- A power of ten times a whole number.  Exponents beyond all doubles are cut off, so that no huge
power has to be computed. -/
def realOfDigits (digits : List Char) (exponent : Int) : Float :=
  let significand := decimalValue digits
  let size : Int := (digits.dropWhile (· == '0')).length
  if significand = 0 then 0
  else if exponent + size > 400 then 1.0 / 0.0
  else if exponent + size < -400 then 0
  else if 0 ≤ exponent then OfScientific.ofScientific significand false exponent.natAbs
  else OfScientific.ofScientific significand true exponent.natAbs

/-- The digits of a number before its point, which do not begin with a zero that could be left
out. -/
def wholeDigits? (cs : List Char) : Option (List Char) :=
  (digitsOf? isDigit cs).filter fun digits => digits.length == 1 || cs.head? != some '0'

/-- The exponent of a real number. -/
def exponent? (cs : List Char) : Option Int := do
  let (_, negative, cs) := splitSign cs
  let n : Int := decimalValue (← digitsOf? isDigit cs)
  return if negative then -n else n

/-- The size of a real number, which has a point or an exponent.  It is infinite if it is too
large. -/
def realSize? (cs : List Char) : Option Float := do
  guard (underscoresFit isDigit false cs)
  let (mantissa, exponentWritten) := cs.span fun c => c != 'e' && c != 'E'
  let (whole, fractionWritten) := mantissa.span (· != '.')
  let whole ← wholeDigits? whole
  let fraction ← match fractionWritten with
    | [] => some []
    | _ :: cs => digitsOf? isDigit cs
  let exponent ← match exponentWritten with
    | [] => some 0
    | _ :: cs => exponent? cs
  return realOfDigits (whole ++ fraction) (exponent - fraction.length)

/-- A number.  Infinity has a value only if it is written by its word.  Of a whole number with
underscores nothing is checked but what stands beside them and that it holds no blank other than
tabs, so it may turn out not to be a number at all. -/
def number? (word : List Char) : Option Toml :=
  let (signed, negative, size) := splitSign word
  let faulty : Toml := .faulty (String.ofList word)
  let real (x : Float) : Toml := .real (if negative then -x else x)
  let whole (n : Nat) : Toml :=
    let value : Int := if negative then -n else n
    if integerInRange value then .integer value else faulty
  match baseMark? size with
  | some (base, digits) =>
    if signed then none
    else if digits.isEmpty then some faulty
    else (naturalOf? base digits).map whole
  | none =>
    let rest := size.dropWhile isDigit
    if size = "inf".toList then some (real (1.0 / 0.0))
    else if size = "nan".toList then some (real (0.0 / 0.0))
    else if rest.any fun c => c == '.' || c == 'e' || c == 'E' then
      (realSize? size).map fun x => if x.isInf then faulty else real x
    else if size = ['0'] then some (whole 0)
    else if size.isEmpty || size.head? == some '0' then none
    else if rest.isEmpty || rest.head? == some '_' then
      if underscoresFit (isBaseDigit 16) false size && !rest.contains ' ' then
        some (((digitsOf? isDigit size).map (whole <| decimalValue ·)).getD faulty)
      else none
    else none

/-! ## Dates and times -/

/-- A number of two digits. -/
def twoDigits : Reader Nat
  | a :: b :: cs => if isDigit a && isDigit b then some (decimalValue [a, b], cs) else none
  | _ => none

/-- Takes a character. -/
def expect (c : Char) : Reader Unit
  | d :: cs => if d = c then some ((), cs) else none
  | [] => none

/-- The number of days of a month. -/
def daysIn (year month : Nat) : Nat :=
  if month = 2 then
    if year % 4 = 0 ∧ (year % 100 ≠ 0 ∨ year % 400 = 0) then 29 else 28
  else if month = 4 ∨ month = 6 ∨ month = 9 ∨ month = 11 then 30
  else 31

/-- Takes a date; gives what is left. -/
def date? (cs : List Char) : Option (List Char) := do
  let (century, cs) ← twoDigits cs
  let (year, cs) ← twoDigits cs
  let ((), cs) ← expect '-' cs
  let (month, cs) ← twoDigits cs
  let ((), cs) ← expect '-' cs
  let (day, cs) ← twoDigits cs
  if 1 ≤ month ∧ month ≤ 12 ∧ 1 ≤ day ∧ day ≤ daysIn (100 * century + year) month then some cs
  else none

/-- Takes the fraction of a second, if there is one. -/
def secondFraction? : List Char → Option (List Char)
  | '.' :: c :: cs => if isDigit c then some (cs.dropWhile isDigit) else none
  | '.' :: [] => none
  | cs => some cs

/-- Takes the seconds of a time, if there are any. -/
def seconds? : List Char → Option (List Char)
  | ':' :: cs => do
    let (second, cs) ← twoDigits cs
    if second ≤ 60 then secondFraction? cs else none
  | cs => some cs

/-- Takes hours and minutes. -/
def hoursAndMinutes? (cs : List Char) : Option (List Char) := do
  let (hour, cs) ← twoDigits cs
  let ((), cs) ← expect ':' cs
  let (minute, cs) ← twoDigits cs
  if hour ≤ 23 ∧ minute ≤ 59 then some cs else none

/-- Takes a time of day. -/
def time? (cs : List Char) : Option (List Char) := do seconds? (← hoursAndMinutes? cs)

/-- Whether a text is the distance of a local time from the common one, or nothing. -/
def isOffset : List Char → Bool
  | [] => true
  | ['Z'] | ['z'] => true
  | '+' :: cs | '-' :: cs => hoursAndMinutes? cs == some []
  | _ => false

/-- Whether a text is a date, a time of day, or a date with a time.  Only what has both may also
have an offset. -/
def isMoment (cs : List Char) : Bool :=
  match date? cs with
  | some [] => true
  | some (c :: cs) =>
    (c == 'T' || c == 't' || c == ' ') &&
      match time? cs with
      | some offset => isOffset offset
      | none => false
  | none => time? cs == some []

/-! ## All of them -/

/-- Whether a character can stand in a plain value: it is no blank, no end of a line and no mark of
the structure around values. -/
def isPlainChar (c : Char) : Bool := !" \t\r\n#=,[]\x7b\x7d".toList.contains c

/-- The plain value at the front of a text, given the blanks in front of it.  Since a blank may
stand between a date and its time, a value goes on behind blanks, unless a quote follows them. -/
def plainFrom : List Char → List Char → List Char × List Char
  | blanks, [] => ([], blanks)
  | blanks, c :: cs =>
    if isSpace c then plainFrom (blanks ++ [c]) cs
    else if isPlainChar c && (blanks.isEmpty || !(c == '"' || c == '\'')) then
      let (word, rest) := plainFrom [] cs
      (blanks ++ c :: word, rest)
    else ([], blanks ++ c :: cs)

/-- The plain value at the front of a text. -/
def spanPlain (cs : List Char) : List Char × List Char := plainFrom [] cs

/-- The value that is written as a plain word. -/
def plainValue? (word : List Char) : Option Toml :=
  if word = "true".toList then some (.bool true)
  else if word = "false".toList then some (.bool false)
  else if isMoment word then some (.moment (String.ofList word))
  else number? word

end SceneEngine.Toml
