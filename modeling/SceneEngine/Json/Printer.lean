import SceneEngine.Json.Basic
import SceneEngine.Decimal.Layout
import SceneEngine.Text.Hex

/-!
# Writing documents

The compact written form of a document: no blanks, fields in their order, and only the quote, the
backslash and control characters escaped.

What is written can be read back, except for numbers that are not finite: documents have no form for
them.  Doubles always show a point or an exponent, and so are read back as doubles.
-/

namespace SceneEngine.Json

/-- The written form of one character between quotes.  Control characters without a letter of their
own are escaped by four digits. -/
def escapeChar (c : Char) : List Char :=
  if c = '"' then ['\\', '"']
  else if c = '\\' then ['\\', '\\']
  else if c = '\n' then ['\\', 'n']
  else if c = '\r' then ['\\', 'r']
  else if c = '\t' then ['\\', 't']
  else if c.toNat = 8 then ['\\', 'b']
  else if c.toNat = 12 then ['\\', 'f']
  else if c.toNat < 32 then ['\\', 'u'] ++ Hex.digits 4 c.toNat
  else [c]

/-- A text in quotes. -/
def quote (s : String) : String := String.ofList ('"' :: s.toList.flatMap escapeChar ++ ['"'])

/-- The text of a double; what is not a finite number has no written form and becomes null. -/
def realText (x : Float) : String :=
  if x.isFinite then Decimal.document.text (.ofFloat x) else "null"

mutual

/-- The compact written form, by recursion on the document. -/
def text : Json → String
  | .null => "null"
  | .bool b => if b then "true" else "false"
  | .integer n => toString n
  | .real x => realText x
  | .string s => quote s
  | .array items => "[" ++ ",".intercalate (itemTexts items) ++ "]"
  | .object fields => "\x7b" ++ ",".intercalate (fieldTexts fields) ++ "\x7d"

/-- The written forms of the items of a list. -/
def itemTexts : List Json → List String
  | [] => []
  | item :: items => text item :: itemTexts items

/-- The written forms of the fields of a record. -/
def fieldTexts : List (String × Json) → List String
  | [] => []
  | (key, value) :: fields => (quote key ++ ":" ++ text value) :: fieldTexts fields

end

end SceneEngine.Json
