import SceneEngine.Text.Invisible

/-!
# Quoted text

How descriptions show a piece of text: in double quotes, with the quote, the backslash and whatever
has no visible form escaped.  Single quotes are shown as they are, since they cannot end the text.
-/

namespace SceneEngine.Quoted

/-- The written form of one character between the quotes.  Invisible characters without a letter of
their own are written by their code point in braces. -/
def escape (c : Char) : List Char :=
  if c = '"' then ['\\', '"']
  else if c = '\\' then ['\\', '\\']
  else if c = '\n' then ['\\', 'n']
  else if c = '\r' then ['\\', 'r']
  else if c = '\t' then ['\\', 't']
  else if c.toNat = 0 then ['\\', '0']
  else if Invisible.isInvisible c then
    ['\\', 'u', '\x7b'] ++ Nat.toDigits 16 c.toNat ++ ['\x7d']
  else [c]

/-- A text in quotes. -/
def quote (s : String) : String := String.ofList ('"' :: s.toList.flatMap escape ++ ['"'])

/-- A list of texts that are already in written form. -/
def list (items : List String) : String := "[" ++ ", ".intercalate items ++ "]"

end SceneEngine.Quoted
