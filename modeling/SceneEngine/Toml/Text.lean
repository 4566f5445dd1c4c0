import SceneEngine.Text.Hex
import SceneEngine.Text.Reader

/-!
# Texts and blanks

Quoted texts, the blanks and comments between the parts of a document, and the ends of lines.

A line ends with a line feed, or with a carriage return in front of one; a carriage return alone is
a control character like others, and may stand nowhere.  Control characters other than tabs are
refused in texts and in comments alike.

Texts come in four kinds: in double quotes with escapes or in single quotes without, and each of
them within one line or, with three quotes, over several.
-/

namespace SceneEngine.Toml

/-! ## Blanks -/

/-- Whether a character is a blank within a line. -/
def isSpace (c : Char) : Bool := c == ' ' || c == '\t'

/-- Skips blanks within a line. -/
def skipSpace (cs : List Char) : List Char := cs.dropWhile isSpace

/-- Whether a character is no control character; a tab counts as none. -/
def isVisible (c : Char) : Bool := c == '\t' || (32 ≤ c.toNat && c.toNat != 127)

/-- Skips blanks, comments and ends of lines.  In a comment no control character may stand. -/
def skipLines (inComment : Bool) : List Char → Option (List Char)
  | [] => some []
  | '\n' :: cs => skipLines false cs
  | '\r' :: '\n' :: cs => skipLines false cs
  | c :: cs =>
    if inComment then if isVisible c then skipLines true cs else none
    else if isSpace c then skipLines false cs
    else if c = '#' then skipLines true cs
    else some (c :: cs)

/-- Takes the rest of a line that holds nothing more than a comment. -/
def endLine (inComment : Bool) : List Char → Option (List Char)
  | [] => some []
  | '\n' :: cs => some cs
  | '\r' :: '\n' :: cs => some cs
  | c :: cs =>
    if inComment then if isVisible c then endLine true cs else none
    else if isSpace c then endLine false cs
    else if c = '#' then endLine true cs
    else none

/-! ## Escapes -/

/-- The character of a code, unless the code is half of a pair or too large. -/
def charOfCode? (code : Nat) : Option Char :=
  if code < 0xd800 ∨ (0xdfff < code ∧ code < 0x110000) then some (Char.ofNat code) else none

/-- The character that a code of `width` hexadecimal digits stands for. -/
def escapedCode (width : Nat) (cs : List Char) : Option (Char × List Char) := do
  if cs.length < width then none
  else
    let code ← Hex.decode? (cs.take width)
    return (← charOfCode? code, cs.drop width)

/-- The character that an escape of one letter stands for. -/
def letterEscape? : Char → Option Char
  | 'b' => some '\x08'
  | 't' => some '\t'
  | 'n' => some '\n'
  | 'f' => some '\x0c'
  | 'r' => some '\r'
  | 'e' => some '\x1b'
  | '"' => some '"'
  | '\\' => some '\\'
  | _ => none

/-- The character behind a backslash. -/
def escaped : Reader Char
  | 'x' :: cs => escapedCode 2 cs
  | 'u' :: cs => escapedCode 4 cs
  | 'U' :: cs => escapedCode 8 cs
  | c :: cs => (letterEscape? c).map (·, cs)
  | [] => none

/-! ## Quoted texts -/

/-- Reads the rest of a text in double quotes.  `steps` bounds its length. -/
def basicBody : Nat → Reader (List Char)
  | 0, _ => none
  | steps + 1, cs =>
    match cs with
    | [] => none
    | '"' :: cs => some ([], cs)
    | '\\' :: cs => do
      let (c, cs) ← escaped cs
      let (body, cs) ← basicBody steps cs
      return (c :: body, cs)
    | c :: cs =>
      if isVisible c then (basicBody steps cs).map fun (body, cs) => (c :: body, cs) else none

/-- Reads the rest of a text in single quotes. -/
def literalBody : Reader (List Char)
  | [] => none
  | '\'' :: cs => some ([], cs)
  | c :: cs =>
    if isVisible c then (literalBody cs).map fun (body, cs) => (c :: body, cs) else none

/-- Skips blanks and ends of lines. -/
def skipBlankLines : List Char → List Char
  | '\n' :: cs => skipBlankLines cs
  | '\r' :: '\n' :: cs => skipBlankLines cs
  | c :: cs => if isSpace c then skipBlankLines cs else c :: cs
  | [] => []

/-- What is left behind a backslash that ends a line: the next character that is no blank.  None
if something else stands in the line. -/
def foldedLine? (cs : List Char) : Option (List Char) :=
  match skipSpace cs with
  | '\n' :: cs => some (skipBlankLines cs)
  | '\r' :: '\n' :: cs => some (skipBlankLines cs)
  | _ => none

/-- Takes the three quotes that end a text of several lines.  Up to two more belong to the text. -/
def closeThree (quote : Char) (cs : List Char) : Option (List Char × List Char) :=
  let (quotes, rest) := cs.span (· == quote)
  if quotes.length < 3 then none
  else if quotes.length ≤ 5 then some (quotes.drop 3, rest)
  else some ([quote, quote], cs.drop 5)

/-- Reads the rest of a text of several lines.  `steps` bounds its length.  `escapes` says whether a
backslash means anything. -/
def linesBody (quote : Char) (escapes : Bool) : Nat → Reader (List Char)
  | 0, _ => none
  | steps + 1, cs =>
    match closeThree quote cs with
    | some result => some result
    | none =>
      let keep (c : Char) (cs : List Char) :=
        (linesBody quote escapes steps cs).map fun (body, cs) => (c :: body, cs)
      match cs with
      | [] => none
      | '\n' :: cs => keep '\n' cs
      | '\r' :: '\n' :: cs =>
        (linesBody quote escapes steps cs).map fun (body, cs) => ('\r' :: '\n' :: body, cs)
      | c :: cs =>
        if escapes && c == '\\' then
          match foldedLine? cs with
          | some cs => linesBody quote escapes steps cs
          | none => do
            let (c, cs) ← escaped cs
            keep c cs
        else if isVisible c then keep c cs
        else none

/-- A line end directly behind the opening quotes does not belong to the text. -/
def skipFirstLineEnd : List Char → List Char
  | '\n' :: cs => cs
  | '\r' :: '\n' :: cs => cs
  | cs => cs

/-- Reads a text in quotes within one line. -/
def shortText : Reader String
  | '"' :: cs => (basicBody (cs.length + 1) cs).map fun (body, cs) => (String.ofList body, cs)
  | '\'' :: cs => (literalBody cs).map fun (body, cs) => (String.ofList body, cs)
  | _ => none

/-- Reads a text in quotes. -/
def quotedText : Reader String
  | '"' :: '"' :: '"' :: cs =>
    (linesBody '"' true (cs.length + 1) (skipFirstLineEnd cs)).map fun (body, cs) =>
      (String.ofList body, cs)
  | '\'' :: '\'' :: '\'' :: cs =>
    (linesBody '\'' false (cs.length + 1) (skipFirstLineEnd cs)).map fun (body, cs) =>
      (String.ofList body, cs)
  | cs => shortText cs

end SceneEngine.Toml
