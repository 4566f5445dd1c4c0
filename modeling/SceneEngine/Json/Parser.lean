import SceneEngine.Json.Number
import SceneEngine.Text.Hex

/-!
# Reading documents

Reads the written form of a document.  Lists and records nest less than 128 deep.  A repeated field
name keeps its first position and takes its last value.

Nothing is forgiven: no comments, no commas behind the last item, no control characters within
quotes, no halves of pairs.  There is no error either, only no result; where a document is broken is
not told.

The three readers of documents, items and fields call each other and get a number of steps to do it
with.  Of two calls, one inside the other, at least one takes a character, so a little more than
twice the number of characters is enough for every text (`parse?`).
-/

namespace SceneEngine.Json

/-- Whether a character may stand between the parts of a document. -/
def isBlank (c : Char) : Bool := c == ' ' || c == '\n' || c == '\t' || c == '\r'

/-- Skips blanks. -/
def skipBlank (cs : List Char) : List Char := cs.dropWhile isBlank

/-- The value of four hexadecimal digits. -/
def fourHex? (a b c d : Char) : Option Nat := Hex.decode? [a, b, c, d]

/-- The character that two escaped halves of a pair stand for; the first half is the high one. -/
def joinPair (high low : Nat) : Char :=
  Char.ofNat (0x10000 + (high - 0xd800) * 0x400 + (low - 0xdc00))

/-- Reads a text up to its closing quote; the opening one is already taken.  The first cases are the
escapes by four digits: of one character, or of a pair of halves, each with an escape of its own. -/
def stringBody : Reader (List Char)
  | [] => none
  | '"' :: cs => some ([], cs)
  | '\\' :: 'u' :: a :: b :: c :: d :: cs => do
    let code ← fourHex? a b c d
    if code < 0xd800 ∨ 0xdfff < code then
      let (s, rest) ← stringBody cs
      return (Char.ofNat code :: s, rest)
    else if 0xdbff < code then none
    else
      match cs with
      | '\\' :: 'u' :: a :: b :: c :: d :: cs =>
        let low ← fourHex? a b c d
        if low < 0xdc00 ∨ 0xdfff < low then none
        else
          let (s, rest) ← stringBody cs
          return (joinPair code low :: s, rest)
      | _ => none
  | '\\' :: e :: cs => do
    let c ← match e with
      | '"' => some '"'
      | '\\' => some '\\'
      | '/' => some '/'
      | 'b' => some '\x08'
      | 'f' => some '\x0c'
      | 'n' => some '\n'
      | 'r' => some '\r'
      | 't' => some '\t'
      | _ => none
    let (s, rest) ← stringBody cs
    return (c :: s, rest)
  | c :: cs =>
    if c = '\\' ∨ c.toNat < 32 then none
    else do
      let (s, rest) ← stringBody cs
      return (c :: s, rest)

/-- Takes `word` from the front of a text. -/
def keyword (word : String) (value : Json) : Reader Json := fun cs =>
  let w := word.toList
  if w.isPrefixOf cs then some (value, cs.drop w.length) else none

/-- The fields of a record, of which some may be written more than once.  Each name is settled by
what was written last. -/
def settle (written : List (String × Json)) : List (String × Json) :=
  written.foldl (fun fields (key, value) => setField fields key value) []

mutual

/-- Reads a document.  `steps` bounds the number of nested calls and `depth` the nesting of
lists and records. -/
def value : Nat → Nat → Reader Json
  | 0, _, _ => none
  | steps + 1, depth, cs =>
    match skipBlank cs with
    | '"' :: cs => (stringBody cs).map fun (s, rest) => (.string (String.ofList s), rest)
    | '[' :: cs =>
      if depth ≤ 1 then none
      else match skipBlank cs with
        | ']' :: rest => some (.array [], rest)
        | cs => (items steps (depth - 1) cs).map fun (l, rest) => (.array l, rest)
    | '\x7b' :: cs =>
      if depth ≤ 1 then none
      else match skipBlank cs with
        | '\x7d' :: rest => some (.object [], rest)
        | cs => (members steps (depth - 1) cs).map fun (l, rest) => (.object (settle l), rest)
    | 'n' :: cs => keyword "null" .null ('n' :: cs)
    | 't' :: cs => keyword "true" (.bool true) ('t' :: cs)
    | 'f' :: cs => keyword "false" (.bool false) ('f' :: cs)
    | cs => number cs

/-- Reads the items of a list, at least one, and the closing bracket. -/
def items : Nat → Nat → Reader (List Json)
  | 0, _, _ => none
  | steps + 1, depth, cs =>
    match value steps depth cs with
    | none => none
    | some (item, rest) =>
      match skipBlank rest with
      | ']' :: rest => some ([item], rest)
      | ',' :: rest => (items steps depth rest).map fun (l, rest) => (item :: l, rest)
      | _ => none

/-- Reads the fields of a record as they are written, at least one, and the closing brace. -/
def members : Nat → Nat → Reader (List (String × Json))
  | 0, _, _ => none
  | steps + 1, depth, cs =>
    match skipBlank cs with
    | '"' :: cs =>
      match stringBody cs with
      | none => none
      | some (key, rest) =>
        match skipBlank rest with
        | ':' :: rest =>
          match value steps depth rest with
          | none => none
          | some (item, rest) =>
            let field := (String.ofList key, item)
            match skipBlank rest with
            | '\x7d' :: rest => some ([field], rest)
            | ',' :: rest => (members steps depth rest).map fun (l, rest) => (field :: l, rest)
            | _ => none
        | _ => none
    | _ => none

end

/-- Lists and records nest at most this deep, counted from one.  The last level is not reached. -/
def depthLimit : Nat := 128

/-- Reads a text that holds one document and nothing else but blanks. -/
def parse? (s : String) : Option Json :=
  let cs := s.toList
  match value (2 * cs.length + 2) depthLimit cs with
  | some (json, rest) => if (skipBlank rest).isEmpty then some json else none
  | none => none

/-- Reads a text that holds one record and nothing else but blanks; its fields are given as they
are written, repeated ones included. -/
def parseFields? (s : String) : Option (List (String × Json)) :=
  match skipBlank s.toList with
  | '\x7b' :: cs =>
    let result := match skipBlank cs with
      | '\x7d' :: rest => some ([], rest)
      | cs => members (2 * cs.length + 2) (depthLimit - 1) cs
    match result with
    | some (fields, rest) => if (skipBlank rest).isEmpty then some fields else none
    | none => none
  | _ => none

end SceneEngine.Json
