import SceneEngine.Toml.Scalar
import SceneEngine.Toml.Text

/-!
# Reading configuration documents

A document is read line by line: headers begin tables, and keys add values to the table of the last
header.

What has been read so far is a `Draft`: the table of everything, and the path along which the last
header led.  A line never looks at anything else, so that a document is a fold of its lines over the
empty draft.  The first line that cannot be read, or that adds to a table what must not be added,
ends the reading without a result.

Values nest, and so reading them is bounded twice: by the depth of lists and braces, which the
format of documents limits, and by a number of steps, of which there are always enough.
-/

namespace SceneEngine.Toml

/-! ## Keys -/

/-- Whether a character can stand in a key without quotes. -/
def isKeyChar (c : Char) : Bool :=
  isDigit c || ('a' ≤ c && c ≤ 'z') || ('A' ≤ c && c ≤ 'Z') || c == '_' || c == '-'

/-- Reads one part of a key: a word, or a text in quotes. -/
def keyPart (cs : List Char) : Option (String × List Char) :=
  match cs.span isKeyChar with
  | ([], cs) => shortText cs
  | (word, cs) => some (String.ofList word, cs)

/-- Reads a key of at most `steps` parts: its parts but the last, and the last. -/
def dottedKey : Nat → Reader (List String × String)
  | 0, _ => none
  | steps + 1, cs => do
    let (part, cs) ← keyPart (skipSpace cs)
    match skipSpace cs with
    | '.' :: cs => do
      let ((path, key), cs) ← dottedKey steps cs
      return ((part :: path, key), cs)
    | cs => return (([], part), cs)

/-- A key has at most this many parts. -/
def partLimit : Nat := 80

/-- Reads a key. -/
def key : Reader (List String × String) := fun cs => dottedKey partLimit cs

/-- Reads a key and the sign behind it within one line, up to the value. -/
def keyAndSign : Reader (List String × String) := fun cs => do
  let (path, cs) ← key cs
  let ((), cs) ← expect '=' (skipSpace cs)
  return (path, skipSpace cs)

/-- Reads a key and the sign behind it in braces, where lines may end around the sign. -/
def keyAndSignInBraces : Reader (List String × String) := fun cs => do
  let (path, cs) ← key cs
  let ((), cs) ← expect '=' (← skipLines false cs)
  return (path, ← skipLines false cs)

/-! ## Values -/

/-- Lists and tables in braces nest at most this deep. -/
def depthLimit : Nat := 80

mutual

/-- Reads a value.  `steps` bounds the number of nested calls and `depth` the nesting.  What is no
list, table or quoted text is a plain word. -/
def value : Nat → Nat → Reader Toml
  | 0, _, _ => none
  | steps + 1, depth, cs =>
    match cs with
    | '[' :: cs =>
      if depth = 0 then none
      else (listBody steps (depth - 1) cs).map fun (items, cs) => (.list items, cs)
    | '\x7b' :: cs =>
      if depth = 0 then none
      else (braceBody steps (depth - 1) ⟨.braces, []⟩ cs).map fun (t, cs) => (t.toValue, cs)
    | cs =>
      match quotedText cs with
      | some (s, cs) => some (.text s, cs)
      | none =>
        let (word, cs) := spanPlain cs
        (plainValue? word).map (·, cs)

/-- Reads the rest of a list.  A comma may follow the last item. -/
def listBody : Nat → Nat → Reader (List Toml)
  | 0, _, _ => none
  | steps + 1, depth, cs => do
    match ← skipLines false cs with
    | ']' :: cs => return ([], cs)
    | cs => do
      let (item, cs) ← value steps depth cs
      match ← skipLines false cs with
      | ',' :: cs => (listBody steps depth cs).map fun (items, cs) => (item :: items, cs)
      | ']' :: cs => return ([item], cs)
      | _ => none

/-- Reads the rest of a table in braces, given what stands before.  A comma may follow the last
value. -/
def braceBody : Nat → Nat → Table → Reader Table
  | 0, _, _, _ => none
  | steps + 1, depth, t, cs => do
    match ← skipLines false cs with
    | '\x7d' :: cs => return (t, cs)
    | cs => do
      let ((path, key), cs) ← keyAndSignInBraces cs
      let (item, cs) ← value steps depth cs
      let t ← t.insert path key item
      match ← skipLines false cs with
      | ',' :: cs => braceBody steps depth t cs
      | '\x7d' :: cs => return (t, cs)
      | _ => none

end

/-! ## Documents -/

/-- A document as far as it was read: the table of everything, and the path of the last header. -/
structure Draft where
  root : Table := ⟨.header, []⟩
  headers : List String := []

/-- Reads a header and begins its table. -/
def readHeader (draft : Draft) : List Char → Option (Draft × List Char)
  | '[' :: '[' :: cs => do
    let ((path, last), cs) ← key cs
    match skipSpace cs with
    | ']' :: ']' :: cs => return (⟨← draft.root.beginItem path last, path ++ [last]⟩, cs)
    | _ => none
  | '[' :: cs => do
    let ((path, last), cs) ← key cs
    match skipSpace cs with
    | ']' :: cs => return (⟨← draft.root.beginTable path last, path ++ [last]⟩, cs)
    | _ => none
  | _ => none

/-- Reads a key with its value and adds it to the table of the last header. -/
def readAssignment (draft : Draft) (cs : List Char) : Option (Draft × List Char) := do
  let ((path, key), cs) ← keyAndSign cs
  let (item, cs) ← value (2 * cs.length + 2) depthLimit cs
  return ({ draft with root := ← draft.root.insertUnder draft.headers path key item }, cs)

/-- Reads lines up to the end.  `steps` bounds their number. -/
def readLines : Nat → Draft → List Char → Option Table
  | 0, _, _ => none
  | steps + 1, draft, cs => do
    match ← skipLines false cs with
    | [] => return draft.root
    | cs => do
      let (draft, cs) ←
        if cs.head? == some '[' then readHeader draft cs else readAssignment draft cs
      readLines steps draft (← endLine false cs)

/-- Reads a document.  A byte order mark at its beginning is skipped. -/
def parse? (s : String) : Option Table :=
  let cs := match s.toList with
    | '\ufeff' :: cs => cs
    | cs => cs
  readLines (cs.length + 1) {} cs

end SceneEngine.Toml
