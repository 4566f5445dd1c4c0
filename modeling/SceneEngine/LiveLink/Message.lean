import SceneEngine.Json.Parser
import SceneEngine.LiveLink.LinkError

/-!
# Messages

What the authoring tool sends: a record with the fields `type`, `name` and `data`.  None of the
three may be written twice.  The same parts may also stand in a list, in this order.

A tree without data would be nothing, so messages about trees must have them.  The other kinds only
announce something, and the data may be left out.  Fields with other names are ignored.
-/

namespace SceneEngine.LiveLink

/-- What a message is about.  The engine acts only upon trees of materials; the other kinds are for
listeners. -/
inductive MessageKind where
  /-- The node tree of a material. -/
  | shaderTree
  /-- A tree of logic nodes. -/
  | logicTree
  /-- A change of the scene. -/
  | sceneChange
  /-- A finished export. -/
  | assetExport
  deriving DecidableEq

namespace MessageKind

/-- All kinds. -/
def all : List MessageKind := [.shaderTree, .logicTree, .sceneChange, .assetExport]

/-- The word for a kind in a message; different kinds have different words. -/
def word : MessageKind → String
  | .shaderTree => "shaderTree"
  | .logicTree => "logicTree"
  | .sceneChange => "sceneChange"
  | .assetExport => "export"

/-- The kind of a word, if it is the word of one. -/
def ofWord? (word : String) : Option MessageKind := all.find? (·.word == word)

/-- Whether a message of this kind is incomplete without data. -/
def needsData : MessageKind → Bool
  | .shaderTree | .logicTree => true
  | .sceneChange | .assetExport => false

end MessageKind

/-- A message from the authoring tool. -/
structure Message where
  /-- What the message is about. -/
  kind : MessageKind
  /-- The material, graph, scene or asset.  A later message of the same name replaces an earlier
  one. -/
  name : String
  /-- The document that comes with it, null if the tool left it out. -/
  data : Json

namespace Message

/-- The written form as a document. -/
def toJson (message : Message) : Json :=
  .object [("type", .string message.kind.word), ("name", .string message.name),
    ("data", message.data)]

/-- Puts a message together; `data?` is missing if the tool did not write it. -/
def assemble? (word name : String) (data? : Option Json) : Option Message := do
  let kind ← MessageKind.ofWord? word
  match data? with
  | some data => return ⟨kind, name, data⟩
  | none => if kind.needsData then none else return ⟨kind, name, .null⟩

/-- All values that were written for a field, in their order.  More than one is a fault of the
message, so that none may be lost here. -/
def valuesOf (fields : List (String × Json)) (key : String) : List Json :=
  (fields.filter (·.1 == key)).map Prod.snd

/-- The message in the fields of a record as they were written.  Type and name must be texts. -/
def ofFields? (fields : List (String × Json)) : Option Message :=
  match valuesOf fields "type", valuesOf fields "name", valuesOf fields "data" with
  | [.string word], [.string name], [] => assemble? word name none
  | [.string word], [.string name], [data] => assemble? word name (some data)
  | _, _, _ => none

/-- The message in the items of a list. -/
def ofItems? : List Json → Option Message
  | [.string word, .string name] => assemble? word name none
  | [.string word, .string name, data] => assemble? word name (some data)
  | _ => none

/-- Reads a message, in either of its two forms.  Whatever else the text may be, the error is the
same. -/
def parse (text : String) : Except LinkError Message :=
  let message? := match Json.parseFields? text with
    | some fields => ofFields? fields
    | none => (Json.parse? text).bind fun json => json.asArray?.bind ofItems?
  match message? with
  | some message => .ok message
  | none => .error .malformed

end Message

end SceneEngine.LiveLink
