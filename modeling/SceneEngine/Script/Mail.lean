import SceneEngine.LiveLink.Inbox
import SceneEngine.Ordered.Map
import SceneEngine.Script.Document

/-!
# Messages and gates in scripts

How messages are written and shown, and an inbox whose gates a script calls by names.

Names are kept twice, because a gate has two sides.  Whoever does the work has its handle, until it
is used; whoever reads the inbox has the gate itself, until it is told to hold the inbox.  Either
can be done once, and in any order.
-/

namespace SceneEngine.Script

open LiveLink

/-! ## Messages -/

/-- The word for a kind of message. -/
def kindWord : MessageKind → String
  | .shaderTree => "ShaderTree"
  | .logicTree => "LogicTree"
  | .sceneChange => "SceneChange"
  | .assetExport => "Export"

/-- The word for the state of a gate. -/
def gateWord : GateState → String
  | .pending => "Pending"
  | .opened => "Open"
  | .abandoned => "Abandoned"

/-- Reads a message: as the authoring tool sends it, in a field `text`, or by its parts, in a list
`m`. -/
def readMessage? (json : Json) : Option Message :=
  match json.field? "text" with
  | some written => (Message.parse (text written)).toOption
  | none =>
    let m := field json "m"
    Message.assemble? (text (item m 0)) (text (item m 1)) (some (item m 2))

/-- Shows a message by its parts. -/
def showMessage (message : Message) : Json :=
  .array [.string (kindWord message.kind), .string message.name, message.data]

/-! ## Gates by name -/

/-- An inbox with names for its gates, for either side of a gate. -/
structure Mail where
  inbox : Inbox := {}
  /-- The handles that were neither used nor dropped. -/
  handles : OrderedMap String GateId := ∅
  /-- The gates that hold no inbox yet. -/
  waiting : OrderedMap String GateId := ∅

namespace Mail

/-- Makes a gate under a name.  The handle of an older gate of the name is dropped. -/
def newGate (mail : Mail) (name label : String) : Mail :=
  let inbox := (mail.handles.get? name).elim mail.inbox mail.inbox.abandonGate
  let (id, inbox) := inbox.newGate label
  ⟨inbox, mail.handles.insert name id, mail.waiting.insert name id⟩

/-- Uses up the handle under a name, if there is one.  Without a handle nothing happens. -/
def useHandle (mail : Mail) (name : String) (use : Inbox → GateId → Inbox) : Mail :=
  match mail.handles.get? name with
  | none => mail
  | some id => { mail with inbox := use mail.inbox id, handles := mail.handles.erase name }

/-- Opens the gate of a name. -/
def openGate (mail : Mail) (name : String) : Mail := mail.useHandle name Inbox.openGate

/-- Drops the handle of the gate of a name. -/
def abandonGate (mail : Mail) (name : String) : Mail := mail.useHandle name Inbox.abandonGate

/-- Lets the gate of a name hold the inbox; a gate can do that once. -/
def hold (mail : Mail) (name : String) : Mail × Log :=
  match mail.waiting.get? name with
  | none => (mail, [])
  | some id =>
    let (inbox, log) := mail.inbox.holdUntil id
    ({ mail with inbox, waiting := mail.waiting.erase name }, log)

end Mail

end SceneEngine.Script
