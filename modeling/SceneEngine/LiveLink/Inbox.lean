import SceneEngine.EventQueue
import SceneEngine.LiveLink.Gate
import SceneEngine.LiveLink.Message
import SceneEngine.Log

/-!
# The inbox

Messages arrive at any time and are taken out between frames.  While a gate holds the inbox they
accumulate; they are released together when the gate is pending no more.  Only the newest gate
counts.

A message passes through two places: it is `arriving` until somebody looks, and `held` from then on
until it is handed out.  `take` moves everything from the first to the second and then hands out all
or nothing, so the order of arrival is never disturbed.

A gate is known by its number among all gates of the inbox, and the gates themselves stay in the
list when they hold nothing any more.  This way looking at a gate, which may change it, is a change
of the inbox like any other.
-/

namespace SceneEngine.LiveLink

/-- A gate, by the order in which gates were made.  Identifiers are not used twice. -/
structure GateId where
  index : Nat
  deriving DecidableEq

/-- Messages that were not taken yet, and the gates that may hold them.  At most one gate holds the
inbox at a time. -/
structure Inbox where
  /-- What has arrived since the last look. -/
  arriving : EventQueue Message := .empty
  /-- What was found and held back before. -/
  held : List Message := []
  /-- All gates that were ever made, oldest first. -/
  gates : List Gate := []
  /-- The gate that holds the inbox. -/
  gate? : Option GateId := none

namespace Inbox

/-! ## Gates -/

/-- Makes a gate; its handle is with the caller.  The gate holds nothing until it is told to
(`holdUntil`). -/
def newGate (inbox : Inbox) (label : String) : GateId × Inbox :=
  (⟨inbox.gates.length⟩, { inbox with gates := inbox.gates ++ [{ label }] })

/-- Changes a gate. -/
def modifyGate (inbox : Inbox) (id : GateId) (f : Gate → Gate) : Inbox :=
  { inbox with gates := inbox.gates.modify id.index f }

/-- Opens a gate with its handle. -/
def openGate (inbox : Inbox) (id : GateId) : Inbox := inbox.modifyGate id Gate.openWithHandle

/-- Drops the handle of a gate. -/
def abandonGate (inbox : Inbox) (id : GateId) : Inbox := inbox.modifyGate id Gate.dropHandle

/-- Looks at a gate; one that was never made holds nothing back. -/
def pollGate (inbox : Inbox) (id : GateId) : GateState × Inbox :=
  match inbox.gates[id.index]? with
  | none => (.abandoned, inbox)
  | some gate =>
    let (state, gate) := gate.poll
    (state, inbox.modifyGate id fun _ => gate)

/-- The name of a gate for reports, empty if there is no such gate. -/
def labelOf (inbox : Inbox) (id : GateId) : String :=
  ((inbox.gates[id.index]?).map Gate.label).getD ""

/-- Lets a gate hold the inbox.  One that holds it already is given up, which is worth a warning.
Nobody looks at the old gate here, so that it may have been opened all the same. -/
def holdUntil (inbox : Inbox) (id : GateId) : Inbox × Log :=
  let log := match inbox.gate? with
    | none => []
    | some old =>
      [.warning ("Link gate '" ++ inbox.labelOf old ++ "' replaced before it resolved.")]
  ({ inbox with gate? := some id }, log)

/-- Whether a gate holds the inbox.  This is a look at the gate, and may settle it. -/
def isHeld (inbox : Inbox) : Bool × Inbox :=
  match inbox.gate? with
  | none => (false, inbox)
  | some id =>
    let (state, inbox) := inbox.pollGate id
    (state == .pending, inbox)

/-! ## Messages -/

/-- Sends a message to the inbox; `false` if it is gone. -/
def send (inbox : Inbox) (message : Message) : Bool × Inbox :=
  let (arriving, sent) := inbox.arriving.send message
  (sent, { inbox with arriving })

/-- The inbox goes away, with whatever was not taken. -/
def close (inbox : Inbox) : Inbox := { inbox with arriving := inbox.arriving.close, held := [] }

/-- Finds what has arrived and puts it behind what is held, in the same order. -/
def collect (inbox : Inbox) : Inbox :=
  let (messages, arriving) := inbox.arriving.drain
  { inbox with arriving, held := inbox.held ++ messages }

/-- Hands out everything that is held; no gate holds the inbox any more. -/
def release (inbox : Inbox) : List Message × Inbox :=
  (inbox.held, { inbox with held := [], gate? := none })

/-- Takes the messages that are ready, in the order of their arrival.  Nothing is ready while the
gate is pending; a gate that was abandoned lets everything through, with a warning. -/
def take (inbox : Inbox) : List Message × Inbox × Log :=
  let inbox := inbox.collect
  match inbox.gate? with
  | none =>
    let (messages, inbox) := inbox.release
    (messages, inbox, [])
  | some id =>
    let (state, inbox) := inbox.pollGate id
    match state with
    | .pending => ([], inbox, [])
    | .opened =>
      let (messages, inbox) := inbox.release
      (messages, inbox, [])
    | .abandoned =>
      let (messages, inbox) := inbox.release
      (messages, inbox,
        [.warning ("Link gate '" ++ inbox.labelOf id ++
          "' was dropped unresolved; releasing messages.")])

end Inbox

end SceneEngine.LiveLink
