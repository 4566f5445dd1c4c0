import SceneEngine.EventQueue
import SceneEngine.LiveLink.Message
import SceneEngine.LiveLink.Settings
import SceneEngine.LiveLink.Timer
import SceneEngine.Log

/-!
# The courier

The courier keeps a connection to the authoring tool and brings its messages to the inbox.  A
connection that is refused or lost is tried again after a fixed delay, forever; the courier stops
only when the inbox is gone.  It notices that before it connects, when it delivers a message and
when it gives a sign of life.

The courier does not wait by itself: it says what it waits for, and each of its steps is told the
time and what happened.  So it is a plain function of what happens to it, and whatever makes things
happen, a network or a script, stays outside.  How long a rest lasts is for its `Timer` to say.

What it does is on record in two places.  The `Report` counts the connections, the messages that the
inbox took and the frames that held none.  The log has a warning for everything that went wrong; a
connection that the other side closes is nothing wrong, and the courier just rests.
-/

namespace SceneEngine.LiveLink

/-- What arrives on a connection: a text, or the end of the connection in one of two ways. -/
inductive Frame where
  /-- A text, which should hold a message. -/
  | text (content : String)
  /-- The connection failed. -/
  | failed (reason : String)
  /-- The other side closed the connection. -/
  | closed

/-- What the courier has done so far.  The counts only grow. -/
structure Report where
  /-- Connections that were established. -/
  connections : Nat := 0
  /-- Messages brought to the inbox. -/
  delivered : Nat := 0
  /-- Frames that held no message. -/
  malformed : Nat := 0
  deriving DecidableEq

/-- What the courier is about to do.  It is always in one of these phases, and `stopped` is the only
one that it never leaves. -/
inductive Phase where
  /-- Trying to connect, or giving up because the inbox is gone. -/
  | connecting
  /-- Reading frames; the next sign of life is due at a time. -/
  | reading (nextPing : Nat)
  /-- Resting until a time. -/
  | resting (wakeAt : Nat)
  /-- Nothing is left to do. -/
  | stopped
  deriving DecidableEq

/-- The courier with everything that it reads and writes: how it is set up, what it does next, what
it has done, and the inbox that it fills. -/
structure Courier where
  /-- Where to connect, and how often to give signs of life. -/
  settings : Settings
  /-- What the courier leaves its rests to. -/
  timer : Timer
  phase : Phase := .connecting
  /-- The counts of what was done. -/
  report : Report := {}
  /-- The way to the inbox. -/
  inbox : EventQueue Message := .empty
  /-- The warnings so far, oldest first. -/
  log : Log := []

namespace Courier

/-- Reports something.  The courier goes on as before. -/
def warn (courier : Courier) (text : String) : Courier :=
  { courier with log := courier.log ++ [.warning text] }

/-- Stops for good. -/
def stop (courier : Courier) : Courier := { courier with phase := .stopped }

/-- How long a rest lasts: the courier asks its timer for the reconnect delay, as it is configured,
and takes what the timer makes of it. -/
def restTime (courier : Courier) : Nat := courier.timer.wait courier.settings.reconnectDelay

/-- Rests before the next attempt. -/
def rest (courier : Courier) (now : Nat) : Courier :=
  { courier with phase := .resting (now + courier.restTime) }

/-- The rest is over. -/
def wake (courier : Courier) : Courier := { courier with phase := .connecting }

/-- Whether the courier still wants to connect: not when nobody would take the messages. -/
def wantsConnection (courier : Courier) : Bool :=
  courier.phase == .connecting && courier.inbox.isOpen

/-- An attempt to connect succeeded.  The first sign of life is due one period from now. -/
def connected (courier : Courier) (now : Nat) : Courier :=
  { courier with
    phase := .reading (now + courier.settings.pingPeriod)
    report := { courier.report with connections := courier.report.connections + 1 } }

/-- An attempt to connect was refused.  The warning announces the reconnect delay as it is
configured. -/
def refused (courier : Courier) (now : Nat) (reason : String) : Courier :=
  let error := LinkError.unreachable courier.settings.url reason
  let delay := courier.settings.reconnectDelay
  (courier.warn s!"{error.message}; retrying in {delay}ms.").rest now

/-- Brings a message to the inbox.  When the inbox is gone the message is lost, is not counted, and
ends the work. -/
def deliver (courier : Courier) (message : Message) : Courier :=
  let (inbox, sent) := courier.inbox.send message
  if sent then
    { courier with
      inbox
      report := { courier.report with delivered := courier.report.delivered + 1 } }
  else courier.stop

/-- A frame arrived.  The end of the connection leads to a rest; a text without a message is dropped
and counted, and the connection goes on. -/
def receive (courier : Courier) (now : Nat) : Frame → Courier
  | .closed => courier.rest now
  | .failed reason => (courier.warn (LinkError.lost reason).message).rest now
  | .text content =>
    match Message.parse content with
    | .ok message => courier.deliver message
    | .error e =>
      { courier.warn s!"Dropping live link frame: {e.message}" with
        report := { courier.report with malformed := courier.report.malformed + 1 } }

/-- A sign of life was given or failed.  One that failed ends the connection like any other loss. -/
def pinged (courier : Courier) (now : Nat) (failure? : Option LinkError) : Courier :=
  match failure? with
  | none => { courier with phase := .reading (now + courier.settings.pingPeriod) }
  | some e => (courier.warn s!"Live link ping failed: {e.message}").rest now

end Courier

end SceneEngine.LiveLink
