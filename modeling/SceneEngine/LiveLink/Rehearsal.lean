import SceneEngine.LiveLink.Courier

/-!
# Rehearsals

A rehearsal runs the courier against scripted peers.  Its clock, in milliseconds, stands still while
anything can be done and then jumps to the next moment at which something is due.  At a set moment
the messages are taken once and the inbox goes away.

The script is the list of attempts: what comes of the first attempt to connect, of the second, and
so on, and on each connection which frames arrive and when.  When the script is at its end every
further attempt is refused, so that the courier goes on trying until it notices that the inbox is
gone.

Ties are settled once and for all.  The end of the inbox comes before anything else that is due at
the same moment, and a frame that is ready comes before a sign of life.  A rehearsal is therefore a
function of its script, of the settings and of the timer, and what the other side saw is a list with
the times (`seen`).
-/

namespace SceneEngine.LiveLink

/-- The other side of a connection, as the script has it. -/
structure Peer where
  /-- What it sends, each with the time after the connection from which it is ready. -/
  frames : List (Nat × Frame)
  /-- The first sign of life, counted from one, that fails, as all later ones do. -/
  firstDeafPing? : Option Nat := none

/-- What comes of an attempt to connect. -/
inductive Attempt where
  /-- There is no connection, for a reason that is put on record. -/
  | refused (reason : String)
  /-- A connection to the given peer. -/
  | accepted (peer : Peer)

/-- The number of frames in an attempt. -/
def Attempt.frameCount : Attempt → Nat
  | .refused _ => 0
  | .accepted peer => peer.frames.length

/-- Something the courier did that the other side can see. -/
inductive Activity where
  /-- An attempt to connect, whatever came of it. -/
  | connect (url : String)
  /-- The sign of life of this number on the connection. -/
  | ping (number : Nat)

/-- A connection in use. -/
structure Connection where
  /-- The frames to come, each with the time from which it is ready. -/
  frames : List (Nat × Frame)
  firstDeafPing? : Option Nat
  /-- The signs of life so far, those that failed included. -/
  pings : Nat := 0

/-- Whether the next sign of life fails. -/
def Connection.isDeaf (connection : Connection) : Bool :=
  connection.firstDeafPing?.any fun first => first ≤ connection.pings + 1

/-- The state of a rehearsal: the time, the courier, what is left of the script, and what was seen.
-/
structure Rehearsal where
  /-- The time since the rehearsal began. -/
  now : Nat := 0
  courier : Courier
  /-- What comes of the next attempts; when none is left every attempt is refused. -/
  attempts : List Attempt
  /-- The connection, of use only while the courier reads. -/
  connection : Connection := ⟨[], none, 0⟩
  /-- When the inbox goes away; none if it is gone. -/
  dropAt? : Option Nat
  /-- What was taken from the inbox. -/
  taken : List Message := []
  /-- What the other side saw and when, latest first. -/
  seen : List (Nat × Activity) := []

namespace Rehearsal

/-- The reason of a refusal when no attempt is left. -/
def exhausted : String := "exhausted"

/-- Records an activity. -/
def see (r : Rehearsal) (activity : Activity) : Rehearsal :=
  { r with seen := (r.now, activity) :: r.seen }

/-- The messages are taken and the inbox goes away. -/
def drop (r : Rehearsal) : Rehearsal :=
  let (taken, inbox) := r.courier.inbox.drain
  { r with taken, courier := { r.courier with inbox := inbox.close }, dropAt? := none }

/-- What comes of the next attempt; a refusal when the script is at its end. -/
def nextAttempt (r : Rehearsal) : Attempt := r.attempts.headD (.refused exhausted)

/-- The courier connects, unless the inbox is gone.  The times of the frames of the peer are counted
from now on. -/
def connect (r : Rehearsal) : Rehearsal :=
  if !r.courier.wantsConnection then { r with courier := r.courier.stop }
  else
    let attempt := r.nextAttempt
    let r := { r.see (.connect r.courier.settings.url) with attempts := r.attempts.tail }
    match attempt with
    | .refused reason => { r with courier := r.courier.refused r.now reason }
    | .accepted peer =>
      let frames := peer.frames.map fun (after, frame) => (r.now + after, frame)
      { r with
        courier := r.courier.connected r.now
        connection := { frames, firstDeafPing? := peer.firstDeafPing? } }

/-- The rest is over. -/
def wake (r : Rehearsal) : Rehearsal := { r with courier := r.courier.wake }

/-- A frame arrives; the others are still to come. -/
def read (r : Rehearsal) (frame : Frame) (frames : List (Nat × Frame)) : Rehearsal :=
  { r with
    courier := r.courier.receive r.now frame
    connection := { r.connection with frames } }

/-- A sign of life is due.  It comes to the other side even if it fails. -/
def ping (r : Rehearsal) : Rehearsal :=
  if !r.courier.inbox.isOpen then { r with courier := r.courier.stop }
  else
    let number := r.connection.pings + 1
    let failure? := if r.connection.isDeaf then some (.lost "ping failed") else none
    let r := r.see (.ping number)
    { r with
      courier := r.courier.pinged r.now failure?
      connection := { r.connection with pings := number } }

/-- What the courier does next and when, if it has not stopped.  On a connection this is the next
frame, or the sign of life if that is due earlier. -/
def next? (r : Rehearsal) : Option (Nat × (Rehearsal → Rehearsal)) :=
  match r.courier.phase with
  | .stopped => none
  | .connecting => some (r.now, connect)
  | .resting wakeAt => some (wakeAt, wake)
  | .reading nextPing =>
    match r.connection.frames with
    | (ready, frame) :: frames =>
      if ready ≤ nextPing then some (ready, fun r => r.read frame frames)
      else some (nextPing, ping)
    | [] => some (nextPing, ping)

/-- Does what is due next; the clock never goes back.  The inbox goes away first when it is time. -/
def step? (r : Rehearsal) : Option Rehearsal :=
  r.next?.map fun (due, action) =>
    match r.dropAt? with
    | some dropAt =>
      if dropAt ≤ due then { r with now := max r.now dropAt }.drop
      else action { r with now := max r.now due }
    | none => action { r with now := max r.now due }

/-- Does a number of steps, fewer if the courier stops. -/
def steps : Nat → Rehearsal → Rehearsal
  | 0, r => r
  | n + 1, r =>
    match r.step? with
    | none => r
    | some r => steps n r

/-- The number of frames in attempts. -/
def frameTotal (attempts : List Attempt) : Nat := attempts.foldl (fun n a => n + a.frameCount) 0

/-- More steps than a rehearsal takes.  Every frame and every attempt is used once; between two
signs of life, and between two refusals when no attempt is left, the clock moves. -/
def stepLimit (attempts : List Attempt) (dropAt : Nat) : Nat :=
  frameTotal attempts + 4 * attempts.length + 4 * dropAt + 16

/-- Runs the courier until it stops. -/
def run (settings : Settings) (attempts : List Attempt) (dropAt : Nat)
    (timer : Timer := .standard) : Rehearsal :=
  steps (stepLimit attempts dropAt)
    { courier := { settings, timer }, attempts, dropAt? := some dropAt }

end Rehearsal

end SceneEngine.LiveLink
