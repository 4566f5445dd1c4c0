/-!
# Gates

A gate holds messages back until some work is done.  Whoever does the work has the handle and either
sends the signal to open or drops the handle.  Either way the handle is used up, so a gate is
decided at most once.

Nothing is announced: the gate learns what became of its handle when somebody looks at it.  The
signal is taken by the first look, so a gate remembers what it was found to be (`settled?`), and
every later look finds the same.  A look at a pending gate changes nothing.
-/

namespace SceneEngine.LiveLink

/-- What a gate is found to be. -/
inductive GateState where
  /-- The handle is still with somebody. -/
  | pending
  /-- The signal to open was found. -/
  | opened
  /-- The handle was dropped without the signal; the gate holds nothing back any more. -/
  | abandoned
  deriving DecidableEq

/-- A gate with whatever is on its way from the handle. -/
structure Gate where
  /-- The name of the gate in reports. -/
  label : String
  /-- Whether the signal to open was sent and not yet taken. -/
  signal : Bool := false
  /-- Whether someone still has the handle. -/
  hasHandle : Bool := true
  /-- What the gate was found to be when it was pending no more. -/
  settled? : Option GateState := none

namespace Gate

/-- Uses the handle, if there is one, to send the signal.  A second attempt finds no handle and does
nothing. -/
def openWithHandle (gate : Gate) : Gate :=
  if gate.hasHandle then { gate with signal := true, hasHandle := false } else gate

/-- Drops the handle.  A signal that was sent stays on its way. -/
def dropHandle (gate : Gate) : Gate := { gate with hasHandle := false }

/-- Looks at a gate: what it was found to be before, or else what its handle says now. -/
def poll (gate : Gate) : GateState × Gate :=
  match gate.settled? with
  | some state => (state, gate)
  | none =>
    if gate.signal then
      (.opened, { gate with signal := false, settled? := some .opened })
    else if gate.hasHandle then (.pending, gate)
    else (.abandoned, { gate with settled? := some .abandoned })

end Gate

end SceneEngine.LiveLink
