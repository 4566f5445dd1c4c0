/-!
# Link settings

How to reach the authoring tool, and how patient to be with it.  All times are in milliseconds.  The
defaults suit a tool on the same machine.
-/

namespace SceneEngine.LiveLink

/-- How to reach the authoring tool.  Each field has the default that it gets when a configuration
does not mention it. -/
structure Settings where
  /-- Whether the engine connects at all. -/
  enabled : Bool := false
  /-- Where the tool listens. -/
  url : String := "ws://localhost:9001"
  /-- The wait between the end of a connection and the next attempt. -/
  reconnectDelay : Nat := 1000
  /-- The configured time between two signs of life; `pingPeriod` is what counts. -/
  pingInterval : Nat := 5000
  deriving DecidableEq

/-- The time between two signs of life, never zero: the courier would do nothing else. -/
def Settings.pingPeriod (settings : Settings) : Nat := max 1 settings.pingInterval

end SceneEngine.LiveLink
