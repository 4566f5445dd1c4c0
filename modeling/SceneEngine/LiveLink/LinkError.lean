/-!
# Link errors

What can go wrong on the live link to the authoring tool.  None of it is fatal to the engine: a
frame without a message is dropped, and a connection that is refused or lost is tried again.
-/

namespace SceneEngine.LiveLink

/-- An error on the link, with what a reader of the log has to know. -/
inductive LinkError where
  /-- A frame holds no message.  It is reported and dropped. -/
  | malformed
  /-- The authoring tool could not be reached. -/
  | unreachable (url reason : String)
  /-- A connection that was open failed. -/
  | lost (reason : String)
  deriving DecidableEq

/-- The error in words, as it goes into the log. -/
def LinkError.message : LinkError → String
  | .malformed => "malformed message: <json>"
  | .unreachable url reason => s!"cannot connect to '{url}': {reason}"
  | .lost reason => s!"connection lost: {reason}"

end SceneEngine.LiveLink
