/-!
# Log entries

What an operation has to say beside its result.  Operations return their entries; where and how they
are kept is the host's business.

Only what may need attention is an entry.  Messages that an operation writes while everything goes
well are left out, since nothing depends on them.
-/

namespace SceneEngine

/-- How much attention an entry deserves. -/
inductive Severity where
  /-- Something is odd, but nothing failed. -/
  | warning
  /-- Something failed. -/
  | error
  deriving DecidableEq

/-- One entry of the log, as it is read by people. -/
structure LogEntry where
  severity : Severity
  text : String
  deriving DecidableEq

/-- Entries, oldest first. -/
abbrev Log := List LogEntry

/-- An entry that asks for attention. -/
def LogEntry.warning (text : String) : LogEntry := ⟨.warning, text⟩

/-- An entry about a failure. -/
def LogEntry.error (text : String) : LogEntry := ⟨.error, text⟩

end SceneEngine
