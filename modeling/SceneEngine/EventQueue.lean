/-!
# Event queues

A first-in, first-out queue between any number of senders and one owner, who takes out everything
that has arrived.  When the owner goes away, sending fails.

Senders do not wait, and the owner does not wait for them: a queue without events is just empty.
Nothing is lost on the way, except what was not taken when the owner went away.
-/

namespace SceneEngine

/-- Events sent and not yet taken, and whether anyone is left to take them. -/
structure EventQueue (α : Type) where
  /-- The events in the order of their arrival. -/
  pending : List α
  /-- Whether the owner is still there. -/
  isOpen : Bool

namespace EventQueue

variable {α : Type}

/-- A queue without events, whose owner is there. -/
def empty : EventQueue α := ⟨[], true⟩

instance : Inhabited (EventQueue α) := ⟨empty⟩

/-- Adds an event behind all others.  A closed queue takes none, and says so. -/
def send (q : EventQueue α) (event : α) : EventQueue α × Bool :=
  if q.isOpen then (⟨q.pending ++ [event], true⟩, true) else (q, false)

/-- Takes the oldest event. -/
def receive (q : EventQueue α) : Option α × EventQueue α :=
  match q.pending with
  | [] => (none, q)
  | event :: rest => (some event, { q with pending := rest })

/-- Takes everything, oldest first. -/
def drain (q : EventQueue α) : List α × EventQueue α := (q.pending, { q with pending := [] })

/-- The owner goes away, with whatever was not taken. -/
def close (_ : EventQueue α) : EventQueue α := ⟨[], false⟩

end EventQueue

end SceneEngine
