import SceneEngine.LiveLink.Message

/-!
# Routing

Listeners for messages, by kind.  They are called in the order in which they were added, and none
can keep a message from the others.

What a listener does is left open: it is an action in any monad, and in the engine one on the scene.
-/

namespace SceneEngine.LiveLink

/-- Listeners with the kinds they listen for, in the order in which they were added. -/
structure Router (m : Type → Type) where
  /-- Each listener with its kind. -/
  listeners : List (MessageKind × (Message → m Unit)) := []

namespace Router

variable {m : Type → Type}

/-- Adds a listener behind those that are there. -/
def on (router : Router m) (kind : MessageKind) (listener : Message → m Unit) : Router m :=
  ⟨router.listeners ++ [(kind, listener)]⟩

/-- The listeners for a kind, in their order. -/
def listenersFor (router : Router m) (kind : MessageKind) : List (Message → m Unit) :=
  (router.listeners.filter (·.1 == kind)).map Prod.snd

/-- Hands a message to all listeners for its kind, and gives their number. -/
def dispatch [Monad m] (router : Router m) (message : Message) : m Nat := do
  let listeners := router.listenersFor message.kind
  for listener in listeners do
    listener message
  return listeners.length

end Router

end SceneEngine.LiveLink
