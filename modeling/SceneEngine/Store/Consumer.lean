import SceneEngine.Store.State

/-!
# Consumers

A consumer collects what happens to the members of a query and hands it out once, when it is
drained: which entities left, which are new, and which of those that stayed changed.  Much can
happen to an entity between two drains, and what is handed out is a summary, not a record of events.

## What is kept about an entity

`Pending` holds the summary for one entity: the value it left with, whether it is new, and which of
its components changed.  It is brought up to date by three steps, which correspond to the three
things that a commit can do to the members of a query: `Consumer.enter`, `Consumer.update` and
`Consumer.leave`.

* An entity that left and came back is both removed and new, so that whoever follows the deltas
  gives up what belonged to the former one.
* Changes to an entity that is new are collected as well, and handed out beside it.
* An entity that came and left again leaves nothing to say.  So does one that was made new again by
  forgetting and then left.

Entries stand in the order in which something first happened to their entities since the last drain.

## Handing out

Values are not collected but read from the current state when a consumer is drained, except for the
last values of entities that left.
-/

namespace SceneEngine

/-- An entity that changed, with the components that did. -/
structure Updated where
  /-- The entity, with its current value. -/
  entity : Entity
  /-- The components that changed since the last drain and that the query watches. -/
  changed : ComponentSet

/-- What a consumer hands out, each part in the order of the pending entries. -/
structure Delta where
  /-- Entities that left, with their last value. -/
  removed : List Entity := []
  /-- Entities that came, with their current value. -/
  new : List Entity := []
  /-- Entities that changed, with their current value. -/
  updated : List Updated := []

namespace Delta

/-- Whether there is nothing to hand out. -/
def isEmpty (delta : Delta) : Bool :=
  delta.removed.isEmpty && delta.new.isEmpty && delta.updated.isEmpty

/-- The number of entries. -/
def size (delta : Delta) : Nat :=
  delta.removed.length + delta.new.length + delta.updated.length

end Delta

/-- What is to be handed out about one entity.  An entity that left and came back is both removed
and new; writes to a new entity still count as changes. -/
structure Pending where
  /-- The value that the entity left with, if it has been handed out before. -/
  removed? : Option Entity := none
  /-- Whether the entity is to be handed out as new. -/
  isNew : Bool := false
  /-- The components that changed. -/
  changed : ComponentSet := ∅

/-- Whether there is nothing to hand out. -/
def Pending.isEmpty (p : Pending) : Bool := p.removed?.isNone && !p.isNew && p.changed.isEmpty

/-- What a consumer has to hand out, by entity. -/
structure Consumer where
  pending : OrderedMap EntityId Pending := ∅

namespace Consumer

/-- What is to be handed out about an entity. -/
def pendingOf (consumer : Consumer) (id : EntityId) : Pending :=
  (consumer.pending.get? id).getD {}

/-- An entity enters the query.  Changes collected before it left do not count any more. -/
def enter (consumer : Consumer) (id : EntityId) : Consumer :=
  ⟨consumer.pending.upsert id {} fun p => { p with isNew := true, changed := ∅ }⟩

/-- An entity of the query changes; without a change that counts nothing happens, so that the
consumer has nothing to hand out. -/
def update (consumer : Consumer) (id : EntityId) (changed : ComponentSet) : Consumer :=
  if changed.isEmpty then consumer
  else ⟨consumer.pending.upsert id {} fun p => { p with changed := p.changed.union changed }⟩

/-- An entity leaves the query.  If it is marked as new, nobody is taken to have seen it, and
nothing is left to say. -/
def leave (consumer : Consumer) (id : EntityId) (last : Entity) : Consumer :=
  -- what was removed before is still to be handed out, whether the entity had come back or not
  let after (p : Pending) : Pending :=
    if p.isNew then { p with isNew := false, changed := ∅ }
    else { p with removed? := some last, changed := ∅ }
  let pending := consumer.pending.upsert id {} after
  if (after (consumer.pendingOf id)).isEmpty then ⟨pending.erase id⟩ else ⟨pending⟩

/-- What is handed out about one entity, given the current state, behind what comes before. -/
def deliver (state : StoreState) (delta : Delta) (id : EntityId) (p : Pending) : Delta :=
  let delta := { delta with removed := delta.removed ++ p.removed?.toList }
  -- only what has left can be missing from the state
  match state.get? id with
  | none => delta
  | some current =>
    { delta with
      new := if p.isNew then delta.new ++ [current] else delta.new
      updated :=
        if p.changed.isEmpty then delta.updated else delta.updated ++ [⟨current, p.changed⟩] }

/-- Hands out everything; nothing is left. -/
def drain (consumer : Consumer) (state : StoreState) : Delta × Consumer :=
  (consumer.pending.entries.foldl (fun delta (id, p) => deliver state delta id p) {}, {})

/-- Forgets what is new and what changed, but not what left. -/
def forget (consumer : Consumer) : Consumer :=
  ⟨(consumer.pending.mapValues fun _ p => { p with isNew := false, changed := ∅ }).filter
    fun _ p => p.removed?.isSome⟩

/-- Whether there is something to hand out.  Entries without anything to say are not kept, so it is
enough that there is an entry. -/
def hasPending (consumer : Consumer) : Bool := !consumer.pending.isEmpty

end Consumer

end SceneEngine
