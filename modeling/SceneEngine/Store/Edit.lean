import SceneEngine.Store.Basic

/-!
# Edits

The operations on states and stores as steps that change them in place.  An edit that fails leaves
what it has changed by then, so whether a refused operation leaves a trace is a question here, and
not one that the types of the operations answer.  `Proofs/Store/Edits` shows that none does, and
that edits come to the same as the operations of `Store/State` and `Store/Basic`.

## Comparing slots

A state that is registered over compares the old slots of an entity with its new ones, in one pass
over both, since both are in ascending order (`Comparison`).  Old slots that are skipped are lost,
new ones without an old one beside them are gained, and two that stand beside each other are
compared by their values.  The index and the set of changed components are brought up to date on the
way, and the versions of the new slots are collected.

## Depth

A store that keeps no earlier states has its current state edited itself (`StoreEdit.onCurrent`).  A
store that keeps some has a copy edited, which becomes the current state if the edit succeeds and
changes something (`StoreEdit.onCopy`).  In the first case a failing edit would show in the store,
in the second it could not.

After the state has been edited, live queries and their consumers follow the commit
(`StoreEdit.propagate`), which cannot fail.
-/

namespace SceneEngine

/-- An edit of a state.  The state that an error comes with is the one that the edit had reached. -/
abbrev StateEdit := EStateM StoreError StoreState

/-- An edit of a store. -/
abbrev StoreEdit := EStateM StoreError Store

/-! ## Comparing slots -/

/-- How far the comparison of the old slots of an entity with its new ones has got. -/
structure Comparison where
  /-- The old slots that are still to be looked at, with their versions. -/
  old : List (Slot × Nat)
  /-- The index, from which the lost components are gone and in which the gained ones are. -/
  index : List (OrderedSet EntityId)
  /-- The components found to be lost, gained or changed. -/
  changed : ComponentSet := ∅
  /-- The versions of the new slots that have been looked at. -/
  versions : List (ComponentId × Nat) := []

namespace Comparison

/-- The entity has lost components. -/
def lose (id : EntityId) (comparison : Comparison) (components : List ComponentId) : Comparison :=
  { comparison with
    index := components.foldl (fun index c => index.modify c.val (·.erase id)) comparison.index
    changed := components.foldl .insert comparison.changed }

/-- Goes on to the old slots from a component on.  Those before it are lost, because no new slot
has come for them. -/
def advanceTo (id : EntityId) (comparison : Comparison) (c : ComponentId) : Comparison :=
  let lost := comparison.old.takeWhile (·.1.1 < c)
  { comparison.lose id (lost.map (·.1.1)) with old := comparison.old.dropWhile (·.1.1 < c) }

/-- A new slot has no old one beside it. -/
def gain (id : EntityId) (stamp : Nat) (comparison : Comparison) (c : ComponentId) : Comparison :=
  { comparison with
    index := comparison.index.modify c.val (·.insert id)
    changed := comparison.changed.insert c
    versions := comparison.versions ++ [(c, stamp)] }

/-- Compares a new slot with the old one that comes next. -/
def meet (id : EntityId) (stamp : Nat) (comparison : Comparison) (slot : Slot) : Comparison :=
  match comparison.old with
  | [] => comparison.gain id stamp slot.1
  | ((c, value), version) :: old =>
    if c = slot.1 then
      -- an unchanged value keeps its version, any other gets the stamp
      if value.sameAs slot.2 then
        { comparison with old, versions := comparison.versions ++ [(slot.1, version)] }
      else
        { comparison with
          old
          changed := comparison.changed.insert slot.1
          versions := comparison.versions ++ [(slot.1, stamp)] }
    else comparison.gain id stamp slot.1

/-- Looks at the next new slot. -/
def take (id : EntityId) (stamp : Nat) (comparison : Comparison) (slot : Slot) : Comparison :=
  (comparison.advanceTo id slot.1).meet id stamp slot

/-- After the last new slot, the old ones that are left are lost. -/
def finish (id : EntityId) (comparison : Comparison) : Comparison :=
  { comparison.lose id (comparison.old.map (·.1.1)) with old := [] }

/-- Looks at all new slots. -/
def run (id : EntityId) (stamp : Nat) (comparison : Comparison) (slots : List Slot) : Comparison :=
  (slots.foldl (take id stamp) comparison).finish id

end Comparison

/-- The slots of a registered value with their versions. -/
def EntityRecord.stampedSlots (record : EntityRecord) : List (Slot × Nat) :=
  record.entity.slots.zip (record.versions.map Prod.snd)

/-- The comparison that registering a value starts with.  An entity that is not registered has no
old slots. -/
def Comparison.start (state : StoreState) (id : EntityId) : Comparison where
  old := ((state.entities.get? id).map EntityRecord.stampedSlots).getD []
  index := state.index

/-! ## Edits of a state -/

namespace StateEdit

/-- Changes the record of an entity; without one nothing happens. -/
def editRecord (id : EntityId) (f : EntityRecord → EntityRecord) : StateEdit Unit :=
  modify fun state => { state with entities := state.entities.modify id f }

/-- Takes an entity out of the holders of a component. -/
def unindex (id : EntityId) (c : ComponentId) : StateEdit Unit :=
  modify fun state => { state with index := state.index.modify c.val (·.erase id) }

/-- Sets the version of the state. -/
def setVersion (version : Nat) : StateEdit Unit := modify fun state => { state with version }

/-- Registers a value of an entity. -/
def register (entity : Entity) : StateEdit Commit := do
  let state ← get
  match state.foreignComponent? entity with
  | some c => throw (.foreignComponent entity.id c)
  | none =>
    match state.singletonConflict? entity with
    | some (c, holder) => throw (.singletonViolation (state.schema.name c) holder)
    | none =>
      let id := entity.id
      let stamp := state.version + 1
      let before? := state.get? id
      let comparison := (Comparison.start state id).run id stamp entity.slots
      -- the index is written before it is known whether anything has changed
      modify fun state => { state with index := comparison.index }
      if before?.isSome && comparison.changed.isEmpty then
        return { id, before?, after? := before?, changed := comparison.changed }
      else
        setVersion stamp
        modify fun state =>
          { state with
            entities := state.entities.insert id
              { entity, versions := comparison.versions, previous := [] } }
        return { id, before?, after? := some entity, changed := comparison.changed }

/-- Removes an entity. -/
def deregister (id : EntityId) : StateEdit Commit := do
  let state ← get
  match state.entities.get? id with
  | none => throw (.unknownEntity id)
  | some record =>
    let components := record.entity.components
    -- the entity goes first, then the index forgets it, one component at a time
    modify fun state => { state with entities := state.entities.erase id }
    components.forM (unindex id)
    setVersion (state.version + 1)
    return { id, before? := some record.entity, after? := none, changed := .ofList components }

/-- Changes the value of one component in place. -/
def updateInPlace (id : EntityId) (c : ComponentId) (f : ComponentValue → ComponentValue) :
    StateEdit Commit := do
  let state ← get
  match state.entities.get? id with
  | none => throw (.unknownEntity id)
  | some record =>
    match record.entity.get? c with
    | none => throw (.missingComponent id (state.schema.name c))
    | some old =>
      -- all checks are made, so nothing can fail between these steps
      editRecord id fun record => { record with entity := record.entity.set c (f old) }
      editRecord id (·.remember c old)
      editRecord id (·.stamp c (state.version + 1))
      setVersion (state.version + 1)
      let after? := (← get).get? id
      return { id, before? := some record.entity, after?, changed := .ofList [c] }

/-- Gives one component the next version without touching its value. -/
def flagUpdate (id : EntityId) (c : ComponentId) : StateEdit Commit := do
  let state ← get
  match state.entities.get? id with
  | none => throw (.unknownEntity id)
  | some record =>
    match record.version? c with
    | none => throw (.missingComponent id (state.schema.name c))
    | some _ =>
      editRecord id (·.stamp c (state.version + 1))
      setVersion (state.version + 1)
      let value? := some record.entity
      return { id, before? := value?, after? := value?, changed := .ofList [c] }

end StateEdit

/-! ## Edits of a store -/

namespace StoreEdit

/-- Edits the current state itself.  What an edit that fails has changed stays changed. -/
def onCurrent (edit : StateEdit Commit) : StoreEdit Commit := fun store =>
  match edit.run store.current with
  | .ok commit current => .ok commit { store with current }
  | .error reason current => .error reason { store with current }

/-- Edits a copy of the current state.  The copy is given up if the edit fails or changes nothing;
otherwise it becomes the current state, and the former one joins the history. -/
def onCopy (edit : StateEdit Commit) : StoreEdit Commit := fun store =>
  match edit.run store.current with
  | .ok commit current =>
    if commit.isNoop then .ok commit store
    else .ok commit { store with current, history := store.pushHistory }
  | .error reason _ => .error reason store

/-- Edits the state of a store in the way that its depth asks for. -/
def advance (edit : StateEdit Commit) : StoreEdit Commit := do
  if (← get).historyDepth = 0 then onCurrent edit else onCopy edit

/-- The live queries and their consumers follow a commit. -/
def propagate (commit : Commit) : StoreEdit Unit := modify fun store =>
  if commit.isNoop then store
  else
    { store with
      queries := store.queries.map (·.follow commit)
      consumers := store.consumers.map (Store.observe store.queries commit) }

/-- Edits the state and lets the queries follow. -/
def commit (edit : StateEdit Commit) : StoreEdit Commit := do
  let commit ← advance edit
  propagate commit
  return commit

/-- Registers the value of an entity. -/
def register (entity : Entity) : StoreEdit Commit := commit (.register entity)

/-- Removes an entity and gives its last value, if it was registered.  The error about an entity
that is not registered is no error of the store. -/
def deregister (id : EntityId) : StoreEdit (Option Entity) := fun store =>
  match (commit (.deregister id)).run store with
  | .ok commit store => .ok commit.before? store
  | .error _ store => .ok none store

/-- Makes a new entity under `id`, gives it components by name, and registers it. -/
def quickEntity (id : EntityId) (components : List (String × ComponentValue)) :
    StoreEdit EntityId := do
  let store ← get
  let entity ← ofExcept (store.setComponents (store.schema.createEntity id) components)
  let _ ← register entity
  return id

/-- Changes the value of one component in place. -/
def updateInPlace (id : EntityId) (name : String) (f : ComponentValue → ComponentValue) :
    StoreEdit Unit := do
  let c ← ofExcept ((← get).componentId name)
  let _ ← commit (.updateInPlace id c f)

/-- Marks a component as changed. -/
def flagUpdate (id : EntityId) (name : String) : StoreEdit Unit := do
  let c ← ofExcept ((← get).componentId name)
  let _ ← commit (.flagUpdate id c)

/-- Makes a query live; an equal one is used again. -/
def createQuery (spec : QuerySpec) : StoreEdit QueryId := do
  let store ← get
  let query ← ofExcept ((spec.resolve store.schema).mapError .query)
  match store.queries.findIdx? (·.query == query) with
  | some i => return ⟨i⟩
  | none =>
    set { store with queries := store.queries ++ [LiveQuery.start query store.current] }
    return ⟨store.queries.length⟩

/-- Makes a consumer of a query, to which all members are new. -/
def createConsumer (id : QueryId) : StoreEdit ConsumerId := do
  let store ← get
  let live ← ofExcept (store.query id)
  set { store with consumers := store.consumers ++ [(id, Store.enterAll live {})] }
  return ⟨store.consumers.length⟩

/-- Changes what a consumer has to hand out. -/
def editConsumer (id : ConsumerId) (f : Consumer → Consumer) : StoreEdit Unit :=
  modify fun store =>
    { store with consumers := store.consumers.modify id.index fun entry => (entry.1, f entry.2) }

/-- Makes all members new to a consumer again: first it forgets, then they enter one after another.
-/
def resetConsumer (id : ConsumerId) : StoreEdit Unit := do
  let store ← get
  let (query, _) ← ofExcept (store.consumer id)
  let live ← ofExcept (store.query query)
  editConsumer id Consumer.forget
  live.members.toList.forM fun member => editConsumer id (·.enter member)

/-- Hands out what a consumer has collected. -/
def drain (id : ConsumerId) : StoreEdit Delta := do
  let store ← get
  let (_, consumer) ← ofExcept (store.consumer id)
  let (delta, drained) := consumer.drain store.current
  editConsumer id fun _ => drained
  return delta

/-- The entities that a query asks for, remembered under its name. -/
def matching (query : Query) : StoreEdit (List EntityId) := modifyGet (·.matching query)

end StoreEdit

end SceneEngine
