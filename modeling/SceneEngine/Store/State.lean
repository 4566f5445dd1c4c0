import SceneEngine.Ordered.Map
import SceneEngine.Ordered.Set
import SceneEngine.Store.Schema
import SceneEngine.Store.StoreError

/-!
# Store states

A state holds the registered entities, for every component the entities that have it, and for every
component of an entity the version at which it last changed.  States are values: a commit makes the
next one, and an earlier state that was kept answers questions about its own moment.

## Versions

Each effective commit raises the version by one and stamps the components that it changes with the
new version.  So the stamp of a component tells when it was last added or given another value, and
two looks at an entity can be compared by their stamps.  A commit that changes nothing leaves the
state as it is.

## Ways to commit

* Registering a value replaces all components of an entity at once.  Components whose value is no
  change keep their stamps; those that are new or have another value are changed, and so are those
  that are no longer there.
* Updating in place and flagging change one component of a registered entity.  Updating also
  remembers what the component held before.
* Deregistering takes an entity out.

Registering starts a new record, which remembers no previous values.

## The index

The index lists the holders of each component, in the order in which they got it, and is kept up to
date by every commit (`reindex`).  Queries are answered from it, and so is the question which entity
has a component that only one may have.
-/

namespace SceneEngine

/-- A registered entity with what is known about its components. -/
structure EntityRecord where
  /-- The value as it was last registered or updated. -/
  entity : Entity
  /-- The version of the last change of each component, in the order of the slots. -/
  versions : List (ComponentId × Nat)
  /-- What components held before they were last updated in place. -/
  previous : List Slot

namespace EntityRecord

/-- The version of the last change of a component. -/
def version? (record : EntityRecord) (c : ComponentId) : Option Nat :=
  (record.versions.find? (·.1 == c)).map Prod.snd

/-- Sets the version of a component.  A component without a version gets none. -/
def stamp (record : EntityRecord) (c : ComponentId) (version : Nat) : EntityRecord :=
  { record with
    versions := record.versions.map fun (d, old) => (d, if d = c then version else old) }

/-- What a component held before it was last updated in place. -/
def previous? (record : EntityRecord) (c : ComponentId) : Option ComponentValue :=
  (record.previous.find? (·.1 == c)).map Prod.snd

/-- Remembers what a component held, in place of what was remembered before. -/
def remember (record : EntityRecord) (c : ComponentId) (value : ComponentValue) : EntityRecord :=
  { record with previous := record.previous.filter (·.1 != c) ++ [(c, value)] }

/-- The version that a component keeps when it is written with a value that is no change.  There is
none when the component is new or gets another value. -/
def keptVersion? (record : EntityRecord) (slot : Slot) : Option Nat :=
  match record.entity.get? slot.1 with
  | some old => if old.sameAs slot.2 then record.version? slot.1 else none
  | none => none

end EntityRecord

/-- What a commit did to an entity.  Queries and consumers need nothing else to follow it. -/
structure Commit where
  /-- The entity; a commit is about one. -/
  id : EntityId
  /-- The value before, if the entity was registered. -/
  before? : Option Entity
  /-- The value after, unless the entity was removed. -/
  after? : Option Entity
  /-- The components that were added, removed or given another value. -/
  changed : ComponentSet

/-- Whether a commit left the state as it was: nothing changed, and the entity neither came nor
went. -/
def Commit.isNoop (commit : Commit) : Bool :=
  commit.changed.isEmpty && (commit.before?.isSome == commit.after?.isSome)

/-- The registered entities at one moment. -/
structure StoreState where
  /-- The components that entities may have. -/
  schema : Schema
  /-- The number of effective commits so far. -/
  version : Nat
  /-- The records, in the order in which the entities were first registered. -/
  entities : OrderedMap EntityId EntityRecord
  /-- For every component of the schema the entities that have it. -/
  index : List (OrderedSet EntityId)

namespace StoreState

/-- The state without entities. -/
def empty (schema : Schema) : StoreState where
  schema
  version := 0
  entities := ∅
  index := List.replicate schema.size ∅

/-- The value of a registered entity. -/
def get? (state : StoreState) (id : EntityId) : Option Entity :=
  (state.entities.get? id).map EntityRecord.entity

/-- Whether an entity is registered. -/
def contains (state : StoreState) (id : EntityId) : Bool := state.entities.contains id

/-- The registered entities. -/
def entityList (state : StoreState) : List Entity :=
  state.entities.values.map EntityRecord.entity

/-- The entities that have a component, in the order in which they got it. -/
def holders (state : StoreState) (c : ComponentId) : OrderedSet EntityId := state.index.getD c.val ∅

/-- The version of the last change of a component of an entity. -/
def componentVersion? (state : StoreState) (id : EntityId) (c : ComponentId) : Option Nat :=
  (state.entities.get? id).bind fun record => record.version? c

/-- What a component of an entity held before it was last updated in place. -/
def previousComponent? (state : StoreState) (id : EntityId) (c : ComponentId) :
    Option ComponentValue :=
  (state.entities.get? id).bind fun record => record.previous? c

/-! ## Registering -/

/-- The first component of an entity that the schema does not declare.  An entity made for another
schema may have one. -/
def foreignComponent? (state : StoreState) (entity : Entity) : Option ComponentId :=
  entity.components.find? fun c => decide (state.schema.size ≤ c.val)

/-- The first component of an entity that only one entity may have and another one has, with its
holder. -/
def singletonConflict? (state : StoreState) (entity : Entity) : Option (ComponentId × EntityId) :=
  entity.components.findSome? fun c =>
    if state.schema.isSingleton c then
      ((state.holders c).toList.find? (· != entity.id)).map (c, ·)
    else none

/-- The components of `old` that `new` does not have. -/
def lostComponents (old? : Option Entity) (new : Entity) : List ComponentId :=
  match old? with
  | some old => old.components.filter (!new.has ·)
  | none => []

/-- The components of `new` that `old` does not have. -/
def gainedComponents (old? : Option Entity) (new : Entity) : List ComponentId :=
  match old? with
  | some old => new.components.filter (!old.has ·)
  | none => new.components

/-- The components of an entity that a record does not keep at their version: all of them, if there
is no record. -/
def writtenComponents (record? : Option EntityRecord) (entity : Entity) : List ComponentId :=
  (entity.slots.filter fun slot => (record?.bind (·.keptVersion? slot)).isNone).map Prod.fst

/-- Records an entity in the index: `id` leaves the sets of the components it lost and enters those
of the components it gained. -/
def reindex (index : List (OrderedSet EntityId)) (id : EntityId)
    (lost gained : List ComponentId) : List (OrderedSet EntityId) :=
  let index := lost.foldl (fun index c => index.modify c.val (·.erase id)) index
  gained.foldl (fun index c => index.modify c.val (·.insert id)) index

/-- Registers a value of an entity, replacing the one it had.  Components whose value is no change
keep their version; all others get the next one. -/
def register (state : StoreState) (entity : Entity) : Except StoreError (StoreState × Commit) :=
  match state.foreignComponent? entity with
  | some c => .error (.foreignComponent entity.id c)
  | none =>
    match state.singletonConflict? entity with
    | some (c, holder) => .error (.singletonViolation (state.schema.name c) holder)
    | none =>
      let id := entity.id
      let record? := state.entities.get? id
      let before? := record?.map EntityRecord.entity
      let lost := lostComponents before? entity
      let changed := ComponentSet.ofList (lost ++ writtenComponents record? entity)
      -- a value that changes nothing about a registered entity makes no version; a first
      -- registration does, even of an entity without components
      if before?.isSome && changed.isEmpty then
        .ok (state, { id, before?, after? := before?, changed })
      else
        let version := state.version + 1
        let versions := entity.slots.map fun slot =>
          (slot.1, (record?.bind (·.keptVersion? slot)).getD version)
        let next : StoreState :=
          { schema := state.schema
            version
            -- the record is new, and remembers nothing of the previous one
            entities := state.entities.insert id { entity, versions, previous := [] }
            index := reindex state.index id lost (gainedComponents before? entity) }
        .ok (next, { id, before?, after? := some entity, changed })

/-- Registers a value of an entity and gives the next state. -/
def registerEntity (state : StoreState) (entity : Entity) : Except StoreError StoreState :=
  (state.register entity).map Prod.fst

/-! ## Other commits -/

/-- Removes an entity, if it is registered.  All its components are changed by this. -/
def deregister? (state : StoreState) (id : EntityId) : Option (StoreState × Commit) :=
  (state.entities.get? id).map fun record =>
    let components := record.entity.components
    let next : StoreState :=
      { schema := state.schema
        version := state.version + 1
        entities := state.entities.erase id
        index := reindex state.index id components [] }
    (next, { id, before? := some record.entity, after? := none, changed := .ofList components })

/-- Removes an entity, if it is registered, and gives the next state. -/
def deregisterEntity (state : StoreState) (id : EntityId) : StoreState :=
  ((state.deregister? id).map Prod.fst).getD state

/-- Changes the value of one component in place.  The component gets the next version even when the
value stays, and its old value is remembered. -/
def updateInPlace (state : StoreState) (id : EntityId) (c : ComponentId)
    (f : ComponentValue → ComponentValue) : Except StoreError (StoreState × Commit) :=
  match state.entities.get? id with
  | none => .error (.unknownEntity id)
  | some record =>
    match record.entity.get? c with
    | none => .error (.missingComponent id (state.schema.name c))
    | some old =>
      let version := state.version + 1
      let entity := record.entity.set c (f old)
      let record' := ({ record with entity }.remember c old).stamp c version
      let next := { state with version, entities := state.entities.insert id record' }
      .ok (next,
        { id, before? := some record.entity, after? := some entity, changed := .ofList [c] })

/-- Gives one component the next version without touching its value. -/
def flagUpdate (state : StoreState) (id : EntityId) (c : ComponentId) :
    Except StoreError (StoreState × Commit) :=
  match state.entities.get? id with
  | none => .error (.unknownEntity id)
  | some record =>
    match record.version? c with
    | none => .error (.missingComponent id (state.schema.name c))
    | some _ =>
      let version := state.version + 1
      let next :=
        { state with version, entities := state.entities.insert id (record.stamp c version) }
      let value? := some record.entity
      .ok (next, { id, before? := value?, after? := value?, changed := .ofList [c] })

end StoreState

end SceneEngine
