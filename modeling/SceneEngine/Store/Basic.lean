import SceneEngine.Store.LiveQuery

/-!
# The store

A store owns the current state of a scene, a number of earlier states, the live queries over the
scene and the consumers of these queries.  Its users name components by strings and hold handles to
queries and consumers; a store resolves both, and refuses what it cannot resolve.

## Commits

Every change to the entities goes through a commit.  The current state is replaced by the next one,
the former state joins the history, the members of each live query follow, and the consumers of each
query learn what happened to its members.  A commit that changes nothing leaves no trace at all:
neither the version nor the history nor a consumer tells that it was tried (`Store.commit`).

An operation gives either an error or a new store.  So there is nothing here that a refused
operation could have left half done; the same operations as steps that change a store in place are
in `Store/Edit`, where this is a question.

## Queries and consumers

Queries that ask for the same are made live once (`Store.createQuery`), and the handle tells the
position among the live queries.  A consumer starts with all members of its query as new
(`Store.createConsumer`), collects what commits do to them, and hands it out once (`Store.drain`).
Neither queries nor consumers are ever taken out of a store, so a handle that a store gave out stays
good.

A query that is not live can be answered as well, from the index of the current state
(`Store.matching`).  Results are kept by the canonical name of the query, with the version at which
they were computed, and the next question under the same name at the same version gets the kept
result.
-/

namespace SceneEngine

/-- A handle to a live query: its position among the live queries of the store that gave it out. -/
structure QueryId where
  /-- The position. -/
  index : Nat
  deriving DecidableEq

/-- A handle to a consumer: its position among the consumers of the store that gave it out. -/
structure ConsumerId where
  /-- The position. -/
  index : Nat
  deriving DecidableEq

/-- The results of queries by their names, each with the version at which it was computed.  The name
is all that a result is found by. -/
abbrev MatchCache := OrderedMap String (Nat × List EntityId)

/-- The entities of a scene with their past, and what is derived from them. -/
structure Store where
  /-- The state that all questions about the present are answered from. -/
  current : StoreState
  /-- Earlier states, oldest first. -/
  history : List StoreState
  /-- How many earlier states are kept.  With none, commits may change the current state in place.
  -/
  historyDepth : Nat
  /-- The live queries, by the positions that their handles hold. -/
  queries : List LiveQuery
  /-- The consumers, each with its query. -/
  consumers : List (QueryId × Consumer)
  /-- Results of queries that are not live. -/
  cache : MatchCache

namespace Store

/-- The store without entities, queries and consumers. -/
def empty (schema : Schema) (historyDepth : Nat) : Store where
  current := .empty schema
  history := []
  historyDepth
  queries := []
  consumers := []
  cache := ∅

/-- The schema of a store.  All its states have the same. -/
def schema (store : Store) : Schema := store.current.schema

/-- Resolves the name of a component, as an operation of the store that can be refused. -/
def componentId (store : Store) (name : String) : Except StoreError ComponentId :=
  match store.schema.id? name with
  | some c => .ok c
  | none => .error (.unknownComponent name)

/-- The value of a registered entity. -/
def get? (store : Store) (id : EntityId) : Option Entity := store.current.get? id

/-- The value of a component by name; an unknown name and a missing component are not told apart. -/
def getComponent? (store : Store) (id : EntityId) (name : String) : Option ComponentValue := do
  let c ← store.schema.id? name
  (← store.get? id).get? c

/-! ## Commits -/

/-- Remembers the current state, and forgets the oldest one beyond the depth.  With depth zero
nothing is remembered. -/
def pushHistory (store : Store) : List StoreState :=
  if store.historyDepth = 0 then []
  else
    -- only a full history gives its oldest state up
    let kept := if store.history.length = store.historyDepth then store.history.drop 1
      else store.history
    kept ++ [store.current]

/-- A consumer of a store follows a commit, given the queries as they were before: a transition
compares the members before the commit with the entity after it. -/
def observe (queries : List LiveQuery) (commit : Commit) (entry : QueryId × Consumer) :
    QueryId × Consumer :=
  match queries[entry.1.index]?.bind (·.transition? commit) with
  | none => entry
  | some transition => (entry.1, entry.2.observe commit.id transition)

/-- Makes a commit the current state of the store.  A commit that changes nothing leaves no trace.
-/
def commit (store : Store) (next : StoreState × Commit) : Store :=
  if next.2.isNoop then store
  else
    { store with
      current := next.1
      history := store.pushHistory
      queries := store.queries.map (·.follow next.2)
      -- the consumers look at the queries before these have followed
      consumers := store.consumers.map (observe store.queries next.2) }

/-- Registers the value of an entity: adds the entity, or replaces the value it had. -/
def register (store : Store) (entity : Entity) : Except StoreError (Store × Commit) := do
  let next ← store.current.register entity
  return (store.commit next, next.2)

/-- Removes an entity and gives its last value, if it was registered.  Otherwise nothing happens,
and this is no error. -/
def deregister (store : Store) (id : EntityId) : Option Entity × Store :=
  match store.current.deregister? id with
  | none => (none, store)
  | some next => (next.2.before?, store.commit next)

/-- Sets the components of an entity by name, one after another.  The first unknown name ends it. -/
def setComponents (store : Store) (entity : Entity) (components : List (String × ComponentValue)) :
    Except StoreError Entity :=
  components.foldlM
    (fun entity (name, value) => do return entity.set (← store.componentId name) value) entity

/-- Makes a new entity under `id`, gives it components by name, and registers it.  Components that
every new entity has keep their defaults unless they are named. -/
def quickEntity (store : Store) (id : EntityId) (components : List (String × ComponentValue)) :
    Except StoreError Store := do
  let entity ← store.setComponents (store.schema.createEntity id) components
  return (← store.register entity).1

/-- Changes the value of one component in place.  Unlike registering, this counts as a change even
when the value stays. -/
def updateInPlace (store : Store) (id : EntityId) (name : String)
    (f : ComponentValue → ComponentValue) : Except StoreError Store := do
  let c ← store.componentId name
  return store.commit (← store.current.updateInPlace id c f)

/-- Marks a component as changed without touching its value. -/
def flagUpdate (store : Store) (id : EntityId) (name : String) : Except StoreError Store := do
  let c ← store.componentId name
  return store.commit (← store.current.flagUpdate id c)

/-- What a component held before it was last updated in place. -/
def previousComponent? (store : Store) (id : EntityId) (name : String) : Option ComponentValue := do
  store.current.previousComponent? id (← store.schema.id? name)

/-! ## Singletons -/

/-- The entity that holds shared components: the registered one, or a new one under its
identifier. -/
def singletonEntity (store : Store) : Entity :=
  (store.get? .singleton).getD (store.schema.createEntity .singleton)

/-- The entity that has a component of which there is only one. -/
def singletonHolder? (store : Store) (name : String) : Option Entity := do
  let c ← store.schema.id? name
  store.get? (← (store.current.holders c).first?)

/-! ## Queries -/

/-- Makes a query live; an equal one is used again.  Queries are equal when they ask for the same
components and group by the same key, whatever names they were written with. -/
def createQuery (store : Store) (spec : QuerySpec) : Except StoreError (QueryId × Store) := do
  let query ← (spec.resolve store.schema).mapError .query
  match store.queries.findIdx? (·.query == query) with
  | some i => return (⟨i⟩, store)
  | none =>
    let live := LiveQuery.start query store.current
    return (⟨store.queries.length⟩, { store with queries := store.queries ++ [live] })

/-- The live query of a handle. -/
def query (store : Store) (id : QueryId) : Except StoreError LiveQuery :=
  match store.queries[id.index]? with
  | some live => .ok live
  | none => .error (.unknownHandle .query)

/-- The members of a live query with their values. -/
def members (store : Store) (live : LiveQuery) : List Entity :=
  live.members.toList.filterMap store.get?

/-- The members of a live query under a key. -/
def lookup (store : Store) (id : QueryId) (key : IndexKey) : Except StoreError (List EntityId) := do
  return (← store.query id).lookup key

/-- The entities that a query asks for.  The result is kept under the query's name until the version
changes. -/
def matching (store : Store) (query : Query) : List EntityId × Store :=
  let version := store.current.version
  let compute := query.matching store.current
  let keep := { store with cache := store.cache.insert query.name (version, compute) }
  -- a result of another version is out of date, and is replaced
  match store.cache.get? query.name with
  | some (cached, ids) => if cached = version then (ids, store) else (compute, keep)
  | none => (compute, keep)

/-! ## Consumers -/

/-- Marks all members of a query as new, in the order of the members. -/
def enterAll (live : LiveQuery) (consumer : Consumer) : Consumer :=
  live.members.toList.foldl Consumer.enter consumer

/-- Makes a consumer of a query, to which all members are new. -/
def createConsumer (store : Store) (id : QueryId) : Except StoreError (ConsumerId × Store) := do
  let live ← store.query id
  return (⟨store.consumers.length⟩,
    { store with consumers := store.consumers ++ [(id, enterAll live {})] })

/-- The consumer of a handle, with its query. -/
def consumer (store : Store) (id : ConsumerId) : Except StoreError (QueryId × Consumer) :=
  match store.consumers[id.index]? with
  | some entry => .ok entry
  | none => .error (.unknownHandle .consumer)

/-- Puts a consumer in the place of another.  The query is written again, unchanged. -/
def setConsumer (store : Store) (id : ConsumerId) (query : QueryId) (consumer : Consumer) : Store :=
  { store with consumers := store.consumers.set id.index (query, consumer) }

/-- Makes all members new to a consumer again.  What left before is still handed out, but an entity
that leaves from now on before the next drain counts as one that was never seen. -/
def resetConsumer (store : Store) (id : ConsumerId) : Except StoreError Store := do
  let (query, consumer) ← store.consumer id
  let live ← store.query query
  return store.setConsumer id query (enterAll live consumer.forget)

/-- Hands out what a consumer has collected, with the values of the current state.  Nothing is left
to hand out afterwards. -/
def drain (store : Store) (id : ConsumerId) : Except StoreError (Delta × Store) := do
  let (query, consumer) ← store.consumer id
  let (delta, consumer) := consumer.drain store.current
  return (delta, store.setConsumer id query consumer)

/-- The query of a consumer. -/
def queryOf (store : Store) (id : ConsumerId) : Except StoreError LiveQuery := do
  store.query (← store.consumer id).1

/-- Whether a consumer has something to hand out; a handle that is unknown has not. -/
def hasPending (store : Store) (id : ConsumerId) : Bool :=
  match store.consumer id with
  | .ok (_, consumer) => consumer.hasPending
  | .error _ => false

end Store

end SceneEngine
