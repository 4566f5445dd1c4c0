import SceneEngine.Store.Basic

/-!
# Notified consumers

Every live query lists the consumers that it notifies.  A commit goes through the live queries one
after another, and through the list of each one that it concerns, so that queries and consumers that
have nothing to do with a commit cost nothing beyond the question whether it concerns them.

A plain store keeps no such lists: there every consumer looks at its own query (`Store.observe`),
which is easier to reason about.  The lists and the queries of the consumers say the same thing
twice, and have to be kept in step when a query is made live and when a consumer is made.
`Proofs/Store/Notifying` shows that they stay in step, that no consumer is told twice, and that the
two kinds of store come to the same.
-/

namespace SceneEngine

/-- A store whose live queries list the consumers that they notify. -/
structure NotifyingStore where
  /-- The store itself. -/
  store : Store
  /-- For every live query its consumers, in the order in which they were made. -/
  notified : List (List ConsumerId)

namespace NotifyingStore

/-- The store without entities, queries and consumers. -/
def empty (schema : Schema) (historyDepth : Nat) : NotifyingStore where
  store := .empty schema historyDepth
  notified := []

/-- Tells the listed consumers, one after another, what happened to an entity. -/
def tell (id : EntityId) (transition : Transition) (handles : List ConsumerId)
    (consumers : List (QueryId × Consumer)) : List (QueryId × Consumer) :=
  handles.foldl
    (fun consumers handle =>
      consumers.modify handle.index fun entry => (entry.1, entry.2.observe id transition))
    consumers

/-- A live query notifies its consumers of a commit, if it concerns the query. -/
def notify (commit : Commit) (consumers : List (QueryId × Consumer))
    (listed : LiveQuery × List ConsumerId) : List (QueryId × Consumer) :=
  match listed.1.transition? commit with
  | none => consumers
  | some transition => tell commit.id transition listed.2 consumers

/-- Makes a commit the current state.  The live queries follow and notify their consumers. -/
def commit (notifying : NotifyingStore) (next : StoreState × Commit) : NotifyingStore :=
  if next.2.isNoop then notifying
  else
    let { store, notified } := notifying
    { store :=
        { store with
          current := next.1
          history := store.pushHistory
          queries := store.queries.map (·.follow next.2)
          consumers := (store.queries.zip notified).foldl (notify next.2) store.consumers }
      notified }

/-- Makes a query live, which notifies nobody yet; an equal one is used again. -/
def createQuery (notifying : NotifyingStore) (spec : QuerySpec) :
    Except StoreError (QueryId × NotifyingStore) := do
  let (id, store) ← notifying.store.createQuery spec
  -- a handle that is known already belongs to a query that was live before
  if id.index < notifying.notified.length then return (id, { notifying with store })
  else return (id, { store, notified := notifying.notified ++ [[]] })

/-- Makes a consumer of a query, which notifies it from now on. -/
def createConsumer (notifying : NotifyingStore) (id : QueryId) :
    Except StoreError (ConsumerId × NotifyingStore) := do
  let (consumer, store) ← notifying.store.createConsumer id
  return (consumer, { store, notified := notifying.notified.modify id.index (· ++ [consumer]) })

end NotifyingStore

end SceneEngine
