import SceneEngine.Store.Consumer
import SceneEngine.Store.Query

/-!
# Live queries

A live query keeps its members at hand while entities come, go and change, so that asking for them
costs nothing.  It follows the commits of its store one by one.

## Transitions

What a commit does to the members is told from three things (`LiveQuery.transition?`): whether the
entity is a member now, whether its value after the commit is accepted, and the value it had before.
An entity enters, leaves or stays, or the commit does not concern the query.  Of the changes to an
entity that stays only the watched ones count.

## Groups

A query with a key also keeps its members grouped by the value of the key component.  A member
without a value that can be a key is in no group, and a group that has lost its last member is
dropped.  When a member changes its key, it changes groups, whatever else happens to it.
-/

namespace SceneEngine

/-- A query with its current members. -/
structure LiveQuery where
  /-- What is asked for. -/
  query : Query
  /-- The members, in the order in which they entered. -/
  members : OrderedSet EntityId
  /-- The members that have a key, by their keys; no group is empty. -/
  groups : OrderedMap IndexKey (OrderedSet EntityId)

/-- What a commit does to the members of a query. -/
inductive Transition where
  /-- The entity is a member from now on. -/
  | enters
  /-- The entity leaves; `last` is the value it had. -/
  | leaves (last : Entity)
  /-- The entity stays; `watched` are the changes that count. -/
  | stays (watched : ComponentSet)

namespace LiveQuery

/-- The key of an entity, if the query has one and the entity has a value for it. -/
def keyOf? (live : LiveQuery) (entity : Entity) : Option IndexKey :=
  live.query.key?.bind fun c => (entity.get? c).bind IndexKey.of?

/-- Adds an entity to the group of its key, which is made if it is the first. -/
def addToGroup (live : LiveQuery) (id : EntityId) (key? : Option IndexKey) : LiveQuery :=
  match key? with
  | none => live
  | some key => { live with groups := live.groups.upsert key ∅ (·.insert id) }

/-- Removes an entity from the group of its key, and the group with its last entity. -/
def removeFromGroup (live : LiveQuery) (id : EntityId) (key? : Option IndexKey) : LiveQuery :=
  match key? with
  | none => live
  | some key =>
    match live.groups.get? key with
    | none => live
    | some group =>
      let group := group.erase id
      { live with
        groups :=
          if group.isEmpty then live.groups.erase key else live.groups.modify key fun _ => group }

/-- A query with the members it has in a state. -/
def start (query : Query) (state : StoreState) : LiveQuery :=
  let members := OrderedSet.ofList (query.matching state)
  let entities := members.toList.filterMap state.get?
  entities.foldl (fun live entity => live.addToGroup entity.id (live.keyOf? entity))
    { query, members, groups := ∅ }

/-- The members of a group; a key that no member has belongs to an empty one. -/
def lookup (live : LiveQuery) (key : IndexKey) : List EntityId :=
  ((live.groups.get? key).map OrderedSet.toList).getD []

/-- What a commit does to the members. -/
def transition? (live : LiveQuery) (commit : Commit) : Option Transition :=
  -- membership is looked up, not computed from the value before: the two agree at all times
  let was := decide (commit.id ∈ live.members)
  let now := commit.after?.any live.query.accepts
  match was, now, commit.before? with
  | false, true, _ => some .enters
  | true, false, some before => some (.leaves before)
  | true, true, some _ => some (.stays (live.query.watched commit.changed))
  | _, _, _ => none

/-- Follows a commit: the members change, and the groups with them. -/
def follow (live : LiveQuery) (commit : Commit) : LiveQuery :=
  let id := commit.id
  let oldKey? := commit.before?.bind live.keyOf?
  let newKey? := commit.after?.bind live.keyOf?
  match live.transition? commit with
  | none => live
  | some .enters => { live with members := live.members.insert id }.addToGroup id newKey?
  | some (.leaves _) => { live with members := live.members.erase id }.removeFromGroup id oldKey?
  | some (.stays _) =>
    if oldKey? = newKey? then live else (live.removeFromGroup id oldKey?).addToGroup id newKey?

end LiveQuery

/-- A consumer learns what happened to a member of its query. -/
def Consumer.observe (consumer : Consumer) (id : EntityId) : Transition → Consumer
  | .enters => consumer.enter id
  | .leaves last => consumer.leave id last
  | .stays watched => consumer.update id watched

end SceneEngine
