import SceneEngine.Proofs.Store.Membership
import SceneEngine.Proofs.Store.Pending

/-!
# Consumers along a run

A consumer serves one live query and keeps, for every entity that has something to be told, a record
of it.  Most properties of consumers are about one consumer and one entity over a whole run, while
the definitions rewrite whole lists of consumers and maps of records.  This module makes the step
from one to the other: it says what each command does to the record that one consumer keeps about
one entity.

## Three kinds of steps

Seen from one entity, a step of a run does one of three things to the record that a consumer holds:

* a drain empties it (`Store.pendingOf_drain`),
* a reset marks the entity as new if it is a member, and keeps what is to be handed out as removed
  (`Store.pendingOf_reset`),
* any other command rewrites it with `Pending.after`, according to whether the entity was and is a
  member (`Moment.pendingOf_after`).

The third includes the commands that do nothing, commits about other entities, and the creation of
the consumer itself, for which it is as if all the members of its query entered.

## What is assumed of a store

`Store.Accountable` is the invariant: the store is consistent, every consumer has a live query, and
what a record says was removed is a value of its entity.  Every run keeps it
(`Store.accountable_run`).  `Store.Serves` says that a handle leads to a consumer and its query, and
what holds of all consumers after a command is put together by `Accountable.consumers_perform`.

## Moments

A run is cut into moments, a command with the store that it is carried out on (`Store.moments`).
`Moment.enters`, `Moment.leaves`, `Moment.stays` and `Moment.watched` are what happens to an entity
at a moment, seen by a consumer.  What is handed out at a drain is read off the records by
`Store.filter_drain` and `Store.mem_drain`.
-/

namespace SceneEngine

namespace Store

/-! ## Consumers and their queries -/

/-- Whether an entity is a member of the query of a consumer.  A handle that was not given out has
no members. -/
def isMember (store : Store) (consumer : ConsumerId) (id : EntityId) : Bool :=
  match store.queryOf consumer with
  | .ok live => decide (id ∈ live.members)
  | .error _ => false

/-- What a consumer has to hand out about an entity.  Entities without a record, and handles that
were not given out, have a blank one. -/
def pendingOf (store : Store) (consumer : ConsumerId) (id : EntityId) : Pending :=
  match store.consumer consumer with
  | .ok entry => entry.2.pendingOf id
  | .error _ => {}

/-- A handle leads to a consumer and its live query.  The proofs work with this, and turn to the
store only where a command replaces one of the two. -/
def Serves (store : Store) (consumer : ConsumerId) (entry : QueryId × Consumer)
    (live : LiveQuery) : Prop :=
  store.consumers[consumer.index]? = some entry ∧ store.queries[entry.1.index]? = some live

variable {store : Store} {consumer : ConsumerId} {entry : QueryId × Consumer} {live : LiveQuery}
  {id : EntityId}

lemma Serves.consumer_eq (h : store.Serves consumer entry live) :
    store.consumer consumer = .ok entry := by
  rw [Store.consumer, h.1]

lemma Serves.queryOf_eq (h : store.Serves consumer entry live) :
    store.queryOf consumer = .ok live := by
  rw [queryOf, h.consumer_eq, ok_bind, query, h.2]

lemma Serves.isMember_eq (h : store.Serves consumer entry live) :
    store.isMember consumer id = decide (id ∈ live.members) := by
  rw [isMember, h.queryOf_eq]

lemma Serves.pendingOf_eq (h : store.Serves consumer entry live) :
    store.pendingOf consumer id = entry.2.pendingOf id := by
  rw [pendingOf, h.consumer_eq]

/-- A handle that was not given out leads nowhere. -/
lemma notIssued (h : store.consumers[consumer.index]? = none) (id : EntityId) :
    store.isMember consumer id = false ∧ store.pendingOf consumer id = {} := by
  have hconsumer : store.consumer consumer = .error (.unknownHandle .consumer) := by
    rw [Store.consumer, h]
  rw [isMember, pendingOf, queryOf, hconsumer]
  exact ⟨rfl, rfl⟩

lemma query_eq_ok_iff {id : QueryId} :
    store.query id = .ok live ↔ store.queries[id.index]? = some live := by
  unfold query
  split <;> simp_all

lemma consumer_eq_ok_iff : store.consumer consumer = .ok entry ↔
    store.consumers[consumer.index]? = some entry := by
  unfold Store.consumer
  split <;> simp_all

end Store

/-! ## The invariant -/

namespace LiveQuery

/-- A consumer that learns of a commit rewrites the record of each entity as the members of the
query say. -/
lemma pendingOf_observe {live : LiveQuery} {state : StoreState} {next : StoreState × Commit}
    {record? : Option EntityRecord} (hlive : live.UpToDate state)
    (hadvance : state.Advances next record?) (consumer : Consumer) (id : EntityId) :
    ((live.transition? next.2).elim consumer (consumer.observe next.2.id)).pendingOf id =
      (consumer.pendingOf id).after (decide (id ∈ live.members))
        (decide (id ∈ (live.follow next.2).members)) (state.get? id)
        (if next.2.id = id then live.query.watched next.2.changed else ∅) := by
  -- a member is registered, so a commit about it has a value before
  have hbefore : next.2.id ∈ live.members → next.2.before?.isSome = true := by
    intro hmem
    rw [hadvance.before_eq]
    exact hlive.isSome_get? hmem
  simp only [mem_members_follow hbefore]
  by_cases hid : id = next.2.id
  · subst hid
    -- the transition of the query says which of the four cases of membership it is
    rcases transition?_cases hbefore with ⟨hwas, hnow, htransition⟩ | ⟨hwas, hnow, htransition⟩ |
      ⟨hwas, hnow, before, hsome, htransition⟩ | ⟨hwas, hnow, htransition⟩
    · simp [htransition, hwas, hnow, Pending.after]
    · simp [htransition, hwas, hnow, Consumer.observe, Consumer.pendingOf_enter, Pending.after]
    · rw [hadvance.before_eq] at hsome
      simp [htransition, hwas, hnow, hsome, Consumer.observe, Consumer.pendingOf_leave,
        Pending.after]
    · simp [htransition, hwas, hnow, Consumer.observe, Consumer.pendingOf_update, Pending.after]
  · -- the commit is about another entity
    simp only [if_neg hid, if_neg (Ne.symm hid), Pending.after_self]
    cases live.transition? next.2 with
    | none => rfl
    | some transition =>
      cases transition <;>
        simp [Consumer.observe, Consumer.pendingOf_enter, Consumer.pendingOf_leave,
          Consumer.pendingOf_update, hid]

end LiveQuery

namespace Store

/-- A consistent store whose consumers have live queries, and in which what is to be handed out as
removed about an entity is a value of that entity. -/
structure Accountable (schema : Schema) (store : Store) : Prop
    extends store.Consistent schema where
  /-- Every consumer has a live query. -/
  served : ∀ entry ∈ store.consumers, ∃ live, store.queries[entry.1.index]? = some live
  /-- What a record says was removed has the id of the entity that the record is about. -/
  removed_id : ∀ entry ∈ store.consumers, ∀ id last,
    (entry.2.pendingOf id).removed? = some last → last.id = id

lemma accountable_empty (schema : Schema) (historyDepth : Nat) :
    (Store.empty schema historyDepth).Accountable schema where
  toConsistent := consistent_empty schema historyDepth
  served := fun _ h => absurd h List.not_mem_nil
  removed_id := fun _ h => absurd h List.not_mem_nil

lemma Accountable.serves {schema : Schema} {store : Store} (hs : store.Accountable schema)
    {consumer : ConsumerId} {entry : QueryId × Consumer}
    (h : store.consumers[consumer.index]? = some entry) :
    ∃ live ∈ store.queries, store.Serves consumer entry live := by
  obtain ⟨live, hlive⟩ := hs.served entry (List.mem_of_getElem? h)
  exact ⟨live, List.mem_of_getElem? hlive, h, hlive⟩

/-- A member of the query of a consumer is registered. -/
lemma Accountable.isSome_get? {schema : Schema} {store : Store} (hs : store.Accountable schema)
    {consumer : ConsumerId} {id : EntityId}
    (h : store.isMember consumer id = true) : (store.get? id).isSome = true := by
  cases hissued : store.consumers[consumer.index]? with
  | none => exact absurd h (by simp [(notIssued hissued id).1])
  | some entry =>
    obtain ⟨live, hlive, hserves⟩ := hs.serves hissued
    rw [hserves.isMember_eq, decide_eq_true_eq] at h
    exact (hs.upToDate live hlive).isSome_get? h

lemma observe_eq {queries : List LiveQuery} {commit : Commit} {entry : QueryId × Consumer}
    {live : LiveQuery} (hlive : queries[entry.1.index]? = some live) :
    observe queries commit entry =
      (entry.1, (live.transition? commit).elim entry.2 (entry.2.observe commit.id)) := by
  rw [observe, hlive, Option.bind_some]
  cases live.transition? commit <;> rfl

/-- A consumer and its query follow an effective commit, and stay under their handles. -/
lemma Serves.commit {store : Store} {consumer : ConsumerId} {entry : QueryId × Consumer}
    {live : LiveQuery} {next : StoreState × Commit} (h : store.Serves consumer entry live)
    (heffective : next.2.isNoop = false) :
    (store.commit next).Serves consumer
      (entry.1, (live.transition? next.2).elim entry.2 (entry.2.observe next.2.id))
      (live.follow next.2) := by
  rw [commit_eq heffective]
  constructor
  · rw [List.getElem?_map, h.1, Option.map_some, observe_eq h.2]
  · rw [List.getElem?_map, h.2, Option.map_some]

/-- Queries stay where they are. -/
lemma getElem?_queries_append {store : Store} {entry : QueryId × Consumer} {live : LiveQuery}
    (h : store.queries[entry.1.index]? = some live) (queries : List LiveQuery) :
    (store.queries ++ queries)[entry.1.index]? = some live := by
  rw [List.getElem?_append_left (List.getElem?_eq_some_iff.mp h).1, h]

/-- A live query stays under its handle, and stays the same query; only its members change. -/
lemma query_perform {store : Store} (hs : store.current.WellFormed) {id : QueryId}
    {live : LiveQuery} (h : store.query id = .ok live) (command : StoreCommand) :
    ∃ live', (store.perform command).query id = .ok live' ∧ live'.query = live.query := by
  simp only [query_eq_ok_iff] at h ⊢
  have hstep := step_perform hs command
  generalize store.perform command = store' at hstep ⊢
  cases hstep with
  | @commits _ next _ _ hadvance =>
    refine ⟨live.follow next.2, ?_, LiveQuery.query_follow _ _⟩
    rw [commit_eq hadvance.effective, List.getElem?_map, h]
    rfl
  | startsQuery =>
    exact ⟨live, by rw [List.getElem?_append_left (List.getElem?_eq_some_iff.mp h).1, h], rfl⟩
  | idle | startsConsumer | resets | drains | caches => exact ⟨live, h, rfl⟩

/-- What holds of consumers that stay as they are, learn of a commit, start, are reset or drained
holds of all consumers after a command.  This is the induction principle for properties of all
consumers: each of the five ways is one hypothesis. -/
lemma Accountable.consumers_perform {schema : Schema} {store : Store}
    (hs : store.Accountable schema) {P : QueryId × Consumer → Prop}
    (h : ∀ entry ∈ store.consumers, P entry)
    (hobserve : ∀ entry ∈ store.consumers, ∀ live, store.queries[entry.1.index]? = some live →
      ∀ next record?, store.current.Advances next record? →
        P (entry.1, (live.transition? next.2).elim entry.2 (entry.2.observe next.2.id)))
    (hstart : ∀ query live, store.query query = .ok live → P (query, enterAll live {}))
    (hreset : ∀ entry ∈ store.consumers, ∀ live, P (entry.1, enterAll live entry.2.forget))
    (hdrain : ∀ entry ∈ store.consumers, P (entry.1, {})) (command : StoreCommand) :
    ∀ entry ∈ (store.perform command).consumers, P entry := by
  -- replacing a consumer leaves all others as they were
  have hset : ∀ (id : ConsumerId) (query : QueryId) (consumer : Consumer), P (query, consumer) →
      ∀ entry ∈ (store.setConsumer id query consumer).consumers, P entry := by
    intro id query consumer hconsumer entry hentry
    rcases List.mem_or_eq_of_mem_set hentry with hold | rfl
    · exact h entry hold
    · exact hconsumer
  have hmem : ∀ {id : ConsumerId} {entry : QueryId × Consumer}, store.consumer id = .ok entry →
      entry ∈ store.consumers :=
    fun hconsumer => List.mem_of_getElem? (consumer_eq_ok_iff.mp hconsumer)
  have hstep := step_perform hs.current.2 command
  generalize store.perform command = next at hstep
  cases hstep with
  | commits _ hadvance =>
    rw [commit_eq hadvance.effective]
    intro entry hentry
    obtain ⟨old, hold, rfl⟩ := List.mem_map.mp hentry
    obtain ⟨live, hlive⟩ := hs.served old hold
    rw [observe_eq hlive]
    exact hobserve old hold live hlive _ _ hadvance
  | startsConsumer hquery =>
    intro entry hentry
    rcases List.mem_append.mp hentry with hold | hnew
    · exact h entry hold
    · rw [List.mem_singleton.mp hnew]
      exact hstart _ _ hquery
  | resets hconsumer => exact hset _ _ _ (hreset _ (hmem hconsumer) _)
  | drains hconsumer => exact hset _ _ _ (hdrain _ (hmem hconsumer))
  | idle | startsQuery | caches => exact h

/-- No query goes away, and no consumer gets another one. -/
lemma Accountable.served_perform {schema : Schema} {store : Store} (hs : store.Accountable schema)
    (command : StoreCommand) : ∀ entry ∈ (store.perform command).consumers,
      ∃ live, (store.perform command).queries[entry.1.index]? = some live := by
  have hstays : ∀ query live, store.query query = .ok live →
      ∃ live', (store.perform command).queries[query.index]? = some live' := by
    intro query live hlive
    obtain ⟨live', hlive', -⟩ := query_perform hs.current.2 hlive command
    exact ⟨live', query_eq_ok_iff.mp hlive'⟩
  have hserved : ∀ entry ∈ store.consumers,
      ∃ live, (store.perform command).queries[entry.1.index]? = some live := by
    intro entry hentry
    obtain ⟨live, hlive⟩ := hs.served entry hentry
    exact hstays entry.1 live (query_eq_ok_iff.mpr hlive)
  exact hs.consumers_perform hserved (fun entry hentry _ _ _ _ _ => hserved entry hentry) hstays
    (fun entry hentry _ => hserved entry hentry) (fun entry hentry => hserved entry hentry) command

lemma Accountable.removed_id_perform {schema : Schema} {store : Store}
    (hs : store.Accountable schema) (command : StoreCommand) :
    ∀ entry ∈ (store.perform command).consumers, ∀ id last,
      (entry.2.pendingOf id).removed? = some last → last.id = id := by
  refine hs.consumers_perform hs.removed_id ?_ ?_ ?_ ?_ command
  · intro entry hentry live hlive next record? hadvance id last hlast
    have huptodate := hs.upToDate live (List.mem_of_getElem? hlive)
    rw [LiveQuery.pendingOf_observe huptodate hadvance] at hlast
    rcases Pending.removed?_after hlast with hbefore | hget
    · exact hs.removed_id entry hentry id last hbefore
    · exact hs.current.2.id_eq hget
  · -- nothing left a consumer that starts
    intro query live _ id last hlast
    rw [pendingOf_enterAll] at hlast
    split at hlast <;> cases hlast
  · intro entry hentry live id last hlast
    have hkept : (entry.2.pendingOf id).removed? = some last := by
      rw [pendingOf_enterAll, Consumer.pendingOf_forget] at hlast
      split at hlast <;> exact hlast
    exact hs.removed_id entry hentry id last hkept
  · intro entry hentry id last hlast
    cases hlast

lemma accountable_perform {schema : Schema} (store : Store) (command : StoreCommand)
    (hs : store.Accountable schema) : (store.perform command).Accountable schema where
  toConsistent := consistent_perform store command hs.toConsistent
  served := hs.served_perform command
  removed_id := hs.removed_id_perform command

lemma accountable_run (schema : Schema) (historyDepth : Nat) (commands : List StoreCommand) :
    ((Store.empty schema historyDepth).run commands).Accountable schema :=
  run_preserves accountable_perform (accountable_empty schema historyDepth) commands

end Store

/-! ## Moments -/

/-- A moment of a run: a command and the store it is carried out on.  What happens at a moment can
be told from these two, so statements about a run can speak of its moments. -/
structure Moment where
  /-- The store that the command finds. -/
  before : Store
  /-- The command that is carried out, or refused. -/
  command : StoreCommand

namespace Moment

variable (moment : Moment) (consumer : ConsumerId) (id : EntityId)

/-- The store after the command. -/
def after : Store := moment.before.perform moment.command

/-- An entity becomes a member of the query of a consumer. -/
def enters : Bool := !moment.before.isMember consumer id && moment.after.isMember consumer id

/-- An entity ceases to be a member of the query of a consumer. -/
def leaves : Bool := moment.before.isMember consumer id && !moment.after.isMember consumer id

/-- An entity is a member of the query of a consumer before and after. -/
def stays : Bool := moment.before.isMember consumer id && moment.after.isMember consumer id

/-- The changes to an entity that count for the query of a consumer: those of a commit about it, in
the components that the query looks at. -/
def watched : ComponentSet :=
  match moment.before.effect? moment.command, moment.before.queryOf consumer with
  | some commit, .ok live => if commit.id = id then live.query.watched commit.changed else ∅
  | _, _ => ∅

variable {moment consumer id}

lemma watched_of_idle (h : moment.before.effect? moment.command = none) :
    moment.watched consumer id = ∅ := by
  rw [watched, h]

end Moment

namespace Store

/-- The moments of a run, in their order. -/
def moments (store : Store) : List StoreCommand → List Moment
  | [] => []
  | command :: commands => ⟨store, command⟩ :: (store.perform command).moments commands

lemma moments_append (store : Store) (commands commands' : List StoreCommand) :
    store.moments (commands ++ commands') =
      store.moments commands ++ (store.run commands).moments commands' := by
  induction commands generalizing store with
  | nil => rfl
  | cons command commands ih =>
    rw [List.cons_append, moments, ih, moments, List.cons_append, run_cons]

variable {schema : Schema} {store next : Store} {consumer : ConsumerId}
  {entry : QueryId × Consumer} {live : LiveQuery}

/-- While a handle leads to the same consumer and query, there is nothing new to hand out. -/
lemma pendingOf_of_same (hstore : store.Serves consumer entry live)
    (hnext : next.Serves consumer entry live) (id : EntityId) (last? : Option Entity) :
    next.pendingOf consumer id = (store.pendingOf consumer id).after (store.isMember consumer id)
      (next.isMember consumer id) last? ∅ := by
  rw [hstore.isMember_eq, hnext.isMember_eq, hstore.pendingOf_eq, hnext.pendingOf_eq,
    Pending.after_self]

/-- Nor is there while the handle leads nowhere. -/
lemma pendingOf_of_notIssued (hstore : store.consumers[consumer.index]? = none)
    (hnext : next.consumers[consumer.index]? = none) (id : EntityId) (last? : Option Entity)
    (watched : ComponentSet) :
    next.pendingOf consumer id = (store.pendingOf consumer id).after (store.isMember consumer id)
      (next.isMember consumer id) last? watched := by
  rw [(notIssued hstore id).1, (notIssued hstore id).2, (notIssued hnext id).1,
    (notIssued hnext id).2]
  rfl

lemma getElem?_set_consumers {id : ConsumerId} (hid : id ≠ consumer) (query : QueryId)
    (state : Consumer) :
    (store.setConsumer id query state).consumers[consumer.index]? =
      store.consumers[consumer.index]? := by
  have hindex : id.index ≠ consumer.index := by
    intro h
    cases id
    cases consumer
    exact hid (congrArg ConsumerId.mk h)
  exact List.getElem?_set_ne hindex

end Store

/-! ## Other commands -/

namespace Moment

variable {schema : Schema} {moment : Moment} {consumer : ConsumerId} {entry : QueryId × Consumer}

/-- What a command does to a record of a consumer that exists, unless it drains or resets this one.
-/
lemma pendingOf_after_of_issued (hs : moment.before.Accountable schema)
    (hissued : moment.before.consumers[consumer.index]? = some entry)
    (hdrain : moment.command ≠ .drain consumer)
    (hreset : moment.command ≠ .resetConsumer consumer) (id : EntityId) :
    moment.after.pendingOf consumer id =
      (moment.before.pendingOf consumer id).after (moment.before.isMember consumer id)
        (moment.after.isMember consumer id) (moment.before.get? id)
        (moment.watched consumer id) := by
  obtain ⟨live, hlive, hserves⟩ := hs.serves hissued
  obtain ⟨store, command⟩ := moment
  have hstep : store.Step command (Moment.after ⟨store, command⟩) :=
    Store.step_perform hs.current.2 command
  generalize Moment.after ⟨store, command⟩ = next at hstep
  cases hstep with
  | idle heffect =>
    rw [watched_of_idle heffect]
    exact Store.pendingOf_of_same hserves hserves _ _
  | @commits _ next record? hproposal hadvance =>
    have hafter := hserves.commit hadvance.effective
    have heffect := Store.effect?_of_advances hproposal hadvance
    have hwatched : watched ⟨store, command⟩ consumer id =
        if next.2.id = id then live.query.watched next.2.changed else ∅ := by
      rw [watched, heffect, hserves.queryOf_eq]
    rw [hwatched, hserves.isMember_eq, hafter.isMember_eq, hserves.pendingOf_eq,
      hafter.pendingOf_eq]
    exact LiveQuery.pendingOf_observe (hs.upToDate live hlive) hadvance entry.2 id
  | startsQuery =>
    rw [watched_of_idle rfl]
    apply Store.pendingOf_of_same hserves
    exact ⟨hserves.1, Store.getElem?_queries_append hserves.2 _⟩
  | startsConsumer =>
    rw [watched_of_idle rfl]
    apply Store.pendingOf_of_same hserves
    refine ⟨?_, hserves.2⟩
    rw [List.getElem?_append_left (List.getElem?_eq_some_iff.mp hserves.1).1, hserves.1]
  | @resets other =>
    have hother : other ≠ consumer := fun h => hreset (congrArg _ h)
    rw [watched_of_idle rfl]
    apply Store.pendingOf_of_same hserves
    exact ⟨(Store.getElem?_set_consumers hother _ _).trans hserves.1, hserves.2⟩
  | @drains other =>
    have hother : other ≠ consumer := fun h => hdrain (congrArg _ h)
    rw [watched_of_idle rfl]
    apply Store.pendingOf_of_same hserves
    exact ⟨(Store.getElem?_set_consumers hother _ _).trans hserves.1, hserves.2⟩
  | caches =>
    rw [watched_of_idle rfl]
    exact Store.pendingOf_of_same hserves hserves _ _

/-- A consumer starts as if all members of its query entered.  Before it started it had no members
and no records, so this is a rewriting of a blank record like any other. -/
lemma pendingOf_after_of_notIssued (moment : Moment) (hs : moment.before.Accountable schema)
    (hissued : moment.before.consumers[consumer.index]? = none) (id : EntityId) :
    moment.after.pendingOf consumer id =
      (moment.before.pendingOf consumer id).after (moment.before.isMember consumer id)
        (moment.after.isMember consumer id) (moment.before.get? id)
        (moment.watched consumer id) := by
  obtain ⟨store, command⟩ := moment
  have hstep : store.Step command (Moment.after ⟨store, command⟩) :=
    Store.step_perform hs.current.2 command
  generalize Moment.after ⟨store, command⟩ = next at hstep
  cases hstep with
  | commits _ hadvance =>
    apply Store.pendingOf_of_notIssued hissued
    rw [Store.commit_eq hadvance.effective, List.getElem?_map, hissued, Option.map_none]
  | @startsConsumer query live hquery =>
    by_cases hindex : consumer.index = store.consumers.length
    · -- this is the consumer that starts
      have hserves : Store.Serves
          { store with consumers := store.consumers ++ [(query, Store.enterAll live {})] }
          consumer (query, Store.enterAll live {}) live := by
        constructor
        · rw [hindex, List.getElem?_append_right (Nat.le_refl _), Nat.sub_self]
          rfl
        · exact Store.query_eq_ok_iff.mp hquery
      rw [hserves.isMember_eq, hserves.pendingOf_eq, (Store.notIssued hissued id).1,
        (Store.notIssued hissued id).2, Store.pendingOf_enterAll]
      by_cases hmem : id ∈ live.members <;> simp [hmem, Pending.after]
    · apply Store.pendingOf_of_notIssued hissued
      have hlen : store.consumers.length ≤ consumer.index := List.getElem?_eq_none_iff.mp hissued
      apply List.getElem?_eq_none
      rw [List.length_append, List.length_singleton]
      omega
  | resets | drains =>
    apply Store.pendingOf_of_notIssued hissued
    apply List.getElem?_eq_none
    rw [Store.setConsumer, List.length_set]
    exact List.getElem?_eq_none_iff.mp hissued
  | idle | startsQuery | caches =>
    apply Store.pendingOf_of_notIssued hissued
    exact hissued

/-- What a command that neither drains nor resets a consumer does to the record of an entity. -/
theorem pendingOf_after (moment : Moment) (hs : moment.before.Accountable schema)
    (hdrain : moment.command ≠ .drain consumer)
    (hreset : moment.command ≠ .resetConsumer consumer) (id : EntityId) :
    moment.after.pendingOf consumer id =
      (moment.before.pendingOf consumer id).after (moment.before.isMember consumer id)
        (moment.after.isMember consumer id) (moment.before.get? id)
        (moment.watched consumer id) := by
  cases hissued : moment.before.consumers[consumer.index]? with
  | none => exact pendingOf_after_of_notIssued moment hs hissued id
  | some entry => exact pendingOf_after_of_issued hs hissued hdrain hreset id

end Moment

/-! ## Draining and resetting -/

namespace Store

variable {schema : Schema} {store next : Store} {consumer : ConsumerId}
  {entry : QueryId × Consumer} {live : LiveQuery} {delta : Delta} {id : EntityId}

lemma Serves.setConsumer (h : store.Serves consumer entry live) (state : Consumer) :
    (store.setConsumer consumer entry.1 state).Serves consumer (entry.1, state) live := by
  refine ⟨?_, h.2⟩
  rw [Store.setConsumer, List.getElem?_set_self (List.getElem?_eq_some_iff.mp h.1).1]

lemma Serves.drain_eq (h : store.Serves consumer entry live) :
    store.drain consumer =
      .ok ((entry.2.drain store.current).1, store.setConsumer consumer entry.1 {}) := by
  rw [drain, h.consumer_eq]
  rfl

lemma Serves.resetConsumer_eq (h : store.Serves consumer entry live) :
    store.resetConsumer consumer =
      .ok (store.setConsumer consumer entry.1 (enterAll live entry.2.forget)) := by
  have hquery : store.query entry.1 = .ok live := query_eq_ok_iff.mpr h.2
  simp only [resetConsumer, h.consumer_eq, ok_bind, hquery]
  rfl

/-- A handle that leads to a live query leads to a consumer of it. -/
lemma exists_serves (h : store.queryOf consumer = .ok live) :
    ∃ entry, store.Serves consumer entry live := by
  obtain ⟨entry, hentry, hlive⟩ := bind_eq_ok_iff.mp h
  exact ⟨entry, consumer_eq_ok_iff.mp hentry, query_eq_ok_iff.mp hlive⟩

/-- An entity is a member when the query accepts its value. -/
lemma isMember_eq_any (hs : store.Accountable schema) (h : store.queryOf consumer = .ok live)
    (id : EntityId) : store.isMember consumer id = (store.get? id).any live.query.accepts := by
  obtain ⟨entry, hserves⟩ := exists_serves h
  rw [hserves.isMember_eq, Bool.eq_iff_iff, decide_eq_true_eq,
    hs.upToDate live (List.mem_of_getElem? hserves.2), Query.selects_iff, Option.any_eq_true]
  rfl

/-- A consumer keeps its query, whatever is done to the store. -/
lemma queryOf_perform (hs : store.Accountable schema) (h : store.queryOf consumer = .ok live)
    (command : StoreCommand) :
    ∃ live', (store.perform command).queryOf consumer = .ok live' ∧ live'.query = live.query := by
  obtain ⟨entry, hserves⟩ := exists_serves h
  -- it is enough that the handle leads to a consumer of the same query
  suffices ∃ entry' live', (store.perform command).Serves consumer entry' live' ∧
      live'.query = live.query by
    obtain ⟨entry', live', hserves', hquery⟩ := this
    exact ⟨live', hserves'.queryOf_eq, hquery⟩
  have hset : ∀ id query state state', store.consumer id = .ok (query, state) →
      ∃ entry', (store.setConsumer id query state').Serves consumer entry' live := by
    intro id query state state' hconsumer
    by_cases hid : id = consumer
    · subst hid
      have hentry : entry = (query, state) :=
        Except.ok.inj (hserves.consumer_eq.symm.trans hconsumer)
      subst hentry
      exact ⟨_, hserves.setConsumer state'⟩
    · exact ⟨entry, (getElem?_set_consumers hid _ _).trans hserves.1, hserves.2⟩
  have hstep := step_perform hs.current.2 command
  generalize store.perform command = next at hstep ⊢
  cases hstep with
  | commits _ hadvance =>
    exact ⟨_, _, hserves.commit hadvance.effective, LiveQuery.query_follow _ _⟩
  | startsQuery => exact ⟨entry, live, ⟨hserves.1, getElem?_queries_append hserves.2 _⟩, rfl⟩
  | startsConsumer =>
    refine ⟨entry, live, ⟨?_, hserves.2⟩, rfl⟩
    rw [List.getElem?_append_left (List.getElem?_eq_some_iff.mp hserves.1).1, hserves.1]
  | resets hconsumer =>
    obtain ⟨entry', hentry'⟩ := hset _ _ _ _ hconsumer
    exact ⟨entry', live, hentry', rfl⟩
  | drains hconsumer =>
    obtain ⟨entry', hentry'⟩ := hset _ _ _ _ hconsumer
    exact ⟨entry', live, hentry', rfl⟩
  | idle | caches => exact ⟨entry, live, hserves, rfl⟩

/-- A command about a consumer is refused when its handle leads nowhere. -/
lemma perform_of_notIssued (h : store.consumers[consumer.index]? = none) :
    store.perform (.drain consumer) = store ∧ store.perform (.resetConsumer consumer) = store := by
  have hconsumer : store.consumer consumer = .error (.unknownHandle .consumer) := by
    rw [Store.consumer, h]
  rw [perform, perform, drain, resetConsumer, hconsumer]
  exact ⟨rfl, rfl⟩

/-- A drain leaves nothing behind, and changes nothing about who is a member. -/
theorem pendingOf_drain (hs : store.Accountable schema) (consumer : ConsumerId) (id : EntityId) :
    (store.perform (.drain consumer)).pendingOf consumer id = {} ∧
      (store.perform (.drain consumer)).isMember consumer id = store.isMember consumer id := by
  cases hissued : store.consumers[consumer.index]? with
  | none =>
    rw [(perform_of_notIssued hissued).1]
    exact ⟨(notIssued hissued id).2, rfl⟩
  | some entry =>
    obtain ⟨live, -, hserves⟩ := hs.serves hissued
    have hafter := hserves.setConsumer {}
    rw [perform, hserves.drain_eq, except_map_ok, orSame_ok, hafter.pendingOf_eq,
      hafter.isMember_eq, hserves.isMember_eq]
    exact ⟨rfl, rfl⟩

/-- A reset marks the members as new and keeps what is to be handed out as removed.  What had
changed is forgotten, since it is contained in what is new. -/
theorem pendingOf_reset (hs : store.Accountable schema) (consumer : ConsumerId) (id : EntityId) :
    (store.perform (.resetConsumer consumer)).pendingOf consumer id =
        { store.pendingOf consumer id with
          isNew := store.isMember consumer id
          changed := ∅ } ∧
      (store.perform (.resetConsumer consumer)).isMember consumer id =
        store.isMember consumer id := by
  cases hissued : store.consumers[consumer.index]? with
  | none =>
    rw [(perform_of_notIssued hissued).2, (notIssued hissued id).1, (notIssued hissued id).2]
    exact ⟨rfl, rfl⟩
  | some entry =>
    obtain ⟨live, -, hserves⟩ := hs.serves hissued
    have hafter := hserves.setConsumer (enterAll live entry.2.forget)
    rw [perform, hserves.resetConsumer_eq, orSame_ok, hafter.pendingOf_eq, hafter.isMember_eq,
      hserves.isMember_eq, hserves.pendingOf_eq, pendingOf_enterAll, Consumer.pendingOf_forget]
    by_cases hmem : id ∈ live.members <;> simp [hmem]

/-- A drain hands out, entity by entity, what the records of the consumer say.  Filtering for one
entity keeps how often and with which values it is mentioned. -/
theorem filter_drain (hs : store.Accountable schema)
    (h : store.drain consumer = .ok (delta, next)) (id : EntityId) :
    delta.removed.filter (fun entity => decide (entity.id = id)) =
        (store.pendingOf consumer id).removed?.toList ∧
      delta.new.filter (fun entity => decide (entity.id = id)) =
        (if (store.pendingOf consumer id).isNew then (store.get? id).toList else []) ∧
      delta.updated.filter (fun update => decide (update.entity.id = id)) =
        if (store.pendingOf consumer id).changed.isEmpty then []
        else ((store.get? id).map fun current =>
          ⟨current, (store.pendingOf consumer id).changed⟩).toList := by
  cases hissued : store.consumers[consumer.index]? with
  | none =>
    rw [drain, Store.consumer, hissued] at h
    cases h
  | some entry =>
    obtain ⟨live, -, hserves⟩ := hs.serves hissued
    rw [hserves.drain_eq] at h
    cases h
    rw [hserves.pendingOf_eq]
    have hstate : ∀ id current, store.current.get? id = some current → current.id = id :=
      fun _ _ => hs.current.2.id_eq
    exact ⟨Consumer.removed_drain (hs.removed_id entry (List.mem_of_getElem? hissued)) id,
      Consumer.new_drain hstate id, Consumer.updated_drain hstate id⟩

/-- What a drain hands out, one entry at a time.  This is `filter_drain` without the number of
entries. -/
lemma mem_drain (hs : store.Accountable schema) (h : store.drain consumer = .ok (delta, next)) :
    (∀ id, id ∈ delta.removed.map Entity.id ↔
      (store.pendingOf consumer id).removed?.isSome = true) ∧
    (∀ entity, entity ∈ delta.new ↔
      (store.pendingOf consumer entity.id).isNew = true ∧ store.get? entity.id = some entity) ∧
    ∀ update, update ∈ delta.updated ↔
      (store.pendingOf consumer update.entity.id).changed.isEmpty = false ∧
        store.get? update.entity.id = some update.entity ∧
        update.changed = (store.pendingOf consumer update.entity.id).changed := by
  refine ⟨fun id => ?_, fun entity => ?_, fun update => ?_⟩
  · obtain ⟨hremoved, -, -⟩ := filter_drain hs h id
    have hsome : (store.pendingOf consumer id).removed?.isSome = true ↔
        (store.pendingOf consumer id).removed?.toList ≠ [] := by
      cases (store.pendingOf consumer id).removed? <;> simp
    rw [hsome, ← hremoved, ne_eq, List.filter_eq_nil_iff]
    simp
  · obtain ⟨-, hnew, -⟩ := filter_drain hs h entity.id
    have hmem : entity ∈ delta.new ↔
        entity ∈ delta.new.filter (fun other => decide (other.id = entity.id)) := by simp
    rw [hmem, hnew]
    cases (store.pendingOf consumer entity.id).isNew <;> simp
  · obtain ⟨-, -, hupdated⟩ := filter_drain hs h update.entity.id
    have hmem : update ∈ delta.updated ↔ update ∈ delta.updated.filter
        (fun other => decide (other.entity.id = update.entity.id)) := by simp
    rw [hmem, hupdated]
    cases (store.pendingOf consumer update.entity.id).changed.isEmpty with
    | true => simp
    | false =>
      obtain ⟨entity, changed⟩ := update
      simp only [Bool.false_eq_true, if_false, Option.mem_toList, Option.map_eq_some_iff, true_and,
        Updated.mk.injEq]
      constructor
      · rintro ⟨current, hcurrent, rfl, hchanged⟩
        exact ⟨hcurrent, hchanged.symm⟩
      · rintro ⟨hcurrent, hchanged⟩
        exact ⟨entity, hcurrent, rfl, hchanged.symm⟩

end Store

end SceneEngine
