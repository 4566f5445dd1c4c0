import SceneEngine.Proofs.Store.Consumers

/-!
# Groups of live queries

A query with a key keeps its members in groups, one for each value that the key component has among
them, so that looking up a key needs no search.  The groups are kept up with the members: an entity
moves from one group to another only when a commit gives it another key.  This module shows that
what is looked up is exact.

## What exact means

`LiveQuery.Grouped` says that an entity stands under a key if and only if it is a member and the
value that is registered for it has that key.  Keys are made of truth values, whole numbers and
texts; an entity that lacks the component, or holds something there that is no key, is a member all
the same and stands under none.  The component of the key need not be among those that the query
includes, so this does happen.

## How it is kept

The groups of a live query are changed by two operations, described by what is under a key
afterwards (`LiveQuery.mem_lookup_addToGroup`, `LiveQuery.mem_lookup_removeFromGroup`).  A commit
enters, leaves or stays, and in each case the entity stands afterwards under the key of its new
value if that is accepted, and all others stand where they stood (`LiveQuery.mem_lookup_follow`).
What has to be known for this is that the entity stood where its old value belongs, which is the
invariant itself, so `LiveQuery.grouped_follow` is the step of an induction over commits.

`Store.Indexed` is the invariant for all live queries of a store, and the main result is
`Store.lookup_exact`.  That groups hold each entity once comes from their being sets.
-/

namespace SceneEngine

namespace LiveQuery

variable {live : LiveQuery} {state : StoreState} {next : StoreState × Commit}
  {record? : Option EntityRecord} {commit : Commit} {id id' : EntityId} {key : IndexKey}
  {key? : Option IndexKey}

/-! ## One group -/

lemma mem_lookup_iff : id ∈ live.lookup key ↔ ∃ group, live.groups.get? key = some group ∧
    id ∈ group := by
  rw [lookup]
  cases live.groups.get? key with
  | none => simp
  | some group => simp

lemma nodup_lookup (live : LiveQuery) (key : IndexKey) : (live.lookup key).Nodup := by
  rw [lookup]
  cases live.groups.get? key with
  | none => exact List.nodup_nil
  | some group => exact group.nodup

/-- What is under a key once an entity has been added under one.  An entity without a key is added
nowhere. -/
lemma mem_lookup_addToGroup :
    id' ∈ (live.addToGroup id key?).lookup key ↔
      id' ∈ live.lookup key ∨ (id' = id ∧ key? = some key) := by
  cases key? with
  | none => simp [addToGroup]
  | some key' =>
    simp only [mem_lookup_iff, addToGroup, OrderedMap.get?_upsert, Option.some.injEq]
    by_cases hkey : key = key'
    · subst hkey
      cases live.groups.get? key <;> simp [or_comm]
    · simp [hkey, Ne.symm hkey]

/-- What is under a key once an entity has been taken away from one.  The group goes with its last
entity, which makes no difference to what is looked up. -/
lemma mem_lookup_removeFromGroup :
    id' ∈ (live.removeFromGroup id key?).lookup key ↔
      id' ∈ live.lookup key ∧ ¬(id' = id ∧ key? = some key) := by
  cases key? with
  | none => simp [removeFromGroup]
  | some key' =>
    rw [removeFromGroup]
    cases hgroup : live.groups.get? key' with
    | none =>
      simp only [mem_lookup_iff]
      by_cases hkey : key = key'
      · simp [hkey, hgroup]
      · simp [Ne.symm hkey]
    | some group =>
      have hempty : (group.erase id).isEmpty = true → id' ∉ group.erase id := by
        intro hempty hmem
        rw [OrderedSet.isEmpty, List.isEmpty_iff] at hempty
        rw [← OrderedSet.mem_toList, hempty] at hmem
        cases hmem
      simp only [mem_lookup_iff]
      by_cases hkey : key = key'
      · -- the group is left with the other entities, or it goes
        subst hkey
        split
        next hgone => simpa [hgroup] using hempty hgone
        next => simp [OrderedMap.get?_modify, hgroup]
      · split
        · simp [hkey, Ne.symm hkey]
        · simp [OrderedMap.get?_modify, hkey, Ne.symm hkey]

/-! ## All groups -/

/-- An entity stands under a key if it is a member and its value has that key, and only then. -/
def Grouped (live : LiveQuery) (state : StoreState) : Prop :=
  ∀ key id, id ∈ live.lookup key ↔
    id ∈ live.members ∧ (state.get? id).bind live.keyOf? = some key

/-- Queries that are the same give an entity the same key. -/
lemma keyOf?_eq {live' : LiveQuery} (h : live'.query = live.query) (entity : Entity) :
    live'.keyOf? entity = live.keyOf? entity := by
  rw [keyOf?, h, keyOf?]

lemma mem_lookup_foldl_addToGroup (entities : List Entity) (live : LiveQuery) :
    id ∈ (entities.foldl
        (fun live entity => live.addToGroup entity.id (live.keyOf? entity)) live).lookup key ↔
      id ∈ live.lookup key ∨ ∃ entity ∈ entities, entity.id = id ∧
        live.keyOf? entity = some key := by
  induction entities generalizing live with
  | nil => simp
  | cons entity entities ih =>
    have hkey := keyOf?_eq (query_addToGroup live entity.id (live.keyOf? entity))
    rw [List.foldl_cons, ih, mem_lookup_addToGroup, List.exists_mem_cons_iff, or_assoc]
    simp only [hkey, eq_comm (a := id)]

/-- A query that is made live starts with exact groups: its members are put under the keys of their
values, one after another. -/
lemma grouped_start (query : Query) (hs : state.WellFormed) :
    (start query state).Grouped state := by
  intro key id
  have hmembers : (start query state).members = .ofList (query.matching state) :=
    (start_eq query state).2
  have hkey : (start query state).keyOf? = fun entity =>
      query.key?.bind fun c => (entity.get? c).bind IndexKey.of? := by
    funext entity
    rw [keyOf?, (start_eq query state).1]
  have hempty : id ∉ LiveQuery.lookup ⟨query, .ofList (query.matching state), ∅⟩ key :=
    List.not_mem_nil
  rw [hmembers, hkey, start, mem_lookup_foldl_addToGroup, or_iff_right hempty,
    Option.bind_eq_some_iff]
  constructor
  · rintro ⟨entity, hentity, rfl, hof⟩
    obtain ⟨id, hid, hget⟩ := List.mem_filterMap.mp hentity
    obtain ⟨record, hrecord, rfl⟩ := Option.map_eq_some_iff.mp hget
    -- a value is registered under its own identifier
    obtain rfl : record.entity.id = id := (hs.records id record hrecord).id_eq
    exact ⟨hid, record.entity, hget, hof⟩
  · rintro ⟨hid, entity, hget, hof⟩
    obtain ⟨record, hrecord, rfl⟩ := Option.map_eq_some_iff.mp hget
    exact ⟨record.entity, List.mem_filterMap.mpr ⟨id, hid, hget⟩,
      (hs.records id record hrecord).id_eq, hof⟩

/-- After a commit its entity stands under the key of its new value, if that is accepted, and every
other entity where it stood before. -/
lemma mem_lookup_follow (hbefore : commit.id ∈ live.members → commit.before?.isSome = true)
    (hold : commit.id ∈ live.lookup key ↔
      commit.id ∈ live.members ∧ commit.before?.bind live.keyOf? = some key) :
    id ∈ (live.follow commit).lookup key ↔
      if id = commit.id then
        commit.after?.any live.query.accepts = true ∧ commit.after?.bind live.keyOf? = some key
      else id ∈ live.lookup key := by
  rcases transition?_cases hbefore with ⟨hwas, hnow, htransition⟩ | ⟨hwas, hnow, htransition⟩ |
    ⟨hwas, hnow, before, -, htransition⟩ | ⟨hwas, hnow, htransition⟩
  · simp only [follow, htransition, hnow]
    by_cases hid : id = commit.id <;> simp [hid, hold, hwas]
  · have henter : id ∈ (live.follow commit).lookup key ↔
        id ∈ live.lookup key ∨ (id = commit.id ∧ commit.after?.bind live.keyOf? = some key) := by
      simp only [follow, htransition]
      exact mem_lookup_addToGroup
    rw [henter, hnow]
    by_cases hid : id = commit.id <;> simp [hid, hold, hwas]
  · have hleave : id ∈ (live.follow commit).lookup key ↔
        id ∈ live.lookup key ∧ ¬(id = commit.id ∧ commit.before?.bind live.keyOf? = some key) := by
      simp only [follow, htransition]
      exact mem_lookup_removeFromGroup
    rw [hleave, hnow]
    by_cases hid : id = commit.id <;> simp [hid, hold]
  · simp only [follow, htransition, hnow]
    split
    next hsame =>
      -- a member that keeps its key is under it already
      by_cases hid : id = commit.id <;> simp [hid, hold, hwas, hsame]
    next =>
      rw [mem_lookup_addToGroup, mem_lookup_removeFromGroup]
      by_cases hid : id = commit.id <;> simp [hid, hold, hwas]

/-- Following an effective commit keeps the groups exact. -/
theorem grouped_follow (hup : live.UpToDate state) (h : live.Grouped state)
    (hadvance : state.Advances next record?) : (live.follow next.2).Grouped next.1 := by
  intro key id
  have hbefore : next.2.id ∈ live.members → next.2.before?.isSome = true := by
    intro hmem
    rw [hadvance.before_eq]
    exact hup.isSome_get? hmem
  have hold : next.2.id ∈ live.lookup key ↔
      next.2.id ∈ live.members ∧ next.2.before?.bind live.keyOf? = some key := by
    rw [hadvance.before_eq]
    exact h key next.2.id
  have hkey : (live.follow next.2).keyOf? = live.keyOf? := funext (keyOf?_eq (query_follow _ _))
  rw [mem_lookup_follow hbefore hold, mem_members_follow hbefore, hkey, hadvance.get?_eq]
  by_cases hid : id = next.2.id
  · rw [if_pos hid, if_pos hid, if_pos hid]
  · rw [if_neg hid, if_neg hid, if_neg hid, h key id]

end LiveQuery

namespace Store

/-! ## Live queries of a store -/

/-- The live queries of a store have the members and groups that they should have. -/
structure Indexed (schema : Schema) (store : Store) : Prop extends store.Consistent schema where
  /-- The groups of every live query are exact. -/
  grouped : ∀ live ∈ store.queries, live.Grouped store.current

lemma indexed_empty (schema : Schema) (historyDepth : Nat) :
    (Store.empty schema historyDepth).Indexed schema where
  toConsistent := consistent_empty schema historyDepth
  grouped := fun _ h => absurd h List.not_mem_nil

lemma indexed_perform {schema : Schema} (store : Store) (command : StoreCommand)
    (hs : store.Indexed schema) : (store.perform command).Indexed schema where
  toConsistent := consistent_perform store command hs.toConsistent
  grouped := queries_perform (P := fun state live => live.Grouped state) hs.current.2
    (fun query => LiveQuery.grouped_start query hs.current.2)
    (fun live hlive _ _ hadvance =>
      LiveQuery.grouped_follow (hs.upToDate live hlive) (hs.grouped live hlive) hadvance)
    hs.grouped command

lemma indexed_run (schema : Schema) (historyDepth : Nat) (commands : List StoreCommand) :
    ((Store.empty schema historyDepth).run commands).Indexed schema :=
  run_preserves indexed_perform (indexed_empty schema historyDepth) commands

/-- **Looking up a key is exact.**  After any run, a live query that groups its members by a
component finds under every key, once each, the members whose registered value of the component has
that key.  An entity that lacks the component, or has a value there that is no key, is found under
none. -/
theorem lookup_exact (schema : Schema) (historyDepth : Nat) (commands : List StoreCommand)
    (query : QueryId) (live : LiveQuery) (c : ComponentId)
    (hlive : ((Store.empty schema historyDepth).run commands).query query = .ok live)
    (hkey : live.query.key? = some c) (key : IndexKey) :
    ∃ ids, ((Store.empty schema historyDepth).run commands).lookup query key = .ok ids ∧
      ids.Nodup ∧
      (∀ id, id ∈ ids ↔ id ∈ live.members ∧ ∃ entity value,
        ((Store.empty schema historyDepth).run commands).get? id = some entity ∧
          entity.get? c = some value ∧ IndexKey.of? value = some key) ∧
      ∀ id entity, ((Store.empty schema historyDepth).run commands).get? id = some entity →
        (entity.get? c).bind IndexKey.of? = none → id ∉ ids := by
  have hgrouped := (indexed_run schema historyDepth commands).grouped
  generalize (Store.empty schema historyDepth).run commands = store at hlive hgrouped ⊢
  have hmem : live ∈ store.queries := List.mem_of_getElem? (query_eq_ok_iff.mp hlive)
  have hlookup : ∀ id, id ∈ live.lookup key ↔ id ∈ live.members ∧ ∃ entity value,
      store.get? id = some entity ∧ entity.get? c = some value ∧
        IndexKey.of? value = some key := by
    intro id
    rw [hgrouped live hmem key id]
    simp [LiveQuery.keyOf?, hkey, Option.bind_eq_some_iff, get?]
  refine ⟨live.lookup key, by rw [lookup, hlive]; rfl, live.nodup_lookup key, hlookup, ?_⟩
  intro id entity hentity hnone hid
  obtain ⟨-, entity', value, hentity', hvalue, hof⟩ := (hlookup id).mp hid
  obtain rfl := Option.some.inj (hentity.symm.trans hentity')
  rw [hvalue, Option.bind_some, hof] at hnone
  cases hnone

/-- A query groups entities by a component, and one with a truth value there is registered. -/
def groupedCommands : List StoreCommand :=
  [.createQuery { includes := ["type"], keyedBy? := some "type" },
    .quickEntity ⟨1⟩ [("type", .bool true)]]

/-- The query of `groupedCommands` finds the entity under its truth value. -/
theorem lookup_exact_grouped :
    ∃ live, ((empty typedSchema 0).run groupedCommands).query ⟨0⟩ = .ok live ∧
      ((empty typedSchema 0).run groupedCommands).lookup ⟨0⟩ (.bool true) = .ok [⟨1⟩] ∧
      ∀ id, id ∈ [(⟨1⟩ : EntityId)] ↔ id ∈ live.members ∧ ∃ entity value,
        ((empty typedSchema 0).run groupedCommands).get? id = some entity ∧
          entity.get? ⟨0, by decide⟩ = some value ∧ IndexKey.of? value = some (.bool true) := by
  have hkey : ((((empty typedSchema 0).run groupedCommands).query ⟨0⟩).toOption.bind fun live =>
      live.query.key?) = some ⟨0, by decide⟩ := by decide +kernel
  have hfound : (((empty typedSchema 0).run groupedCommands).lookup ⟨0⟩ (.bool true)).toOption =
      some [⟨1⟩] := by decide +kernel
  obtain ⟨live, hlive, hkey⟩ := Option.bind_eq_some_iff.mp hkey
  obtain ⟨ids, hids, -, hexact, -⟩ := lookup_exact typedSchema 0 groupedCommands ⟨0⟩ live _
    (toOption_eq_some_iff.mp hlive) hkey (.bool true)
  rw [hids, toOption_ok, Option.some.injEq] at hfound
  subst hfound
  exact ⟨live, toOption_eq_some_iff.mp hlive, hids, hexact⟩

end Store

end SceneEngine
