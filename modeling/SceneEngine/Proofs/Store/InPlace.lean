import SceneEngine.Proofs.Store.Sameness

/-!
# Writing in place and registering come to the same

A component of a registered entity can be given another value in two ways: by writing it in place,
or by registering the entity with the new value.  The first keeps the old value of the component, so
that whoever reacts to the change can compare; the second does not.  This module shows that this is
the only difference.

## When the two agree

The new value has to be a change: registering a value that changes nothing is no commit, while
writing in place always is one.  And what the entity holds has to count as the same as itself
(`Entity.SameAs`).  A number that is not one compares as different from itself inside a vector, and
then registering finds a change in a component that was not written.  With both, the two make the
same commit, and it is `Commit.ofSet`.

## How they are compared

`StoreState.register_set_eq` and `StoreState.updateInPlace_eq` give the states that the two lead to,
as the old state with another record.  The two records hold the same entity.  Their stamps are not
compared by computing both: each commit stamps what it changes and nothing else
(`Restamps.componentVersion?_eq`), so the stamps agree component by component, and records with the
same components and stamps have the same list of them (`EntityRecord.WellFormed.versions_eq`).

## Stores

What is remembered of an entity is not seen by queries and consumers
(`Store.commit_forgetPrevious`), so the stores agree in everything else.  `Store.SameButPrevious`
spells out what everything else is, and the main result is `Store.updateInPlace_agrees_register`.
It speaks of the operations and of the edits in place.
-/

namespace SceneEngine

/-- Forgets what components held before they were written in place. -/
def EntityRecord.forgetPrevious (record : EntityRecord) : EntityRecord :=
  { record with previous := [] }

/-- Records of entities with the same components have the same stamps if they have the same for each
component.  The stamps of a record are listed by ascending components, so the list is determined by
them. -/
lemma EntityRecord.WellFormed.versions_eq {schema : Schema} {version : Nat} {id : EntityId}
    {record record' : EntityRecord} (h : record.WellFormed schema version id)
    (h' : record'.WellFormed schema version id)
    (hcomponents : record.entity.components = record'.entity.components)
    (hversions : ∀ c, record.version? c = record'.version? c) :
    record.versions = record'.versions := by
  have hkeys : record.versions.map Prod.fst = record'.versions.map Prod.fst := by
    rw [h.map_fst_versions, h'.map_fst_versions, hcomponents]
  have hnodup : (record.versions.map Prod.fst).Nodup := by
    rw [h.map_fst_versions]
    exact Comparison.nodup_components_entity record.entity
  have hmaps : (⟨record.versions, hnodup⟩ : OrderedMap ComponentId Nat) =
      ⟨record'.versions, hkeys ▸ hnodup⟩ := OrderedMap.eq_of_keys_eq hkeys hversions
  exact congrArg OrderedMap.entries hmaps

namespace Entity

variable {e : Entity} {c : ComponentId} {old new : ComponentValue}

/-- A write that is a change changes the written component only, if what the others hold counts as
the same as itself. -/
lemma SameAs.unchanged_set (h : e.SameAs e) (hold : e.get? c = some old)
    (hnew : old.sameAs new = false) (d : ComponentId) :
    ComponentValue.unchanged (e.get? d) ((e.set c new).get? d) = !decide (d = c) := by
  rw [get?_set]
  by_cases hd : d = c
  · subst hd
    rw [if_pos rfl, hold]
    simpa [ComponentValue.unchanged] using hnew
  · rw [if_neg hd, h d, decide_eq_false hd, Bool.not_false]

end Entity

/-- The commit that gives a component of an entity another value.  It lists the component as
changed, whatever the value is. -/
def Commit.ofSet (id : EntityId) (entity : Entity) (c : ComponentId) (new : ComponentValue) :
    Commit where
  id
  before? := some entity
  after? := some (entity.set c new)
  changed := .ofList [c]

lemma Commit.isNoop_ofSet (id : EntityId) (entity : Entity) (c : ComponentId)
    (new : ComponentValue) : (ofSet id entity c new).isNoop = false :=
  isNoop_singleton ..

/-! ## States -/

namespace StoreState

section

variable {state : StoreState} {id : EntityId} {record : EntityRecord} {c : ComponentId}
  {old new : ComponentValue}

/-- Commits that change the same and leave the same components stamp them alike. -/
lemma Restamps.componentVersion?_eq {next next' : StoreState × Commit} (h : state.Restamps next)
    (h' : state.Restamps next') (hcommit : next.2 = next'.2)
    (hversion : next.1.version = next'.1.version)
    (hsome : ∀ id c, (next.1.componentVersion? id c).isSome =
      (next'.1.componentVersion? id c).isSome) (id : EntityId) (c : ComponentId) :
    next.1.componentVersion? id c = next'.1.componentVersion? id c := by
  -- a changed component gets the new version, if it is there afterwards; any other keeps its stamp
  by_cases hc : next.2.id = id ∧ next.2.changed.contains c = true
  · have hstamp := (h id c).1 hc
    have hstamp' := (h' id c).1 (hcommit ▸ hc)
    have hboth := hsome id c
    cases hv : next.1.componentVersion? id c <;> cases hv' : next'.1.componentVersion? id c <;>
      rw [hv, hv'] at hboth
    case some.some v v' => rw [hstamp v hv, hstamp' v' hv', hversion]
    all_goals cases hboth
  · rw [(h id c).2 hc, (h' id c).2 (hcommit ▸ hc)]

/-- Forgets what the components of an entity held before they were written in place. -/
def forgetPrevious (state : StoreState) (id : EntityId) : StoreState :=
  { state with entities := state.entities.modify id EntityRecord.forgetPrevious }

/-- The record of an entity of which a component has been written in place: the old value is
remembered, and the component stamped. -/
def updatedRecord (state : StoreState) (record : EntityRecord) (c : ComponentId)
    (old new : ComponentValue) : EntityRecord :=
  ({ record with entity := record.entity.set c new }.remember c old).stamp c (state.version + 1)

/-- The next state, in which an entity has another record. -/
def withRecord (state : StoreState) (id : EntityId) (record : EntityRecord) : StoreState :=
  { state with version := state.version + 1, entities := state.entities.insert id record }

lemma updateInPlace_eq (hrecord : state.entities.get? id = some record)
    (hold : record.entity.get? c = some old) (f : ComponentValue → ComponentValue) :
    state.updateInPlace id c f =
      .ok (state.withRecord id (state.updatedRecord record c old (f old)),
        .ofSet id record.entity c (f old)) := by
  rw [updateInPlace, hrecord]
  dsimp only
  rw [hold]
  rfl

/-- Registering a value that is a change in one component replaces the record and nothing else: no
component comes or goes, so the index stays as it is. -/
lemma register_set_eq (hs : state.WellFormed) (hexclusive : state.Exclusive)
    (hrecord : state.entities.get? id = some record) (hself : record.entity.SameAs record.entity)
    (hold : record.entity.get? c = some old) (hnew : old.sameAs new = false) :
    state.register (record.entity.set c new) =
      .ok (state.withRecord id (state.registeredRecord (record.entity.set c new)),
        .ofSet id record.entity c new) := by
  obtain rfl : record.entity.id = id := (hs.records id record hrecord).id_eq
  have hhas : ∀ d, (record.entity.set c new).has d = record.entity.has d := fun _ =>
    Entity.has_set (Entity.has_of_get? hold)
  have hget : state.get? (record.entity.set c new).id = some record.entity := by
    change state.get? record.entity.id = _
    rw [get?, hrecord]
    rfl
  have hregistered : state.registered (record.entity.set c new) =
      state.withRecord record.entity.id (state.registeredRecord (record.entity.set c new)) := by
    have hlost : lostComponents (some record.entity) (record.entity.set c new) = [] :=
      List.filter_eq_nil_iff.mpr fun d hd => by simpa [hhas] using Entity.mem_components.mp hd
    have hgained : gainedComponents (some record.entity) (record.entity.set c new) = [] :=
      List.filter_eq_nil_iff.mpr fun d hd => by simpa [← hhas] using Entity.mem_components.mp hd
    rw [registered, hget, hlost, hgained]
    rfl
  obtain ⟨next, hnext⟩ := exists_register_of_has_eq hs hexclusive hget hhas
  have hchanged : state.changedBy (record.entity.set c new) = .ofList [c] := by
    ext d
    rw [changedBy, ← (commit_of_register hnext).2.2, contains_changed_of_register hs hnext, hget,
      Option.bind_some, hself.unchanged_set hold hnew, Bool.not_not, Bool.eq_iff_iff,
      ComponentSet.contains_ofList, List.mem_singleton, decide_eq_true_iff]
  obtain ⟨-, -, ⟨hnoop, rfl⟩ | ⟨-, rfl⟩⟩ := register_inversion hnext
  · rw [hchanged, ComponentSet.isEmpty_singleton, Bool.and_false] at hnoop
    cases hnoop
  · rw [hnext, hget, hregistered, hchanged]
    rfl

/-- Writing in place and registering stamp the same components. -/
lemma versions_registeredRecord_set (hs : state.WellFormed) (hexclusive : state.Exclusive)
    (hrecord : state.entities.get? id = some record) (hself : record.entity.SameAs record.entity)
    (hold : record.entity.get? c = some old) (hnew : old.sameAs new = false) :
    (state.registeredRecord (record.entity.set c new)).versions =
      (state.updatedRecord record c old new).versions := by
  have hregister := register_set_eq hs hexclusive hrecord hself hold hnew
  have hupdate := updateInPlace_eq hrecord hold fun _ => new
  obtain ⟨record', hadvance'⟩ := updateInPlace_advances hs hupdate
  have hadvance := advances_of_register (c := c) hs hregister (by simp [Commit.ofSet])
  have hnext := hadvance.wellFormed_next hs
  have hnext' := hadvance'.wellFormed_next hs
  have hentity : ∀ record'' : EntityRecord,
      (state.withRecord id record'').entities.get? id = some record'' := fun record'' => by
    rw [withRecord, OrderedMap.get?_insert, if_pos rfl]
  have hvalues : ∀ id',
      (state.withRecord id (state.registeredRecord (record.entity.set c new))).get? id' =
        (state.withRecord id (state.updatedRecord record c old new)).get? id' := by
    intro id'
    rw [hadvance.get?_eq, hadvance'.get?_eq]
  have hstamps := fun d => (restamps_register hs hregister hadvance).componentVersion?_eq
    (restamps_updateInPlace hupdate) rfl rfl (fun id' d => by
      rw [isSome_componentVersion? hnext, isSome_componentVersion? hnext', hvalues]) id d
  refine (hnext.records id _ (hentity _)).versions_eq (hnext'.records id _ (hentity _)) rfl
    fun d => ?_
  have hd := hstamps d
  rwa [componentVersion?, componentVersion?, hentity, hentity] at hd

/-- The old value is remembered, and the values that other components held still are. -/
lemma previous?_updatedRecord (state : StoreState) (record : EntityRecord) (c d : ComponentId)
    (old new : ComponentValue) : (state.updatedRecord record c old new).previous? d =
      if d = c then some old else record.previous? d := by
  change ((record.previous.filter (·.1 != c) ++ [(c, old)]).find? (·.1 == d)).map Prod.snd = _
  rw [List.find?_append]
  split
  next hd =>
    subst hd
    have hnone : (record.previous.filter (·.1 != d)).find? (·.1 == d) = none :=
      List.find?_eq_none.mpr fun slot hslot => by simpa using (List.mem_filter.mp hslot).2
    rw [hnone, Option.none_or, List.find?_cons, beq_self_eq_true]
    rfl
  next hd =>
    have hkept : (record.previous.filter (·.1 != c)).find? (·.1 == d) =
        record.previous.find? (·.1 == d) := by
      rw [List.find?_filter]
      congr 1
      funext slot
      by_cases hslot : slot.1 = d
      · simp [hslot, hd]
      · simp [hslot]
    rw [hkept, List.find?_singleton, if_neg (by simpa using Ne.symm hd), Option.or_none]
    rfl

/-- Writing in place and registering make the same commit, and the states they lead to differ in
what is remembered of the entity. -/
lemma updateInPlace_agrees (hs : state.WellFormed) (hexclusive : state.Exclusive)
    (hrecord : state.entities.get? id = some record) (hself : record.entity.SameAs record.entity)
    (hold : record.entity.get? c = some old) (f : ComponentValue → ComponentValue)
    (hnew : old.sameAs (f old) = false) :
    ∃ updated, state.updateInPlace id c f =
        .ok (updated, .ofSet id record.entity c (f old)) ∧
      state.register (record.entity.set c (f old)) =
        .ok (updated.forgetPrevious id, .ofSet id record.entity c (f old)) ∧
      updated.previousComponent? id c = some old := by
  refine ⟨_, updateInPlace_eq hrecord hold f, ?_, ?_⟩
  have hforgets : state.registeredRecord (record.entity.set c (f old)) =
      (state.updatedRecord record c old (f old)).forgetPrevious := by
    rw [EntityRecord.forgetPrevious,
      ← versions_registeredRecord_set hs hexclusive hrecord hself hold hnew]
    rfl
  have hentities : (state.entities.insert id (state.updatedRecord record c old (f old))).modify id
      EntityRecord.forgetPrevious = state.entities.insert id
        (state.updatedRecord record c old (f old)).forgetPrevious := by
    rw [← OrderedMap.modify_eq_insert hrecord fun _ => state.updatedRecord record c old (f old),
      OrderedMap.modify_modify, OrderedMap.modify_eq_insert hrecord]
    rfl
  · rw [register_set_eq hs hexclusive hrecord hself hold hnew, forgetPrevious, withRecord,
      withRecord, hentities, hforgets]
  · rw [previousComponent?, withRecord, OrderedMap.get?_insert, if_pos rfl, Option.bind_some,
      previous?_updatedRecord, if_pos rfl]

end

/-! ## What does not depend on previous values -/

variable (state : StoreState) (id id' : EntityId) (c : ComponentId)

lemma getRecord?_forgetPrevious : (state.forgetPrevious id).entities.get? id' =
    if id' = id then (state.entities.get? id').map EntityRecord.forgetPrevious
    else state.entities.get? id' :=
  OrderedMap.get?_modify _

@[simp] lemma get?_forgetPrevious : (state.forgetPrevious id).get? id' = state.get? id' := by
  rw [get?, getRecord?_forgetPrevious, get?]
  split
  · rw [Option.map_map]
    rfl
  · rfl

@[simp] lemma componentVersion?_forgetPrevious :
    (state.forgetPrevious id).componentVersion? id' c = state.componentVersion? id' c := by
  rw [componentVersion?, getRecord?_forgetPrevious, componentVersion?]
  split
  · rw [Option.bind_map]
    rfl
  · rfl

lemma previousComponent?_forgetPrevious : (state.forgetPrevious id).previousComponent? id' c =
    if id' = id then none else state.previousComponent? id' c := by
  rw [previousComponent?, getRecord?_forgetPrevious, previousComponent?]
  split
  · cases state.entities.get? id' <;> rfl
  · rfl

end StoreState

/-- What a consumer hands out depends on the registered values only. -/
lemma Consumer.drain_congr {state state' : StoreState} (h : ∀ id, state.get? id = state'.get? id)
    (consumer : Consumer) : consumer.drain state = consumer.drain state' := by
  have hdeliver : deliver state = deliver state' := by
    funext delta id p
    rw [deliver, deliver, h]
  rw [drain, drain, hdeliver]

/-! ## Stores -/

namespace Store

variable {store : Store} {entity : Entity} {c : ComponentId} {old : ComponentValue}

/-- Forgets what the components of an entity held before they were written in place. -/
def forgetPrevious (store : Store) (id : EntityId) : Store :=
  { store with current := store.current.forgetPrevious id }

/-- The queries and consumers do not see what is remembered of an entity. -/
lemma commit_forgetPrevious (store : Store) (id : EntityId) (next : StoreState) {commit : Commit}
    (h : commit.isNoop = false) : store.commit (next.forgetPrevious id, commit) =
      (store.commit (next, commit)).forgetPrevious id := by
  rw [commit_eq h, commit_eq h]
  rfl

/-- Two stores that differ in what is remembered of an entity and in nothing else.  The first field
says all of it; the others say what it means for whoever uses the store. -/
structure SameButPrevious (id : EntityId) (updated registered : Store) : Prop where
  /-- One store is the other without what is remembered of the entity. -/
  eq_forgetPrevious : registered = updated.forgetPrevious id
  /-- They have the same schema, -/
  schema_eq : registered.schema = updated.schema
  /-- the same version, -/
  version_eq : registered.current.version = updated.current.version
  /-- the same registered values -/
  values_eq : ∀ id', registered.get? id' = updated.get? id'
  /-- with the same stamps, -/
  stamps_eq : ∀ id' c,
    registered.current.componentVersion? id' c = updated.current.componentVersion? id' c
  /-- and the same index. -/
  index_eq : ∀ c, registered.current.holders c = updated.current.holders c
  /-- The live queries have the same members, under the same keys. -/
  queries_eq : ∀ query, registered.query query = updated.query query
  members_eq : ∀ live, registered.members live = updated.members live
  lookups_eq : ∀ query key, registered.lookup query key = updated.lookup query key
  /-- The consumers have the same to hand out. -/
  consumers_eq : ∀ consumer, registered.consumer consumer = updated.consumer consumer
  deltas_eq : ∀ consumer,
    (registered.drain consumer).map Prod.fst = (updated.drain consumer).map Prod.fst
  history_eq : registered.history = updated.history
  /-- Of the other entities the same is remembered, and nothing of this one. -/
  others_previous : ∀ id', id' ≠ id → ∀ c,
    registered.current.previousComponent? id' c = updated.current.previousComponent? id' c
  previous_eq_none : ∀ c, registered.current.previousComponent? id c = none

lemma sameButPrevious_forgetPrevious (store : Store) (id : EntityId) :
    SameButPrevious id store (store.forgetPrevious id) where
  eq_forgetPrevious := rfl
  schema_eq := rfl
  version_eq := rfl
  values_eq := store.current.get?_forgetPrevious id
  stamps_eq := store.current.componentVersion?_forgetPrevious id
  index_eq := fun _ => rfl
  queries_eq := fun _ => rfl
  members_eq := fun live => by
    have hget : (store.forgetPrevious id).get? = store.get? :=
      funext (store.current.get?_forgetPrevious id)
    rw [members, hget, members]
  lookups_eq := fun _ _ => rfl
  consumers_eq := fun _ => rfl
  deltas_eq := fun consumer => by
    have hconsumer : (store.forgetPrevious id).consumer consumer = store.consumer consumer := rfl
    rw [drain, drain, hconsumer]
    cases store.consumer consumer with
    | error reason => rfl
    | ok entry =>
      have hdelta : entry.2.drain (store.forgetPrevious id).current = entry.2.drain store.current :=
        Consumer.drain_congr (store.current.get?_forgetPrevious id) entry.2
      change Except.ok (entry.2.drain (store.forgetPrevious id).current).1 =
        Except.ok (entry.2.drain store.current).1
      rw [hdelta]
  history_eq := rfl
  others_previous := fun id' hne c => by
    rw [forgetPrevious, StoreState.previousComponent?_forgetPrevious, if_neg hne]
  previous_eq_none := fun c => by
    rw [forgetPrevious, StoreState.previousComponent?_forgetPrevious, if_pos rfl]

/-- **Writing in place and registering agree.**  In a store that commands have led to, a component
of a registered entity, all of whose values count as the same as themselves, can be written in place
with a value that is a change, and the entity can be registered with that value.  Both ways, also
carried out in place, lead to the same store up to what is remembered of the entity: after writing
in place the old value, and after registering nothing. -/
theorem updateInPlace_agrees_register (schema : Schema) (historyDepth : Nat)
    (commands : List StoreCommand) (id : EntityId) (name : String)
    (f : ComponentValue → ComponentValue) (hname : schema.id? name = some c)
    (hentity : ((empty schema historyDepth).run commands).get? id = some entity)
    (hself : entity.SameAs entity) (hold : entity.get? c = some old)
    (hnew : (f old).sameAs old = false) :
    ∃ updated registered commit,
      ((empty schema historyDepth).run commands).updateInPlace id name f = .ok updated ∧
      (StoreEdit.updateInPlace id name f).run ((empty schema historyDepth).run commands) =
        .ok () updated ∧
      ((empty schema historyDepth).run commands).register (entity.set c (f old)) =
        .ok (registered, commit) ∧
      (StoreEdit.register (entity.set c (f old))).run ((empty schema historyDepth).run commands) =
        .ok commit registered ∧
      SameButPrevious id updated registered ∧
      updated.current.previousComponent? id c = some old := by
  have hsound := sound_run schema historyDepth commands
  have hexclusive := exclusive_run schema historyDepth commands
  generalize (empty schema historyDepth).run commands = store at *
  obtain ⟨rfl, hs⟩ := hsound.current
  obtain ⟨record, hrecord, rfl⟩ := Option.map_eq_some_iff.mp hentity
  obtain ⟨next, hupdate, hregister, hprevious⟩ :=
    StoreState.updateInPlace_agrees hs hexclusive hrecord hself hold f
      (ComponentValue.sameAs_comm old (f old) ▸ hnew)
  have hupdated : store.updateInPlace id name f =
      .ok (store.commit (next, .ofSet id record.entity c (f old))) := by
    rw [updateInPlace, componentId_eq_ok_iff.mpr hname, ok_bind, hupdate]
    rfl
  have hregistered : store.register (record.entity.set c (f old)) =
      .ok ((store.commit (next, .ofSet id record.entity c (f old))).forgetPrevious id,
        .ofSet id record.entity c (f old)) := by
    rw [← commit_forgetPrevious _ _ _ (Commit.isNoop_ofSet ..), register, hregister]
    rfl
  refine ⟨_, _, _, hupdated, ?_, hregistered, ?_, sameButPrevious_forgetPrevious _ id, ?_⟩
  · rw [StoreEdit.updateInPlace_eq hsound, hupdated]
    rfl
  · rw [StoreEdit.register_eq hsound, hregistered]
    rfl
  · rw [commit_eq (Commit.isNoop_ofSet ..)]
    exact hprevious

/-- The component of the entity of `typedCommands` is written. -/
theorem updateInPlace_agrees_register_typed :
    ∃ updated registered commit,
      ((empty typedSchema 0).run typedCommands).updateInPlace ⟨1⟩ "type" (fun _ => .bool true) =
        .ok updated ∧
      ((empty typedSchema 0).run typedCommands).register
          ((typedEntity ⟨1⟩).set ⟨0, by decide⟩ (.bool true)) = .ok (registered, commit) ∧
      SameButPrevious ⟨1⟩ updated registered := by
  have hself : (typedEntity ⟨1⟩).SameAs (typedEntity ⟨1⟩) := by
    intro c
    rw [typedEntity, Entity.get?_set]
    split
    · rfl
    · rfl
  obtain ⟨updated, registered, commit, hupdated, -, hregistered, -, hsame, -⟩ :=
    updateInPlace_agrees_register typedSchema 0 typedCommands ⟨1⟩ "type" (fun _ => .bool true)
      (c := ⟨0, by decide⟩) rfl rfl hself rfl rfl
  exact ⟨updated, registered, commit, hupdated, hregistered, hsame⟩

end Store

end SceneEngine
