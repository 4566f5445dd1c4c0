import SceneEngine.Proofs.Ordered.Collections
import SceneEngine.Proofs.Store.Components

/-!
# The representation of store states

A state holds the same facts several times over: the index repeats which components the registered
values have, and a record repeats them beside its stamps.  The copies make lookups fast, and
operations rely on them without checking.  `StoreState.WellFormed` says that they agree, and this
module shows that commits keep it so.

## Well-formed states

`EntityRecord.WellFormed` is about one record: it is filed under its own id, its slots are ascending
and of declared components, the stamps stand beside the slots and are no higher than the version,
and only components that are present have a previous value.  `StoreState.WellFormed` adds the index:
it has a set for each component of the schema, and the set lists the registered entities that have
the component, each once.

## Effective commits

`StoreState.Advances` says what an effective commit does to a state: it puts a record, or none, in
the place of what was held about one entity, and leaves everything else as it was.  It is all that
most proofs about commits need.  From it follows that the next state is well-formed
(`Advances.wellFormed_next`), with one case for the entity and one for the others.

That the commits are of this form is shown one by one.  Registering is refused, changes nothing or
advances the state (`StoreState.register_cases`); removing, writing in place and marking advance it
(`StoreState.deregister?_advances`, `StoreState.updateInPlace_advances`,
`StoreState.flagUpdate_advances`).  `StoreState.register_inversion` is what accepting a value says,
and is used wherever a registration is taken apart.

The invariant along runs is in `Proofs/Store/Run`.
-/

namespace SceneEngine

/-! ## Well-formed states -/

/-- What holds of the record of an entity in a state of a given version. -/
structure EntityRecord.WellFormed (schema : Schema) (version : Nat) (id : EntityId)
    (record : EntityRecord) : Prop where
  /-- The value is that of the entity. -/
  id_eq : record.entity.id = id
  /-- Each component has one slot at most, and they stand in order. -/
  ascending : record.entity.slots.Pairwise (·.1 < ·.1)
  /-- All components are declared. -/
  declared : ∀ c ∈ record.entity.components, c.val < schema.size
  /-- The stamps stand beside the slots. -/
  map_fst_versions : record.versions.map Prod.fst = record.entity.components
  /-- No stamp is higher than the version, and none is that of the empty state. -/
  stamped : ∀ stamp ∈ record.versions, 1 ≤ stamp.2 ∧ stamp.2 ≤ version
  /-- Only components that are present have a previous value, and each has one at most. -/
  previous_present : ∀ slot ∈ record.previous, record.entity.has slot.1 = true
  /-- No component has two previous values. -/
  previous_nodup : (record.previous.map Prod.fst).Nodup

/-- What holds of a state that commits have led to. -/
structure StoreState.WellFormed (state : StoreState) : Prop where
  /-- There is a set for each component of the schema, -/
  index_length : state.index.length = state.schema.size
  /-- which lists no entity twice. -/
  holders_nodup : ∀ c, (state.holders c).toList.Nodup
  /-- The index lists the registered entities that have a component. -/
  mem_holders : ∀ c id,
    id ∈ state.holders c ↔ ∃ entity, state.get? id = some entity ∧ entity.has c = true
  /-- All records are well-formed. -/
  records : ∀ id record, state.entities.get? id = some record →
    record.WellFormed state.schema state.version id

/-- A registered entity is in the sets of the components it has. -/
lemma StoreState.WellFormed.mem_holders_iff {state : StoreState} (hs : state.WellFormed)
    {id : EntityId} {entity : Entity} (h : state.get? id = some entity) (c : ComponentId) :
    id ∈ state.holders c ↔ entity.has c = true := by
  simp [hs.mem_holders, h]

/-- A registered value carries its identifier. -/
lemma StoreState.WellFormed.id_eq {state : StoreState} (hs : state.WellFormed) {id : EntityId}
    {entity : Entity} (h : state.get? id = some entity) : entity.id = id := by
  obtain ⟨record, hrecord, rfl⟩ := Option.map_eq_some_iff.mp h
  exact (hs.records id record hrecord).id_eq

/-- A record stays well-formed while the version of the state grows. -/
lemma EntityRecord.WellFormed.mono {schema : Schema} {version version' : Nat} {id : EntityId}
    {record : EntityRecord} (h : record.WellFormed schema version id) (hle : version ≤ version') :
    record.WellFormed schema version' id where
  id_eq := h.id_eq
  ascending := h.ascending
  declared := h.declared
  map_fst_versions := h.map_fst_versions
  stamped := fun stamp hmem => ⟨(h.stamped stamp hmem).1, Nat.le_trans (h.stamped stamp hmem).2 hle⟩
  previous_present := h.previous_present
  previous_nodup := h.previous_nodup

/-! ## The index -/

/-- The entities that an index lists for a component, after the set of one has been changed. -/
lemma mem_getD_modify {index : List (OrderedSet EntityId)} {i j : Nat}
    {f : OrderedSet EntityId → OrderedSet EntityId} {id : EntityId} :
    id ∈ (index.modify i f).getD j ∅ ↔
      if i = j ∧ j < index.length then id ∈ f (index.getD j ∅) else id ∈ index.getD j ∅ := by
  simp only [List.getD_eq_getElem?_getD, List.getElem?_modify]
  by_cases hj : j < index.length
  · by_cases hij : i = j
    · simp [hij, hj]
    · simp [hij, hj]
  · simp [hj]

namespace StoreState

lemma length_foldl_modify (f : OrderedSet EntityId → OrderedSet EntityId)
    (components : List ComponentId) (index : List (OrderedSet EntityId)) :
    (components.foldl (fun index c => index.modify c.val f) index).length = index.length := by
  induction components generalizing index with
  | nil => rfl
  | cons c components ih => rw [List.foldl_cons, ih, List.length_modify]

lemma mem_foldl_erase {c : ComponentId} {id id' : EntityId} (components : List ComponentId)
    (index : List (OrderedSet EntityId)) :
    id' ∈ (components.foldl (fun index c => index.modify c.val (·.erase id)) index).getD c.val ∅ ↔
      id' ∈ index.getD c.val ∅ ∧ ¬(id' = id ∧ c ∈ components) := by
  induction components generalizing index with
  | nil => simp
  | cons d components ih =>
    rw [List.foldl_cons, ih, mem_getD_modify, List.mem_cons]
    by_cases hd : d = c
    · subst hd
      by_cases hlen : d.val < index.length
      · rw [if_pos ⟨rfl, hlen⟩, OrderedSet.mem_erase]
        tauto
      · -- beyond the index there is nothing to erase
        have hnil : index.getD d.val ∅ = ∅ := by simp [List.getD_eq_getElem?_getD, hlen]
        rw [if_neg (fun h => hlen h.2), hnil]
        simp
    · have hval : d.val ≠ c.val := fun h => hd (Fin.ext h)
      rw [if_neg (fun h => hval h.1)]
      simp [Ne.symm hd]

lemma mem_foldl_insert {c : ComponentId} {id id' : EntityId} (components : List ComponentId)
    {index : List (OrderedSet EntityId)} (hc : c.val < index.length) :
    id' ∈ (components.foldl (fun index c => index.modify c.val (·.insert id)) index).getD c.val ∅ ↔
      id' ∈ index.getD c.val ∅ ∨ (id' = id ∧ c ∈ components) := by
  induction components generalizing index with
  | nil => simp
  | cons d components ih =>
    have hlen : c.val < (index.modify d.val (·.insert id)).length := by
      rwa [List.length_modify]
    rw [List.foldl_cons, ih hlen, mem_getD_modify, List.mem_cons]
    by_cases hd : d = c
    · subst hd
      rw [if_pos ⟨rfl, hc⟩, OrderedSet.mem_insert]
      tauto
    · have hval : d.val ≠ c.val := fun h => hd (Fin.ext h)
      rw [if_neg (fun h => hval h.1)]
      simp [Ne.symm hd]

lemma length_reindex (index : List (OrderedSet EntityId)) (id : EntityId)
    (lost gained : List ComponentId) : (reindex index id lost gained).length = index.length := by
  rw [reindex, length_foldl_modify, length_foldl_modify]

/-- Reindexing moves one entity, out of the sets of what it lost and into those of what it gained.
-/
lemma mem_reindex {index : List (OrderedSet EntityId)} {id id' : EntityId}
    {lost gained : List ComponentId} {c : ComponentId}
    (hgained : c ∈ gained → c.val < index.length) :
    id' ∈ (reindex index id lost gained).getD c.val ∅ ↔
      (id' ∈ index.getD c.val ∅ ∧ ¬(id' = id ∧ c ∈ lost)) ∨ (id' = id ∧ c ∈ gained) := by
  by_cases hc : c.val < index.length
  · rw [reindex, mem_foldl_insert gained (by rwa [length_foldl_modify]), mem_foldl_erase]
  · have hnil : index.getD c.val ∅ = ∅ := by simp [List.getD_eq_getElem?_getD, hc]
    have hnil' : (reindex index id lost gained).getD c.val ∅ = ∅ := by
      simp [List.getD_eq_getElem?_getD, length_reindex, hc]
    rw [hnil, hnil']
    simp only [OrderedSet.notMem_empty, false_and, false_or, false_iff, not_and]
    exact fun _ h => hc (hgained h)

/-! ## Effective commits -/

/-- What an effective commit does to a state: it puts `record?` in the place of what was held about
one entity, and leaves everything else as it was. -/
structure Advances (state : StoreState) (next : StoreState × Commit)
    (record? : Option EntityRecord) : Prop where
  /-- The schema stays. -/
  schema_eq : next.1.schema = state.schema
  /-- The version rises by one. -/
  version_eq : next.1.version = state.version + 1
  /-- The record of one entity is replaced, or goes. -/
  record_eq : ∀ id,
    next.1.entities.get? id = if id = next.2.id then record? else state.entities.get? id
  /-- The index stays as long as it is, -/
  length_eq : next.1.index.length = state.index.length
  /-- and lists the entity for what it has now, and all others as before. -/
  holders_iff : ∀ c id, id ∈ next.1.holders c ↔
    if id = next.2.id then ∃ record, record? = some record ∧ record.entity.has c = true
    else id ∈ state.holders c
  /-- The commit says what the entity was -/
  before_eq : next.2.before? = state.get? next.2.id
  /-- and what it is now. -/
  after_eq : next.2.after? = record?.map EntityRecord.entity
  /-- It does not count as no change. -/
  effective : next.2.isNoop = false
  /-- What is put in place is well-formed for the next version. -/
  wellFormed : ∀ record, record? = some record →
    record.WellFormed state.schema (state.version + 1) next.2.id

variable {state : StoreState} {next : StoreState × Commit} {record? : Option EntityRecord}

/-- The registered values after an effective commit. -/
lemma Advances.get?_eq (h : state.Advances next record?) (id : EntityId) :
    next.1.get? id = if id = next.2.id then next.2.after? else state.get? id := by
  rw [get?, h.record_eq, h.after_eq]
  by_cases hid : id = next.2.id
  · simp [hid]
  · simp [hid, get?]

/-- Effective commits keep states well-formed. -/
lemma Advances.wellFormed_next (h : state.Advances next record?) (hs : state.WellFormed) :
    next.1.WellFormed where
  index_length := by rw [h.length_eq, h.schema_eq, hs.index_length]
  holders_nodup := fun c => (next.1.holders c).nodup
  mem_holders := by
    intro c id
    rw [h.holders_iff, h.get?_eq, h.after_eq]
    -- the entity of the commit, or another one, of which everything is as before
    by_cases hid : id = next.2.id
    · simp [hid]
    · simp [hid, hs.mem_holders]
  records := by
    intro id record hrecord
    rw [h.record_eq] at hrecord
    rw [h.schema_eq, h.version_eq]
    by_cases hid : id = next.2.id
    · rw [if_pos hid] at hrecord
      exact hid ▸ h.wellFormed record hrecord
    · rw [if_neg hid] at hrecord
      exact (hs.records id record hrecord).mono (Nat.le_succ _)

/-! ## Registering -/

lemma mem_lostComponents {old? : Option Entity} {new : Entity} {c : ComponentId} :
    c ∈ lostComponents old? new ↔
      (∃ old, old? = some old ∧ old.has c = true) ∧ new.has c = false := by
  cases old? with
  | none => simp [lostComponents]
  | some old => simp [lostComponents, Entity.mem_components]

lemma mem_gainedComponents {old? : Option Entity} {new : Entity} {c : ComponentId} :
    c ∈ gainedComponents old? new ↔
      new.has c = true ∧ ¬∃ old, old? = some old ∧ old.has c = true := by
  cases old? with
  | none => simp [gainedComponents, Entity.mem_components]
  | some old => simp [gainedComponents, Entity.mem_components]

/-- A kept version is one of the record's stamps. -/
lemma exists_stamp_of_keptVersion? {record : EntityRecord} {slot : Slot} {version : Nat}
    (h : record.keptVersion? slot = some version) :
    ∃ stamp ∈ record.versions, stamp.2 = version := by
  rw [EntityRecord.keptVersion?] at h
  split at h
  · split at h
    · obtain ⟨stamp, hfind, hstamp⟩ := Option.map_eq_some_iff.mp h
      exact ⟨stamp, List.mem_of_find?_eq_some hfind, hstamp⟩
    · cases h
  · cases h

/-- A registered value is in the sets of its components and in no other. -/
lemma mem_reindex_register (hs : state.WellFormed) {entity : Entity}
    (hdeclared : ∀ c ∈ entity.components, c.val < state.schema.size) (c : ComponentId)
    (id : EntityId) :
    id ∈ (reindex state.index entity.id (lostComponents (state.get? entity.id) entity)
        (gainedComponents (state.get? entity.id) entity)).getD c.val ∅ ↔
      if id = entity.id then entity.has c = true else id ∈ state.holders c := by
  have hgained : c ∈ gainedComponents (state.get? entity.id) entity →
      c.val < state.index.length := by
    intro hc
    rw [hs.index_length]
    exact hdeclared c (Entity.mem_components.mpr (mem_gainedComponents.mp hc).1)
  rw [mem_reindex hgained]
  change (id ∈ state.holders c ∧ _) ∨ _ ↔ _
  by_cases hid : id = entity.id
  · subst hid
    rw [hs.mem_holders, mem_lostComponents, mem_gainedComponents, if_pos rfl,
      ← Bool.not_eq_true]
    generalize (∃ old, state.get? entity.id = some old ∧ old.has c = true) = before
    tauto
  · simp [hid]

/-- The record that registering a value leaves.  Nothing is remembered of earlier values. -/
def registeredRecord (state : StoreState) (entity : Entity) : EntityRecord where
  entity
  versions := entity.slots.map fun slot =>
    (slot.1, ((state.entities.get? entity.id).bind (·.keptVersion? slot)).getD (state.version + 1))
  previous := []

lemma wellFormed_registeredRecord (hs : state.WellFormed) {entity : Entity}
    (hdeclared : ∀ c ∈ entity.components, c.val < state.schema.size) :
    (state.registeredRecord entity).WellFormed state.schema (state.version + 1) entity.id where
  id_eq := rfl
  ascending := entity.ascending
  declared := hdeclared
  map_fst_versions := by simp [registeredRecord, Entity.components, Function.comp_def]
  stamped := by
    intro stamp hstamp
    obtain ⟨slot, -, rfl⟩ := List.mem_map.mp hstamp
    cases hkept : (state.entities.get? entity.id).bind (·.keptVersion? slot) with
    | none => simp
    | some version =>
      obtain ⟨record, hrecord, hkept⟩ := Option.bind_eq_some_iff.mp hkept
      obtain ⟨stamp, hmem, rfl⟩ := exists_stamp_of_keptVersion? hkept
      have hbounds := (hs.records entity.id record hrecord).stamped stamp hmem
      exact ⟨hbounds.1, Nat.le_succ_of_le hbounds.2⟩
  previous_present := by simp [registeredRecord]
  previous_nodup := by simp [registeredRecord]

/-- The components that registering a value changes. -/
def changedBy (state : StoreState) (entity : Entity) : ComponentSet :=
  .ofList (lostComponents (state.get? entity.id) entity ++
    writtenComponents (state.entities.get? entity.id) entity)

/-- The state in which a value has been registered. -/
def registered (state : StoreState) (entity : Entity) : StoreState where
  schema := state.schema
  version := state.version + 1
  entities := state.entities.insert entity.id (state.registeredRecord entity)
  index := reindex state.index entity.id (lostComponents (state.get? entity.id) entity)
    (gainedComponents (state.get? entity.id) entity)

/-- What has been accepted passes both checks.  Either it is no change, or the next state has it. -/
lemma register_inversion {entity : Entity} (h : state.register entity = .ok next) :
    state.foreignComponent? entity = none ∧ state.singletonConflict? entity = none ∧
      (((state.get? entity.id).isSome && (state.changedBy entity).isEmpty) = true ∧
          next = (state, ⟨entity.id, state.get? entity.id, state.get? entity.id,
            state.changedBy entity⟩) ∨
        ((state.get? entity.id).isSome && (state.changedBy entity).isEmpty) = false ∧
          next = (state.registered entity, ⟨entity.id, state.get? entity.id, some entity,
            state.changedBy entity⟩)) := by
  rw [register] at h
  split at h
  · cases h
  next hforeign =>
    split at h
    · cases h
    next hconflict =>
      refine ⟨hforeign, hconflict, ?_⟩
      dsimp only at h
      split at h
      next hnoop =>
        cases h
        exact .inl ⟨hnoop, rfl⟩
      next hnoop =>
        cases h
        exact .inr ⟨Bool.not_eq_true _ ▸ hnoop, rfl⟩

/-- What passes both checks is accepted. -/
lemma exists_register_of_unopposed {entity : Entity}
    (hforeign : state.foreignComponent? entity = none)
    (hconflict : state.singletonConflict? entity = none) :
    ∃ next, state.register entity = .ok next := by
  rw [register, hforeign, hconflict]
  dsimp only
  split
  · exact ⟨_, rfl⟩
  · exact ⟨_, rfl⟩

/-- The components of an accepted value are declared. -/
lemma declared_of_register {entity : Entity} (h : state.register entity = .ok next) :
    ∀ c ∈ entity.components, c.val < state.schema.size := by
  intro c hc
  simpa using List.find?_eq_none.mp (register_inversion h).1 c hc

/-- Registering is refused, changes nothing, or replaces the record of the entity. -/
lemma register_cases (hs : state.WellFormed) {entity : Entity}
    (h : state.register entity = .ok next) :
    (next.1 = state ∧ next.2.isNoop = true) ∨
      state.Advances next (some (state.registeredRecord entity)) := by
  have hdeclared := declared_of_register h
  obtain ⟨-, -, ⟨hnoop, rfl⟩ | ⟨hnoop, rfl⟩⟩ := register_inversion h
  · exact Or.inl ⟨rfl, by simpa [Commit.isNoop] using (Bool.and_eq_true_iff.mp hnoop).2⟩
  · exact Or.inr {
      schema_eq := rfl
      version_eq := rfl
      record_eq := fun id => OrderedMap.get?_insert
      length_eq := length_reindex _ _ _ _
      holders_iff := by
        intro c id
        simp only [Option.some.injEq, exists_eq_left']
        exact mem_reindex_register hs hdeclared c id
      before_eq := rfl
      after_eq := rfl
      effective := by rwa [Commit.isNoop, Option.isSome_some, beq_true, Bool.and_comm]
      wellFormed := by
        rintro record ⟨⟩
        exact wellFormed_registeredRecord hs hdeclared }

/-! ## Other commits -/

/-- Removing an entity leaves nothing of it. -/
lemma deregister?_advances (hs : state.WellFormed) {id : EntityId}
    (h : state.deregister? id = some next) : state.Advances next none := by
  obtain ⟨record, hrecord, rfl⟩ := Option.map_eq_some_iff.mp h
  have hget : state.get? id = some record.entity := by rw [get?, hrecord]; rfl
  exact {
    schema_eq := rfl
    version_eq := rfl
    record_eq := fun id' => OrderedMap.get?_erase
    length_eq := length_reindex _ _ _ _
    holders_iff := by
      intro c id'
      change id' ∈ (reindex state.index id record.entity.components []).getD c.val ∅ ↔ _
      rw [mem_reindex (by simp), Entity.mem_components]
      change (id' ∈ state.holders c ∧ _) ∨ _ ↔ _
      by_cases hid : id' = id
      · simp [hid, hs.mem_holders_iff hget]
      · simp [hid]
    before_eq := hget.symm
    after_eq := rfl
    effective := by simp [Commit.isNoop]
    wellFormed := by simp }

/-- An entity that keeps its components keeps its place in the index. -/
lemma mem_holders_of_has_eq (hs : state.WellFormed) {record record' : EntityRecord} {id : EntityId}
    (hrecord : state.entities.get? id = some record)
    (hhas : ∀ c, record'.entity.has c = record.entity.has c) (c : ComponentId) (id' : EntityId) :
    id' ∈ state.holders c ↔
      if id' = id then ∃ r, some record' = some r ∧ r.entity.has c = true
      else id' ∈ state.holders c := by
  by_cases hid : id' = id
  · simp [hid, hs.mem_holders, get?, hrecord, hhas]
  · simp [hid]

/-- Stamping changes no more than the version of a component that has one. -/
lemma wellFormed_stamp {record : EntityRecord} {schema : Schema} {version : Nat} {id : EntityId}
    (h : record.WellFormed schema version id) (c : ComponentId) :
    (record.stamp c (version + 1)).WellFormed schema (version + 1) id where
  id_eq := h.id_eq
  ascending := h.ascending
  declared := h.declared
  map_fst_versions := by
    refine Eq.trans ?_ h.map_fst_versions
    simp [EntityRecord.stamp, Function.comp_def]
  stamped := by
    intro stamp hstamp
    obtain ⟨⟨d, old⟩, hmem, rfl⟩ := List.mem_map.mp hstamp
    have hbounds := h.stamped (d, old) hmem
    by_cases hd : d = c
    · simp [hd]
    · simp only [hd, if_false]
      omega
  previous_present := h.previous_present
  previous_nodup := h.previous_nodup

/-- Remembering the old value of a component and writing a new one. -/
lemma wellFormed_remember {record : EntityRecord} {schema : Schema} {version : Nat} {id : EntityId}
    (h : record.WellFormed schema version id) {c : ComponentId} (hc : record.entity.has c = true)
    (old new : ComponentValue) :
    ({ record with entity := record.entity.set c new }.remember c old).WellFormed schema version
      id where
  id_eq := h.id_eq
  ascending := (record.entity.set c new).ascending
  declared := by
    change ∀ d ∈ (record.entity.set c new).components, _
    rw [Entity.components_set hc]
    exact h.declared
  map_fst_versions := h.map_fst_versions.trans (Entity.components_set hc).symm
  stamped := h.stamped
  previous_present := by
    intro slot hslot
    change (record.entity.set c new).has slot.1 = true
    rw [Entity.has_set hc]
    rcases List.mem_append.mp hslot with hslot | hslot
    · exact h.previous_present slot (List.mem_filter.mp hslot).1
    · rw [List.mem_singleton.mp hslot]
      exact hc
  previous_nodup := by
    change ((record.previous.filter (·.1 != c) ++ [(c, old)]).map Prod.fst).Nodup
    rw [List.map_append]
    refine List.nodup_append.mpr ⟨?_, by simp, ?_⟩
    · exact h.previous_nodup.sublist (List.filter_sublist.map Prod.fst)
    · intro d hd e he hde
      obtain ⟨slot, hslot, rfl⟩ := List.mem_map.mp hd
      have hec : e = c := by simpa using he
      simpa [hde, hec] using (List.mem_filter.mp hslot).2

/-- Writing in place replaces the value of one component that is present. -/
lemma updateInPlace_advances (hs : state.WellFormed) {id : EntityId} {c : ComponentId}
    {f : ComponentValue → ComponentValue} (h : state.updateInPlace id c f = .ok next) :
    ∃ record, state.Advances next (some record) := by
  rw [updateInPlace] at h
  split at h
  · cases h
  next record hrecord =>
    split at h
    · cases h
    next old hold =>
      have hc : record.entity.has c = true := Entity.has_of_get? hold
      have hwell := hs.records id record hrecord
      cases h
      exact ⟨_, {
        schema_eq := rfl
        version_eq := rfl
        record_eq := fun id' => OrderedMap.get?_insert
        length_eq := rfl
        holders_iff := mem_holders_of_has_eq hs hrecord fun d => Entity.has_set hc
        before_eq := by rw [get?, hrecord]; rfl
        after_eq := rfl
        effective := Commit.isNoop_singleton ..
        wellFormed := by
          rintro record' ⟨⟩
          exact wellFormed_stamp (wellFormed_remember hwell hc old (f old)) c }⟩

/-- Flagging leaves the value of the entity as it is. -/
lemma flagUpdate_advances (hs : state.WellFormed) {id : EntityId} {c : ComponentId}
    (h : state.flagUpdate id c = .ok next) : ∃ record, state.Advances next (some record) := by
  rw [flagUpdate] at h
  split at h
  · cases h
  next record hrecord =>
    split at h
    · cases h
    have hwell := hs.records id record hrecord
    cases h
    exact ⟨_, {
      schema_eq := rfl
      version_eq := rfl
      record_eq := fun id' => OrderedMap.get?_insert
      length_eq := rfl
      holders_iff := mem_holders_of_has_eq hs hrecord fun d => rfl
      before_eq := by rw [get?, hrecord]; rfl
      after_eq := rfl
      effective := Commit.isNoop_singleton ..
      wellFormed := by
        rintro record' ⟨⟩
        exact wellFormed_stamp hwell c }⟩

end StoreState

end SceneEngine
