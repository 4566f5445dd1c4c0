import SceneEngine.Proofs.Store.Consumers

/-!
# Registering values

This module says what can be registered, and what registering does to components.  It is used where
a property of entities or components is followed through a run: the modules on single holders, on
what is remembered, and on materials all start from here.

## What counts as the same

`ComponentValue.unchanged` compares what a component held with what it holds, where either may be
nothing.  A commit lists exactly the components as changed for which it says no
(`StoreState.contains_changed_of_register`).  A component that keeps its stamp is one whose value
counts as the same (`StoreState.isSome_keptVersion?`).

## What can be registered

Two checks stand before a registration: every component has to be declared, and of a component that
only one entity may have there must be no other holder.  `StoreState.Exclusive` is the invariant
that there is at most one.  So nothing stands in the way of a value that adds no such component to
what its entity has (`StoreState.exists_register`).

## Commits of edits

`Store.Edits` lists the commits that a command can ask for, with what they say about the entity
before and after: it is the case analysis for properties of registered values
(`Store.edits_of_proposal`).  A command commits such a proposal or leaves the registered values
alone (`Store.perform_cases`), and properties of all registered values are carried over a command by
`Store.values_perform`.
-/

namespace SceneEngine

/-- Whether a component that held `old?` and holds `new?` counts as the same.  Coming and going is a
change, whatever the value is. -/
def ComponentValue.unchanged (old? new? : Option ComponentValue) : Bool :=
  match old?, new? with
  | none, none => true
  | some old, some new => old.sameAs new
  | _, _ => false

/-- A value that counts as the same is the same document, or none, if documents are told apart by
their marks.  The marks are all that is compared of documents, hence the hypothesis. -/
lemma ComponentValue.bind_asJson?_of_unchanged {old? new? : Option ComponentValue}
    (h : unchanged old? new? = true)
    (hmarks : ∀ old new, old? = some (.json old) → new? = some (.json new) → new.mark = old.mark →
      new = old) : new?.bind asJson? = old?.bind asJson? := by
  cases old? with
  | none =>
    cases new? with
    | none => rfl
    | some new => cases h
  | some old =>
    cases new? with
    | none => cases h
    | some new =>
      cases old <;> cases new <;> first
        | rfl
        | cases h
        | skip
      next old new =>
        have hmark : old.mark = new.mark := beq_iff_eq.mp h
        rw [hmarks old new rfl rfl hmark.symm]

namespace StoreState

variable {state : StoreState} {next : StoreState × Commit} {entity : Entity}
  {record? : Option EntityRecord} {c : ComponentId}

/-! ## Components with one holder -/

/-- Of a component that only one entity may have there is at most one holder. -/
def Exclusive (state : StoreState) : Prop :=
  ∀ c, state.schema.isSingleton c = true → ∀ id ∈ state.holders c, ∀ id' ∈ state.holders c, id = id'

lemma exclusive_empty (schema : Schema) : (empty schema).Exclusive := by
  intro c _ id hid
  obtain ⟨entity, hentity, -⟩ := ((wellFormed_empty schema).mem_holders c id).mp hid
  cases hentity

/-- A commit keeps components exclusive if its entity takes none from another. -/
lemma Advances.exclusive (h : state.Advances next record?) (hs : state.Exclusive)
    (hown : ∀ entity, next.2.after? = some entity → ∀ c, entity.has c = true →
      state.schema.isSingleton c = true → ∀ id ∈ state.holders c, id = next.2.id) :
    next.1.Exclusive := by
  intro c hc id hid id' hid'
  rw [h.schema_eq] at hc
  rw [h.holders_iff] at hid hid'
  have htakes : (∃ record, record? = some record ∧ record.entity.has c = true) →
      ∀ id ∈ state.holders c, id = next.2.id := by
    rintro ⟨record, hrecord, hhas⟩
    exact hown record.entity (by rw [h.after_eq, hrecord, Option.map_some]) c hhas hc
  split at hid
  next heq =>
    split at hid'
    next heq' => exact heq.trans heq'.symm
    next => exact heq.trans (htakes hid id' hid').symm
  next =>
    split at hid'
    next heq' => exact (htakes hid' id hid).trans heq'.symm
    next => exact hs c hc id hid id' hid'

/-- What is registered takes no component from another entity. -/
lemma eq_id_of_register (h : state.register entity = .ok next) (hc : entity.has c = true)
    (hsingleton : state.schema.isSingleton c = true) :
    ∀ id ∈ state.holders c, id = entity.id := by
  have hnone := List.findSome?_eq_none_iff.mp (register_inversion h).2.1 c
    (Entity.mem_components.mpr hc)
  rw [if_pos hsingleton, Option.map_eq_none_iff, List.find?_eq_none] at hnone
  intro id hid
  simpa using hnone id hid

/-- What the commit of a registered value says about it. -/
lemma commit_of_register (h : state.register entity = .ok next) :
    next.2.id = entity.id ∧ next.2.before? = state.get? entity.id ∧
      next.2.changed = .ofList (lostComponents (state.get? entity.id) entity ++
        writtenComponents (state.entities.get? entity.id) entity) := by
  obtain ⟨-, -, ⟨-, rfl⟩ | ⟨-, rfl⟩⟩ := register_inversion h
  · exact ⟨rfl, rfl, rfl⟩
  · exact ⟨rfl, rfl, rfl⟩

/-! ## What registering changes -/

/-- A component with a written value has its version kept exactly when the value counts as the same
as the old one. -/
lemma isSome_keptVersion? {schema : Schema} {version : Nat} {id : EntityId} {record : EntityRecord}
    (h : record.WellFormed schema version id) (value : ComponentValue) :
    (record.keptVersion? (c, value)).isSome =
      (record.entity.get? c).any fun old => old.sameAs value := by
  rw [EntityRecord.keptVersion?]
  cases hold : record.entity.get? c with
  | none => rfl
  | some old =>
    rw [Option.any_some]
    dsimp only
    cases hsame : old.sameAs value with
    | false => rfl
    | true =>
      have hmem : c ∈ record.versions.map Prod.fst := by
        rw [h.map_fst_versions]
        exact Entity.mem_components.mpr (Entity.has_of_get? hold)
      rw [if_pos rfl, EntityRecord.version?, Option.isSome_map, List.find?_isSome]
      obtain ⟨stamp, hstamp, rfl⟩ := List.mem_map.mp hmem
      exact ⟨stamp, hstamp, beq_self_eq_true _⟩

/-- Registering lists the components as changed that come, go, or get a value that does not count as
the same. -/
lemma contains_changed_of_register (hs : state.WellFormed) (h : state.register entity = .ok next) :
    next.2.changed.contains c =
      !ComponentValue.unchanged ((state.get? entity.id).bind (·.get? c)) (entity.get? c) := by
  have hwritten : c ∈ writtenComponents (state.entities.get? entity.id) entity ↔
      ∃ value, entity.get? c = some value ∧
        ((state.entities.get? entity.id).bind (·.keptVersion? (c, value))).isNone = true := by
    rw [writtenComponents, List.mem_map]
    constructor
    · rintro ⟨⟨d, value⟩, hslot, rfl⟩
      rw [List.mem_filter] at hslot
      exact ⟨value, Entity.get?_eq_some_iff.mpr hslot.1, hslot.2⟩
    · rintro ⟨value, hvalue, hnone⟩
      exact ⟨(c, value), List.mem_filter.mpr ⟨Entity.get?_eq_some_iff.mp hvalue, hnone⟩, rfl⟩
  rw [(commit_of_register h).2.2, Bool.eq_iff_iff, ComponentSet.contains_ofList, List.mem_append,
    mem_lostComponents, hwritten, get?]
  cases hnew : entity.get? c with
  | none =>
    rw [Entity.get?_eq_none_iff.mp hnew]
    cases hrecord : state.entities.get? entity.id with
    | none => simp [ComponentValue.unchanged]
    | some record => cases hold : record.entity.get? c <;>
        simp [ComponentValue.unchanged, Entity.has_eq_isSome, hold]
  | some value =>
    rw [Entity.has_of_get? hnew]
    cases hrecord : state.entities.get? entity.id with
    | none => simp [ComponentValue.unchanged]
    | some record =>
      have hnone : record.keptVersion? (c, value) = none ↔
          ((record.entity.get? c).any fun old => old.sameAs value) = false := by
        rw [← isSome_keptVersion? (hs.records _ record hrecord), Option.isSome_eq_false_iff,
          Option.isNone_iff_eq_none]
      cases hold : record.entity.get? c <;> rw [hold] at hnone <;>
        simp [ComponentValue.unchanged, hold, hnone]

/-- A value that makes a difference is the one that is registered afterwards. -/
lemma after_of_register (hs : state.WellFormed) (h : state.register entity = .ok next)
    (heffective : next.2.isNoop = false) : next.2.after? = some entity := by
  rcases register_cases hs h with ⟨-, hnoop⟩ | hadvance
  · rw [heffective] at hnoop
    cases hnoop
  · exact hadvance.after_eq

/-- Registering a value with a component that counts as changed replaces the old one. -/
lemma advances_of_register (hs : state.WellFormed) (h : state.register entity = .ok next)
    (hc : next.2.changed.contains c = true) :
    state.Advances next (some (state.registeredRecord entity)) := by
  rcases register_cases hs h with ⟨-, hnoop⟩ | hadvance
  · rw [Commit.isNoop, Bool.and_eq_true, ComponentSet.isEmpty_iff] at hnoop
    rw [hnoop.1, ComponentSet.contains_empty] at hc
    cases hc
  · exact hadvance

/-! ## What can be registered -/

/-- A value can be registered if every component that its entity does not have yet is declared and
free for all. -/
lemma exists_register (hs : state.WellFormed) (hexclusive : state.Exclusive)
    (hcomponents : ∀ c, entity.has c = true →
      (∃ old, state.get? entity.id = some old ∧ old.has c = true) ∨
        c.val < state.schema.size ∧ state.schema.isSingleton c = false) :
    ∃ next, state.register entity = .ok next := by
  have hforeign : state.foreignComponent? entity = none := by
    refine List.find?_eq_none.mpr fun c hc => ?_
    rw [decide_eq_true_iff, Nat.not_le]
    rcases hcomponents c (Entity.mem_components.mp hc) with ⟨old, hold, hhas⟩ | ⟨hdeclared, -⟩
    · obtain ⟨record, hrecord, rfl⟩ := Option.map_eq_some_iff.mp hold
      exact (hs.records _ record hrecord).declared c (Entity.mem_components.mpr hhas)
    · exact hdeclared
  -- the holder of a component that the entity has already is the entity itself
  have hconflict : state.singletonConflict? entity = none := by
    refine List.findSome?_eq_none_iff.mpr fun c hc => ?_
    split
    next hsingleton =>
      rw [Option.map_eq_none_iff, List.find?_eq_none]
      intro id hid
      rcases hcomponents c (Entity.mem_components.mp hc) with ⟨old, hold, hhas⟩ | ⟨-, hfree⟩
      · have hholds := (hs.mem_holders_iff hold c).mpr hhas
        simpa using hexclusive c hsingleton id hid entity.id hholds
      · rw [hfree] at hsingleton
        cases hsingleton
    · rfl
  exact exists_register_of_unopposed hforeign hconflict

end StoreState

/-! ## Commits of edits -/

namespace Store

variable {store : Store} {command : StoreCommand} {next : StoreState × Commit}

/-- The commit that a command asks for registers a value, removes an entity, or marks a component of
one as changed, with or without a new value. -/
inductive Edits (store : Store) : StoreCommand → StoreState × Commit → Prop
  /-- A value is registered, given as it is or made from named components. -/
  | registers {command : StoreCommand} {entity : Entity} {next : StoreState × Commit}
    (hcommand : command = .register entity ∨ ∃ id components, command = .quickEntity id components ∧
      store.setComponents (store.schema.createEntity id) components = .ok entity)
    (h : store.current.register entity = .ok next) : Edits store command next
  /-- An entity is removed. -/
  | deregisters {id : EntityId} {next : StoreState × Commit} (hafter : next.2.after? = none) :
    Edits store (.deregister id) next
  /-- A component gets another value in place. -/
  | updates {id : EntityId} {name : String} {f : ComponentValue → ComponentValue}
    {c : ComponentId} {entity : Entity} {old : ComponentValue} {next : StoreState × Commit}
    (hname : store.schema.id? name = some c) (hentity : store.get? id = some entity)
    (hold : entity.get? c = some old)
    (hcommit : next.2 = ⟨id, some entity, some (entity.set c (f old)), .ofList [c]⟩) :
    Edits store (.updateInPlace id name f) next
  /-- A component is marked as changed and keeps its value. -/
  | flags {id : EntityId} {name : String} {c : ComponentId} {entity : Entity}
    {next : StoreState × Commit} (hname : store.schema.id? name = some c)
    (hentity : store.get? id = some entity)
    (hcommit : next.2 = ⟨id, some entity, some entity, .ofList [c]⟩) :
    Edits store (.flagUpdate id name) next

lemma componentId_eq_ok_iff {name : String} {c : ComponentId} :
    store.componentId name = .ok c ↔ store.schema.id? name = some c := by
  rw [componentId]
  split <;> simp_all

/-- Every proposal is one of these. -/
lemma edits_of_proposal (h : store.proposal? command = some next) : store.Edits command next := by
  cases command with
  | register entity => exact .registers (.inl rfl) (toOption_eq_some_iff.mp h)
  | deregister id =>
    obtain ⟨record, -, rfl⟩ := Option.map_eq_some_iff.mp h
    exact .deregisters rfl
  | quickEntity id components =>
    obtain ⟨entity, hentity, hregister⟩ := Option.bind_eq_some_iff.mp h
    exact .registers (.inr ⟨id, components, rfl, toOption_eq_some_iff.mp hentity⟩)
      (toOption_eq_some_iff.mp hregister)
  | updateInPlace id name f =>
    obtain ⟨c, hc, hupdate⟩ := Option.bind_eq_some_iff.mp h
    have hname := componentId_eq_ok_iff.mp (toOption_eq_some_iff.mp hc)
    have hupdate := toOption_eq_some_iff.mp hupdate
    rw [StoreState.updateInPlace] at hupdate
    split at hupdate
    · cases hupdate
    next record hrecord =>
      split at hupdate
      · cases hupdate
      next old hold =>
        cases hupdate
        exact .updates hname (by rw [get?, StoreState.get?, hrecord, Option.map_some]) hold rfl
  | flagUpdate id name =>
    obtain ⟨c, hc, hflag⟩ := Option.bind_eq_some_iff.mp h
    have hname := componentId_eq_ok_iff.mp (toOption_eq_some_iff.mp hc)
    have hflag := toOption_eq_some_iff.mp hflag
    rw [StoreState.flagUpdate] at hflag
    split at hflag
    · cases hflag
    next record hrecord =>
      split at hflag
      · cases hflag
      · cases hflag
        exact .flags hname (by rw [get?, StoreState.get?, hrecord, Option.map_some]) rfl
  | createQuery _ => cases h
  | createConsumer _ => cases h
  | resetConsumer _ => cases h
  | drain _ => cases h
  | matching _ => cases h

lemma perform_register {entity : Entity} (h : store.current.register entity = .ok next) :
    store.perform (.register entity) = store.commit next := by
  rw [perform, Store.register, h]
  rfl

/-- The registered values after an effective commit. -/
lemma get?_commit {record? : Option EntityRecord} (h : store.current.Advances next record?)
    (id : EntityId) :
    (store.commit next).get? id = if id = next.2.id then next.2.after? else store.get? id := by
  rw [get?, commit_eq h.effective]
  exact h.get?_eq id

/-- Registering a value with a component that counts as changed makes it the value of its entity. -/
lemma get?_commit_of_register {entity : Entity} {c : ComponentId} (hs : store.current.WellFormed)
    (h : store.current.register entity = .ok next) (hc : next.2.changed.contains c = true)
    (id : EntityId) :
    (store.commit next).get? id = if id = entity.id then some entity else store.get? id := by
  have hadvance := StoreState.advances_of_register hs h hc
  rw [get?_commit hadvance, (StoreState.commit_of_register h).1,
    StoreState.after_of_register hs h hadvance.effective]

/-- A command commits its proposal or leaves the registered values alone. -/
lemma perform_cases (hs : store.current.WellFormed) (command : StoreCommand) :
    (store.effect? command = none ∧ (store.perform command).current = store.current) ∨
      ∃ next record?, store.proposal? command = some next ∧
        store.current.Advances next record? ∧ store.perform command = store.commit next := by
  have hstep := step_perform hs command
  generalize store.perform command = store' at hstep ⊢
  cases hstep with
  | idle heffect => exact .inl ⟨heffect, rfl⟩
  | commits hproposal hadvance => exact .inr ⟨_, _, hproposal, hadvance, rfl⟩
  | startsQuery | startsConsumer | resets | drains | caches => exact .inl ⟨rfl, rfl⟩

/-- What holds of all registered values still holds after a command that brings in only values of
which it holds. -/
lemma values_perform (hs : store.current.WellFormed) {P : Entity → Prop}
    (hP : ∀ id entity, store.get? id = some entity → P entity)
    (hafter : ∀ next record?, store.proposal? command = some next →
      store.current.Advances next record? → ∀ entity, next.2.after? = some entity → P entity) :
    ∀ id entity, (store.perform command).get? id = some entity → P entity := by
  intro id entity hentity
  rcases perform_cases hs command with ⟨-, hcurrent⟩ | ⟨next, record?, hproposal, hadvance, hnext⟩
  · rw [get?, hcurrent] at hentity
    exact hP id entity hentity
  · rw [hnext, get?_commit hadvance] at hentity
    split at hentity
    · exact hafter next record? hproposal hadvance entity hentity
    · exact hP id entity hentity

/-- Commands keep components exclusive.  Removing takes nothing from others, writing and marking
leave the components as they are, and registering checks. -/
lemma exclusive_perform (hs : store.current.WellFormed) (hexclusive : store.current.Exclusive)
    (command : StoreCommand) : (store.perform command).current.Exclusive := by
  have hstep := step_perform hs command
  generalize store.perform command = store' at hstep
  cases hstep with
  | @commits _ next record? hproposal hadvance =>
    rw [commit_eq hadvance.effective]
    refine hadvance.exclusive hexclusive fun entity hafter c hc hsingleton => ?_
    -- an entity that keeps its components holds them already
    have hkeeps : ∀ {old : Entity}, store.get? next.2.id = some old → old.has c = true →
        ∀ id ∈ store.current.holders c, id = next.2.id := fun hold hhas id hid =>
      hexclusive c hsingleton id hid _ ((hs.mem_holders_iff hold c).mpr hhas)
    cases edits_of_proposal hproposal with
    | registers _ hregister =>
      have hid := (StoreState.commit_of_register hregister).1
      rcases StoreState.register_cases hs hregister with ⟨-, hnoop⟩ | hregistered
      · rw [hadvance.effective] at hnoop
        cases hnoop
      · rw [hregistered.after_eq, Option.map_some] at hafter
        obtain rfl := Option.some.inj hafter
        exact hid ▸ StoreState.eq_id_of_register hregister hc hsingleton
    | deregisters hnone =>
      rw [hnone] at hafter
      cases hafter
    | updates _ hentity hold hcommit =>
      rw [hcommit] at hafter hkeeps ⊢
      obtain rfl := Option.some.inj hafter
      rw [Entity.has_set (Entity.has_of_get? hold)] at hc
      exact hkeeps hentity hc
    | flags _ hentity hcommit =>
      rw [hcommit] at hafter hkeeps ⊢
      obtain rfl := Option.some.inj hafter
      exact hkeeps hentity hc
  | idle | startsQuery | startsConsumer | resets | drains | caches => exact hexclusive

end Store

end SceneEngine
