import SceneEngine.Proofs.Store.Edits
import SceneEngine.Proofs.Store.Stamps

/-!
# What registering a value changes

Registering a value loses, gains, rewrites or keeps each component of its entity.  Which of the four
it is can be told from the values before and after, without looking at how the store finds it out.
This module states everything that an accepted value does to a state in these four words, and
nothing more: what is not mentioned stays as it is.

## The four words

`StoreState.Loses`, `StoreState.Gains`, `StoreState.Rewrites` and `StoreState.Keeps` compare what a
component holds in the registered value with what it holds in the new one.  Only the last two ask
whether two values are the same, and they ask `ComponentValue.sameAs`.  No case is missing except
that of a component that neither value has (`StoreState.unchanged_eq_false_iff`).

## What follows for a state

The commit lists the components that are not kept.  The sets of the index change for those that are
lost or gained, by the entity alone (`StoreState.holders_of_register`).  Those that are gained or
rewritten are stamped with the version that the commit leads to, those that are kept have their old
stamps (`StoreState.stamp_of_changed`, `StoreState.stamp_of_not_changed`).
`StoreState.CommitsExactly` puts all this together, with the values of the commit, the version, and
what stays the same of other entities.

The pass through the slots that edits a state in place comes to nothing else: the first field of
`CommitsExactly` says so, and it rests on `Proofs/Store/Comparing`.  The main result
`StoreState.register_commitsExactly` is about every state that commits lead to, current or kept from
before.
-/

namespace SceneEngine

namespace StoreState

open Store (typedSchema typedCommands)

variable {state : StoreState} {entity : Entity} {next : StoreState × Commit} {c : ComponentId}
  {id : EntityId}

/-! ## What becomes of a component -/

/-- What a component of a registered entity holds.  There is nothing if the entity is not
registered. -/
def component? (state : StoreState) (id : EntityId) (c : ComponentId) : Option ComponentValue :=
  (state.get? id).bind (·.get? c)

/-- Only the registered value has the component. -/
def Loses (state : StoreState) (entity : Entity) (c : ComponentId) : Prop :=
  (state.component? entity.id c).isSome = true ∧ entity.get? c = none

/-- Only the new value has the component. -/
def Gains (state : StoreState) (entity : Entity) (c : ComponentId) : Prop :=
  state.component? entity.id c = none ∧ (entity.get? c).isSome = true

/-- Both values have the component, and what it holds differs. -/
def Rewrites (state : StoreState) (entity : Entity) (c : ComponentId) : Prop :=
  ∃ old new, state.component? entity.id c = some old ∧ entity.get? c = some new ∧
    old.sameAs new = false

/-- Both values have the component, and what it holds counts as the same.  What counts as the same
need not be equal, and the new value is the one that is registered if anything else changes. -/
def Keeps (state : StoreState) (entity : Entity) (c : ComponentId) : Prop :=
  ∃ old new, state.component? entity.id c = some old ∧ entity.get? c = some new ∧
    old.sameAs new = true

/-- The changed components are those that are lost, gained or rewritten. -/
lemma unchanged_eq_false_iff :
    ComponentValue.unchanged (state.component? entity.id c) (entity.get? c) = false ↔
      state.Loses entity c ∨ state.Gains entity c ∨ state.Rewrites entity c := by
  rw [Loses, Gains, Rewrites]
  cases state.component? entity.id c <;> cases entity.get? c <;> simp [ComponentValue.unchanged]

/-- What is kept is not changed. -/
lemma Keeps.unchanged (h : state.Keeps entity c) :
    ComponentValue.unchanged (state.component? entity.id c) (entity.get? c) = true := by
  obtain ⟨old, new, hold, hnew, hsame⟩ := h
  rw [hold, hnew]
  exact hsame

lemma isSome_component? :
    (state.component? id c).isSome = (state.get? id).any (·.has c) := by
  rw [component?]
  cases state.get? id with
  | none => rfl
  | some old => rw [Option.bind_some, Option.any_some, Entity.has_eq_isSome]

lemma loses_iff : state.Loses entity c ↔
    (state.get? entity.id).any (·.has c) = true ∧ entity.has c = false := by
  rw [Loses, isSome_component?, Entity.get?_eq_none_iff]

lemma gains_iff : state.Gains entity c ↔
    (state.get? entity.id).any (·.has c) = false ∧ entity.has c = true := by
  rw [Gains, ← isSome_component?, Option.isSome_eq_false_iff, Option.isNone_iff_eq_none,
    Entity.has_eq_isSome]

/-! ## The index -/

/-- An accepted value moves its entity in the index by what it loses and gains.  If nothing changes
at all, it loses and gains nothing, so this holds in that case as well. -/
lemma index_of_register (h : state.register entity = .ok next) :
    next.1.index = reindex state.index entity.id (lostComponents (state.get? entity.id) entity)
      (gainedComponents (state.get? entity.id) entity) := by
  obtain ⟨-, -, ⟨hnoop, rfl⟩ | ⟨-, rfl⟩⟩ := register_inversion h
  · exact (reindex_of_noop (Bool.and_eq_true_iff.mp hnoop).2).symm
  · rfl

/-- The set of a component changes by the entity alone: it goes, comes, or is not touched. -/
lemma holders_of_register (hs : state.WellFormed) (h : state.register entity = .ok next)
    (c : ComponentId) :
    next.1.holders c = moved entity.id ((state.get? entity.id).any (·.has c)) (entity.has c)
      (state.holders c) := by
  rw [holders, holders, List.getD_eq_getElem?_getD, List.getD_eq_getElem?_getD,
    index_of_register h, Comparison.getElem?_reindex_register]
  -- the index has a set for each declared component
  by_cases hc : c.val < state.index.length
  · rw [List.getElem?_eq_getElem hc, Option.map_some, Option.getD_some, Option.getD_some]
  · -- a component that is not declared is in neither value
    have hnone : state.index[c.val]? = none := List.getElem?_eq_none (Nat.le_of_not_lt hc)
    rw [hs.index_length] at hc
    have hnow : entity.has c = false := Bool.eq_false_iff.mpr fun hhas =>
      hc (declared_of_register h c (Entity.mem_components.mpr hhas))
    have hwas : (state.get? entity.id).any (·.has c) = false := by
      rw [← Bool.not_eq_true, ← Comparison.exists_has_iff]
      intro hold
      have hholds := (hs.mem_holders c entity.id).mpr hold
      rw [holders, List.getD_eq_getElem?_getD, hnone] at hholds
      exact OrderedSet.notMem_empty hholds
    rw [hnone, hwas, hnow]
    rfl

/-! ## The stamps -/

/-- A change of a component takes effect, and from it on the new value is the registered one. -/
lemma get?_of_changed (hs : state.WellFormed) (h : state.register entity = .ok next)
    (hc : next.2.changed.contains c = true) :
    next.1.get? entity.id = some entity ∧ next.1.version = state.version + 1 := by
  have hadvance := advances_of_register hs h hc
  refine ⟨?_, hadvance.version_eq⟩
  rw [hadvance.get?_eq, if_pos (commit_of_register h).1.symm, hadvance.after_eq]
  rfl

/-- A component that is there and has changed is stamped with the version that the change leads
to. -/
lemma stamp_of_changed (hs : state.WellFormed) (h : state.register entity = .ok next)
    (hc : next.2.changed.contains c = true) (hnew : (entity.get? c).isSome = true) :
    next.1.componentVersion? entity.id c = some next.1.version := by
  have hadvance := advances_of_register hs h hc
  have hstamped := isSome_componentVersion? (hadvance.wellFormed_next hs) entity.id c
  rw [(get?_of_changed hs h hc).1, Option.bind_some, hnew] at hstamped
  obtain ⟨v, hv⟩ := Option.isSome_iff_exists.mp hstamped
  rw [hv, (restamps_register hs h hadvance entity.id c).1 ⟨(commit_of_register h).1, hc⟩ v hv]

/-- A component that has not changed keeps its stamp. -/
lemma stamp_of_not_changed (hs : state.WellFormed) (h : state.register entity = .ok next)
    (hc : next.2.changed.contains c = false) :
    next.1.componentVersion? entity.id c = state.componentVersion? entity.id c := by
  rcases register_cases hs h with ⟨hsame, -⟩ | hadvance
  · rw [hsame]
  · refine (restamps_register hs h hadvance entity.id c).2 fun hchanged => ?_
    rw [hc] at hchanged
    cases hchanged.2

/-! ## Everything that registering a value changes -/

/-- There is a value after the commit, and it is the registered one.  The version rises unless the
commit is no change, and then the registered value is the old one. -/
lemma after_eq_get?_of_register (h : state.register entity = .ok next) :
    next.2.after?.isSome = true ∧ next.2.after? = next.1.get? entity.id ∧
      next.1.version = if next.2.isNoop then state.version else state.version + 1 := by
  obtain ⟨-, -, ⟨hnoop, rfl⟩ | ⟨hnoop, rfl⟩⟩ := register_inversion h
  · obtain ⟨hsome, hempty⟩ := Bool.and_eq_true_iff.mp hnoop
    exact ⟨hsome, rfl, by rw [Commit.isNoop, hempty, beq_self_eq_true]; rfl⟩
  · have heffective : Commit.isNoop
        ⟨entity.id, state.get? entity.id, some entity, state.changedBy entity⟩ = false := by
      rwa [Commit.isNoop, Option.isSome_some, beq_true, Bool.and_comm]
    have hget : (state.registered entity).get? entity.id = some entity := by
      rw [get?, registered, OrderedMap.get?_insert, if_pos rfl]
      rfl
    exact ⟨rfl, hget.symm, by rw [heffective]; rfl⟩

/-- What an accepted value changes, told by the values before and after.  The fields cover all of a
state: its version, the records of this entity and of the others, and the index. -/
structure CommitsExactly (state : StoreState) (entity : Entity) (next : StoreState × Commit) :
    Prop where
  /-- The pass through the slots that edits the state itself leaves the same and answers the
  same. -/
  in_place : (StateEdit.register entity).run state = .ok next.2 next.1
  /-- The commit is about the entity of the value, -/
  id_eq : next.2.id = entity.id
  /-- with the value that was registered for it before -/
  before_eq : next.2.before? = state.get? entity.id
  /-- and the one that is afterwards. -/
  after_eq : next.2.after? = next.1.get? entity.id
  /-- The version rises by one, unless nothing has changed. -/
  version_eq : next.1.version = if next.2.isNoop then state.version else state.version + 1
  /-- The components that are not kept are listed, and no others. -/
  changed_iff : ∀ c, next.2.changed.contains c = true ↔
    state.Loses entity c ∨ state.Gains entity c ∨ state.Rewrites entity c
  /-- The entity leaves the sets of the components it loses, enters those of the components it
  gains, and no other set changes. -/
  holders_of_loses : ∀ c, state.Loses entity c →
    entity.id ∈ state.holders c ∧ next.1.holders c = (state.holders c).erase entity.id
  holders_of_gains : ∀ c, state.Gains entity c →
    entity.id ∉ state.holders c ∧ next.1.holders c = (state.holders c).insert entity.id
  holders_eq : ∀ c, ¬state.Loses entity c → ¬state.Gains entity c →
    next.1.holders c = state.holders c
  /-- The components of the new value keep their stamps or get the new version. -/
  stamp_of_keeps : ∀ c, state.Keeps entity c →
    next.1.componentVersion? entity.id c = state.componentVersion? entity.id c
  stamp_of_changes : ∀ c, state.Gains entity c ∨ state.Rewrites entity c →
    next.1.componentVersion? entity.id c = some next.1.version ∧
      next.1.version = state.version + 1
  /-- Nothing is touched of another entity: not its value, its stamps and its previous values, -/
  others_record : ∀ id, id ≠ entity.id → next.1.entities.get? id = state.entities.get? id
  /-- and not its place in the index. -/
  others_holders : ∀ id, id ≠ entity.id → ∀ c, id ∈ next.1.holders c ↔ id ∈ state.holders c

/-- Each field is shown by itself, from what is known of registering in a well-formed state. -/
lemma commitsExactly_of_register (hs : state.WellFormed) (h : state.register entity = .ok next) :
    state.CommitsExactly entity next := by
  obtain ⟨hid, hbefore, -⟩ := commit_of_register h
  obtain ⟨-, hafter, hversion⟩ := after_eq_get?_of_register h
  have hchanged : ∀ c, next.2.changed.contains c = true ↔
      state.Loses entity c ∨ state.Gains entity c ∨ state.Rewrites entity c := by
    intro c
    rw [contains_changed_of_register hs h, Bool.not_eq_true', ← unchanged_eq_false_iff, component?]
  have hholders := holders_of_register hs h
  have hwas : ∀ c, entity.id ∈ state.holders c ↔
      (state.get? entity.id).any (·.has c) = true := by
    intro c
    rw [hs.mem_holders, Comparison.exists_has_iff]
  refine {
    in_place := by rw [StateEdit.register_eq hs, h]; rfl
    id_eq := hid
    before_eq := hbefore
    after_eq := hafter
    version_eq := hversion
    changed_iff := hchanged
    holders_of_loses := fun c hc => ?_
    holders_of_gains := fun c hc => ?_
    holders_eq := fun c hlost hgained => ?_
    stamp_of_keeps := fun c hc => ?_
    stamp_of_changes := fun c hc => ?_
    others_record := fun id hne => ?_
    others_holders := fun id hne c => ?_ }
  · obtain ⟨hwas', hnow⟩ := loses_iff.mp hc
    exact ⟨(hwas c).mpr hwas', by rw [hholders, hwas', hnow]; rfl⟩
  · obtain ⟨hwas', hnow⟩ := gains_iff.mp hc
    exact ⟨by rw [hwas, hwas']; exact Bool.false_ne_true, by rw [hholders, hwas', hnow]; rfl⟩
  · rw [hholders]
    rw [loses_iff] at hlost
    rw [gains_iff] at hgained
    cases hold : (state.get? entity.id).any (·.has c) <;> cases hnew : entity.has c
    case true.false => exact absurd ⟨hold, hnew⟩ hlost
    case false.true => exact absurd ⟨hold, hnew⟩ hgained
    all_goals rfl
  · refine stamp_of_not_changed hs h ?_
    rw [contains_changed_of_register hs h, Bool.not_eq_false']
    exact hc.unchanged
  · have hcontains := (hchanged c).mpr (.inr hc)
    have hnew : (entity.get? c).isSome = true := by
      rcases hc with hc | ⟨old, new, -, hnew, -⟩
      · exact hc.2
      · rw [hnew, Option.isSome_some]
    exact ⟨stamp_of_changed hs h hcontains hnew, (get?_of_changed hs h hcontains).2⟩
  · rcases register_cases hs h with ⟨hsame, -⟩ | hadvance
    · rw [hsame]
    · rw [hadvance.record_eq, if_neg (hid ▸ hne)]
  · rcases register_cases hs h with ⟨hsame, -⟩ | hadvance
    · rw [hsame]
    · rw [hadvance.holders_iff, if_neg (hid ▸ hne)]

/-- **Commits tell exactly what has changed.**  Whatever value a state accepts that commits have led
to, or that a store holds now or from before, its commit lists the components that are lost, gained
or rewritten, and the index, the stamps and the other entities change as far as that and no
further. -/
theorem register_commitsExactly (schema : Schema) :
    (∀ (commands : List StateCommand) (entity : Entity) (next : StoreState × Commit),
      ((empty schema).run commands).register entity = .ok next →
        ((empty schema).run commands).CommitsExactly entity next) ∧
    ∀ (historyDepth : Nat) (commands : List StoreCommand),
      ∀ state ∈ ((Store.empty schema historyDepth).run commands).current ::
          ((Store.empty schema historyDepth).run commands).history,
        ∀ (entity : Entity) (next : StoreState × Commit), state.register entity = .ok next →
          state.CommitsExactly entity next := by
  constructor
  · intro commands entity next h
    exact commitsExactly_of_register (wellFormed_run (wellFormed_empty schema) commands).2 h
  · intro historyDepth commands state hstate entity next h
    have hstore := Store.wellFormed_run schema historyDepth commands
    rcases List.mem_cons.mp hstate with rfl | hold
    · exact commitsExactly_of_register hstore.current.2 h
    · exact commitsExactly_of_register (hstore.history state hold).2 h

/-- An entity that is registered again without its component loses it. -/
theorem register_commitsExactly_bare :
    ∃ next, ((Store.empty typedSchema 0).run typedCommands).current.register (.bare ⟨1⟩) =
        .ok next ∧
      ((Store.empty typedSchema 0).run typedCommands).current.CommitsExactly (.bare ⟨1⟩) next := by
  obtain ⟨next, h⟩ : ∃ next, ((Store.empty typedSchema 0).run typedCommands).current.register
      (.bare ⟨1⟩) = .ok next := ⟨_, rfl⟩
  exact ⟨next, h, (register_commitsExactly typedSchema).2 0 typedCommands _ List.mem_cons_self
    (.bare ⟨1⟩) next h⟩

end StoreState

end SceneEngine
