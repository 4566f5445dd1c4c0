import SceneEngine.Proofs.Store.Diffs
import SceneEngine.Proofs.Store.Singletons
import SceneEngine.Proofs.Vec

/-!
# Values that count as the same

Registering the value that is registered already should be no change, and registering any other
should take effect.  Whether it does depends on when two values count as the same.  For most kinds
of values this is being identical.  Vectors are compared as numbers, and there it is not: a NaN is
not equal to itself, and the two zeros are equal.  This module says exactly what follows from that.

## Identical values

`ComponentValue.IsIdentical` says that two values cannot be told apart: numbers and coordinates have
the same bits, and texts, documents and resources are the same object.  Counting as the same differs
from it in two ways, and only in these:

* a vector with a NaN does not count as the same as itself
  (`ComponentValue.sameAs_iff_of_isIdentical`),
* a vector counts as the same as another one in which a zero has the other sign
  (`ComponentValue.isIdentical_iff_of_sameAs`).

Entities are compared component by component, and the same two statements hold of them.  Single
numbers are compared by their bits, so they show neither.

## Registering

A registration leaves the store as it is exactly when the value counts as the same as the registered
one (`Store.register_eq_self_iff`).  `Store.RegistersFaithfully` is what should hold: the store
stays as it is exactly when the value is identical, and in any case an identical one is registered
afterwards.  `Store.registersFaithfully_iff` says when it does hold, after any run, and
`Store.not_forall_registersFaithfully` has a run for each of the two exceptions.
-/

namespace SceneEngine

/-! ## Identical values -/

namespace ComponentValue

variable {a b : ComponentValue}

/-- The values cannot be told apart: numbers and coordinates have the same bits, and texts,
documents and resources are the same object. -/
def IsIdentical : ComponentValue → ComponentValue → Prop
  | .null, .null => True
  | .bool a, .bool b => a = b
  | .int a, .int b => a = b
  | .float a, .float b => a.toBits = b.toBits
  | .vec2 a, .vec2 b => a.SameBits b
  | .vec3 a, .vec3 b => a.SameBits b
  | .vec4 a, .vec4 b => a.SameBits b
  | .text a, .text b => a.mark = b.mark
  | .json a, .json b => a.mark = b.mark
  | .resource a, .resource b => a.mark = b.mark
  | _, _ => False

/-- The value is a vector with a coordinate that is a NaN. -/
def HasNaN : ComponentValue → Prop
  | .vec2 v => v.HasNaN
  | .vec3 v => v.HasNaN
  | .vec4 v => v.HasNaN
  | _ => False

/-- The values are vectors of one kind, and a coordinate is zero in both with different signs. -/
def FlipsZero : ComponentValue → ComponentValue → Prop
  | .vec2 v, .vec2 w => v.FlipsZero w
  | .vec3 v, .vec3 w => v.FlipsZero w
  | .vec4 v, .vec4 w => v.FlipsZero w
  | _, _ => False

lemma IsIdentical.refl (a : ComponentValue) : a.IsIdentical a := by
  cases a with
  | null => exact trivial
  | vec2 | vec3 | vec4 => exact fun _ => rfl
  | bool | int | float | text | json | resource => exact rfl

/-- A value counts as the same as an identical one unless it is a vector with a NaN. -/
lemma sameAs_iff_of_isIdentical (h : a.IsIdentical b) : a.sameAs b = true ↔ ¬b.HasNaN := by
  cases a <;> cases b
  case vec2.vec2 => exact Vec.beq_iff_of_sameBits h
  case vec3.vec3 => exact Vec.beq_iff_of_sameBits h
  case vec4.vec4 => exact Vec.beq_iff_of_sameBits h
  case null.null => simp [sameAs, HasNaN]
  all_goals first
    | exact h.elim
    | simpa [IsIdentical, sameAs, HasNaN, Shared.isSame] using h

/-- A value that counts as the same is identical unless it flips the sign of a zero. -/
lemma isIdentical_iff_of_sameAs (h : a.sameAs b = true) : a.IsIdentical b ↔ ¬a.FlipsZero b := by
  cases a <;> cases b
  case vec2.vec2 => exact Vec.sameBits_iff_of_beq h
  case vec3.vec3 => exact Vec.sameBits_iff_of_beq h
  case vec4.vec4 => exact Vec.sameBits_iff_of_beq h
  case null.null => simp [IsIdentical, FlipsZero]
  all_goals first
    | exact absurd h Bool.false_ne_true
    | simpa [sameAs, IsIdentical, FlipsZero, Shared.isSame] using h

lemma sameAs_comm (a b : ComponentValue) : a.sameAs b = b.sameAs a := by
  cases a <;> cases b
  case vec2.vec2 => exact Vec.beq_comm
  case vec3.vec3 => exact Vec.beq_comm
  case vec4.vec4 => exact Vec.beq_comm
  all_goals first
    | rfl
    | exact Bool.beq_comm

end ComponentValue

namespace Entity

variable {old new : Entity}

/-- The entities have the same components, and all of them hold identical values. -/
def IsIdentical (old new : Entity) : Prop :=
  old.id = new.id ∧ ∀ c, Option.Rel ComponentValue.IsIdentical (old.get? c) (new.get? c)

/-- The entities have the same components, and what these hold counts as the same. -/
def SameAs (old new : Entity) : Prop :=
  ∀ c, ComponentValue.unchanged (old.get? c) (new.get? c) = true

/-- A component holds a vector with a NaN. -/
def HasNaN (entity : Entity) : Prop := ∃ c value, entity.get? c = some value ∧ value.HasNaN

/-- A component holds vectors of which a coordinate is zero in both with different signs. -/
def FlipsZero (old new : Entity) : Prop :=
  ∃ c v w, old.get? c = some v ∧ new.get? c = some w ∧ v.FlipsZero w

lemma IsIdentical.refl (entity : Entity) : entity.IsIdentical entity := by
  refine ⟨rfl, fun c => ?_⟩
  cases entity.get? c with
  | none => exact .none
  | some value => exact .some (.refl value)

/-- Identical entities have the same components, and so do entities that count as the same. -/
lemma IsIdentical.has_eq (h : old.IsIdentical new) (c : ComponentId) : new.has c = old.has c := by
  have hc := h.2 c
  rw [has_eq_isSome, has_eq_isSome]
  cases hold : old.get? c <;> cases hnew : new.get? c <;> rw [hold, hnew] at hc
  case none.some | some.none => cases hc
  all_goals rfl

lemma SameAs.has_eq (h : old.SameAs new) (c : ComponentId) : new.has c = old.has c := by
  have hc := h c
  rw [has_eq_isSome, has_eq_isSome]
  cases hold : old.get? c <;> cases hnew : new.get? c <;> rw [hold, hnew] at hc
  case none.some | some.none => cases hc
  all_goals rfl

/-- An entity counts as the same as an identical one unless it has a vector with a NaN. -/
lemma sameAs_iff_of_isIdentical (h : old.IsIdentical new) : old.SameAs new ↔ ¬new.HasNaN := by
  have hvalue : ∀ c, ComponentValue.unchanged (old.get? c) (new.get? c) = true ↔
      ∀ value, new.get? c = some value → ¬value.HasNaN := by
    intro c
    have hc := h.2 c
    cases hold : old.get? c <;> cases hnew : new.get? c <;> rw [hold, hnew] at hc
    case none.some | some.none => cases hc
    case none.none => simp [ComponentValue.unchanged]
    case some.some v w =>
      obtain ⟨hvw⟩ := hc
      simpa [ComponentValue.unchanged] using ComponentValue.sameAs_iff_of_isIdentical hvw
  rw [SameAs, HasNaN]
  push Not
  exact forall_congr' hvalue

/-- An entity that counts as the same is identical unless it flips the sign of a zero. -/
lemma isIdentical_iff_of_sameAs (hid : old.id = new.id) (h : old.SameAs new) :
    old.IsIdentical new ↔ ¬old.FlipsZero new := by
  have hvalue : ∀ c, Option.Rel ComponentValue.IsIdentical (old.get? c) (new.get? c) ↔
      ∀ v w, old.get? c = some v → new.get? c = some w → ¬v.FlipsZero w := by
    intro c
    have hc := h c
    cases hold : old.get? c <;> cases hnew : new.get? c <;> rw [hold, hnew] at hc
    case none.some | some.none => cases hc
    case none.none => simp
    case some.some v w => simpa using ComponentValue.isIdentical_iff_of_sameAs hc
  rw [IsIdentical, FlipsZero, and_iff_right hid]
  push Not
  exact forall_congr' hvalue

end Entity

/-! ## Registering a value that counts as the same -/

namespace StoreState

variable {state : StoreState} {entity old : Entity} {next : StoreState × Commit}

/-- A commit is no change if the entity was registered with a value that counts as the same, and
only then. -/
lemma isNoop_iff_of_register (hs : state.WellFormed) (h : state.register entity = .ok next) :
    next.2.isNoop = true ↔ ∃ old, state.get? entity.id = some old ∧ old.SameAs entity := by
  -- a commit changes no component exactly when every component counts as the same
  have hchanged : next.2.changed.isEmpty = true ↔
      ∀ c, ComponentValue.unchanged ((state.get? entity.id).bind (·.get? c)) (entity.get? c) =
        true := by
    rw [ComponentSet.isEmpty_iff]
    constructor
    · intro hempty c
      have hc := contains_changed_of_register (c := c) hs h
      rwa [hempty, ComponentSet.contains_empty, eq_comm, Bool.not_eq_false'] at hc
    · intro hsame
      ext c
      rw [contains_changed_of_register hs h, hsame, ComponentSet.contains_empty, Bool.not_true]
  obtain ⟨-, hbefore, -⟩ := commit_of_register h
  rw [Commit.isNoop, (after_eq_get?_of_register h).1, hbefore, Bool.and_eq_true, hchanged, beq_true]
  cases state.get? entity.id with
  | none => simp
  | some old => simp [Entity.SameAs]

/-- Whatever has the components of a registered value can be registered in its place. -/
lemma exists_register_of_has_eq (hs : state.WellFormed) (hexclusive : state.Exclusive)
    (hold : state.get? entity.id = some old) (hhas : ∀ c, entity.has c = old.has c) :
    ∃ next, state.register entity = .ok next :=
  exists_register hs hexclusive fun c hc => .inl ⟨old, hold, by rw [← hhas, hc]⟩

end StoreState

namespace Store

variable {store : Store} {entity old : Entity} {next : Store × Commit}

/-- Registering a value makes the commit that the state gives. -/
lemma register_eq_ok_iff : store.register entity = .ok next ↔
    ∃ change, store.current.register entity = .ok change ∧
      next = (store.commit change, change.2) := by
  rw [register]
  cases store.current.register entity with
  | error e => simp
  | ok change => simp [pure, Except.pure, eq_comm]

/-- Either the value counts as the same as the registered one and the store stays as it is, or the
value is the registered one afterwards. -/
lemma register_cases (hs : store.current.WellFormed) (h : store.register entity = .ok next) :
    (next.1 = store ∧ ∃ old, store.get? entity.id = some old ∧ old.SameAs entity) ∨
      (next.1 ≠ store ∧ next.1.get? entity.id = some entity ∧
        ¬∃ old, store.get? entity.id = some old ∧ old.SameAs entity) := by
  obtain ⟨change, hchange, rfl⟩ := register_eq_ok_iff.mp h
  have hnoop := StoreState.isNoop_iff_of_register hs hchange
  have hid := (StoreState.commit_of_register hchange).1
  rcases StoreState.register_cases hs hchange with ⟨-, htrue⟩ | hadvance
  · exact .inl ⟨by rw [commit, if_pos htrue], hnoop.mp htrue⟩
  · refine .inr ⟨fun hsame => ?_, ?_, ?_⟩
    · have hversion := congrArg (·.current.version) hsame
      rw [commit_eq hadvance.effective] at hversion
      exact absurd (hadvance.version_eq.symm.trans hversion) (Nat.succ_ne_self _)
    · rw [get?_commit hadvance, if_pos hid.symm, hadvance.after_eq]
      rfl
    · rw [get?, ← hnoop, hadvance.effective]
      exact Bool.false_ne_true

/-- A value of a registered entity leaves the store as it is exactly when it counts as the same. -/
lemma register_eq_self_iff (hs : store.current.WellFormed) (h : store.register entity = .ok next)
    (hold : store.get? entity.id = some old) : next.1 = store ↔ old.SameAs entity := by
  rcases register_cases hs h with ⟨hsame, old', hold', hcounts⟩ | ⟨hdiffers, -, hcounts⟩
  · obtain rfl := Option.some.inj (hold.symm.trans hold')
    exact iff_of_true hsame hcounts
  · exact iff_of_false hdiffers fun hsame => hcounts ⟨old, hold, hsame⟩

lemma exists_register_of_has_eq (hs : store.current.WellFormed)
    (hexclusive : store.current.Exclusive) (hold : store.get? entity.id = some old)
    (hhas : ∀ c, entity.has c = old.has c) : ∃ next, store.register entity = .ok next := by
  obtain ⟨change, hchange⟩ := StoreState.exists_register_of_has_eq hs hexclusive hold hhas
  exact ⟨_, register_eq_ok_iff.mpr ⟨change, hchange, rfl⟩⟩

/-- If a value is accepted, the store stays as it is exactly when the registered value is identical
to it, and in any case an identical value is registered afterwards. -/
def RegistersFaithfully (store : Store) (entity : Entity) : Prop :=
  ∀ next, store.register entity = .ok next →
    (∀ old, store.get? entity.id = some old → (next.1 = store ↔ old.IsIdentical entity)) ∧
      ∃ stored, next.1.get? entity.id = some stored ∧ stored.IsIdentical entity

/-- The condition of the main result, for any well-formed state with exclusive components. -/
lemma registersFaithfully_iff_of_wellFormed (hs : store.current.WellFormed)
    (hexclusive : store.current.Exclusive) (entity : Entity) :
    store.RegistersFaithfully entity ↔ ∀ old, store.get? entity.id = some old →
      ¬(old.IsIdentical entity ∧ entity.HasNaN) ∧ ¬(old.SameAs entity ∧ old.FlipsZero entity) := by
  constructor
  · intro hfaithful old hold
    -- what has the components of the registered value is accepted, so there is something to compare
    have haccepted := exists_register_of_has_eq hs hexclusive hold
    constructor
    · rintro ⟨hidentical, hnan⟩
      obtain ⟨next, hnext⟩ := haccepted hidentical.has_eq
      have hsame := ((hfaithful next hnext).1 old hold).mpr hidentical
      rw [register_eq_self_iff hs hnext hold, Entity.sameAs_iff_of_isIdentical hidentical] at hsame
      exact hsame hnan
    · rintro ⟨hsame, hflips⟩
      obtain ⟨next, hnext⟩ := haccepted hsame.has_eq
      have hidentical := ((hfaithful next hnext).1 old hold).mp
        ((register_eq_self_iff hs hnext hold).mpr hsame)
      exact (Entity.isIdentical_iff_of_sameAs (hs.id_eq hold) hsame).mp hidentical hflips
  · intro hexact next hnext
    have hidentical : ∀ old, store.get? entity.id = some old →
        (old.SameAs entity ↔ old.IsIdentical entity) := by
      intro old hold
      obtain ⟨hnan, hflips⟩ := hexact old hold
      constructor
      · intro hsame
        refine (Entity.isIdentical_iff_of_sameAs (hs.id_eq hold) hsame).mpr fun h => ?_
        exact hflips ⟨hsame, h⟩
      · intro hidentical
        exact (Entity.sameAs_iff_of_isIdentical hidentical).mpr fun h => hnan ⟨hidentical, h⟩
    refine ⟨fun old hold => ?_, ?_⟩
    · rw [register_eq_self_iff hs hnext hold, hidentical old hold]
    · rcases register_cases hs hnext with ⟨hsame, old, hold, hcounts⟩ | ⟨-, hstored, -⟩
      · exact ⟨old, by rw [hsame, hold], (hidentical old hold).mp hcounts⟩
      · exact ⟨entity, hstored, .refl entity⟩

/-- A registered value is always accepted again. -/
lemma register_self (hs : store.current.WellFormed) (hexclusive : store.current.Exclusive)
    {id : EntityId} (hold : store.get? id = some old) :
    ∃ next, store.register old = .ok next ∧ (next.1 = store ↔ ¬old.HasNaN) := by
  obtain rfl : old.id = id := hs.id_eq hold
  obtain ⟨next, hnext⟩ := exists_register_of_has_eq hs hexclusive hold fun _ => rfl
  exact ⟨next, hnext, (register_eq_self_iff hs hnext hold).trans
    (Entity.sameAs_iff_of_isIdentical (.refl old))⟩

/-- **When registering notices exactly what has changed.**  In a store that commands have led to,
registering a value is faithful unless its entity is registered with an identical value that has a
NaN in a vector, or with one that counts as the same and differs in the sign of a zero in a vector.
A registered value is always accepted again, and this leaves the store as it is unless there is a
NaN in a vector of it. -/
theorem registersFaithfully_iff (schema : Schema) (historyDepth : Nat)
    (commands : List StoreCommand) :
    (∀ entity, ((empty schema historyDepth).run commands).RegistersFaithfully entity ↔
      ∀ old, ((empty schema historyDepth).run commands).get? entity.id = some old →
        ¬(old.IsIdentical entity ∧ entity.HasNaN) ∧
          ¬(old.SameAs entity ∧ old.FlipsZero entity)) ∧
    ∀ id old, ((empty schema historyDepth).run commands).get? id = some old →
      ∃ next, ((empty schema historyDepth).run commands).register old = .ok next ∧
        (next.1 = (empty schema historyDepth).run commands ↔ ¬old.HasNaN) := by
  have hs := (wellFormed_run schema historyDepth commands).current.2
  have hexclusive := exclusive_run schema historyDepth commands
  exact ⟨registersFaithfully_iff_of_wellFormed hs hexclusive,
    fun _ _ => register_self hs hexclusive⟩

/-- An entity with a component that holds a vector. -/
def placedEntity (c : ComponentId) (x : Float32) : Entity :=
  (Entity.bare ⟨1⟩).set c (.vec2 ⟨#v[x, 1]⟩)

lemma get?_placedEntity (c : ComponentId) (x : Float32) (d : ComponentId) :
    (placedEntity c x).get? d = if d = c then some (.vec2 ⟨#v[x, 1]⟩) else none := by
  rw [placedEntity, Entity.get?_set]
  rfl

lemma get?_run_placedEntity (x : Float32) :
    ((empty typedSchema 0).run [.register (placedEntity ⟨0, by decide⟩ x)]).get? ⟨1⟩ =
      some (placedEntity ⟨0, by decide⟩ x) := by
  obtain ⟨change, hchange⟩ : ∃ change,
      (StoreState.empty typedSchema).register (placedEntity ⟨0, by decide⟩ x) = .ok change :=
    ⟨_, rfl⟩
  have hregister : (empty typedSchema 0).register (placedEntity ⟨0, by decide⟩ x) =
      .ok ((empty typedSchema 0).commit change, change.2) :=
    register_eq_ok_iff.mpr ⟨change, hchange, rfl⟩
  rw [run_cons, run_nil, perform_register hchange]
  rcases register_cases (wellFormed_empty typedSchema 0).current.2 hregister with
    ⟨-, old, hold, -⟩ | ⟨-, hstored, -⟩
  · cases hold
  · exact hstored

/-- The sign of a zero is lost when an entity is registered with it, and an entity at no place
counts as changed when it is registered again. -/
theorem not_forall_registersFaithfully :
    (¬∀ (schema : Schema) (historyDepth : Nat) (commands : List StoreCommand) (entity : Entity),
      ((empty schema historyDepth).run commands).RegistersFaithfully entity) ∧
    ¬∀ (schema : Schema) (historyDepth : Nat) (commands : List StoreCommand) (id : EntityId)
      (old : Entity), ((empty schema historyDepth).run commands).get? id = some old →
      ∀ next, ((empty schema historyDepth).run commands).register old = .ok next →
        next.1 = (empty schema historyDepth).run commands := by
  have hs := fun x => (wellFormed_run typedSchema 0
    [.register (placedEntity ⟨0, by decide⟩ x)]).current.2
  have hexclusive := fun x => exclusive_run typedSchema 0
    [.register (placedEntity ⟨0, by decide⟩ x)]
  constructor
  · intro hfaithful
    have hexact := (registersFaithfully_iff_of_wellFormed (hs 0) (hexclusive 0) _).mp
      (hfaithful typedSchema 0 _ (placedEntity ⟨0, by decide⟩ (-0))) _ (get?_run_placedEntity 0)
    refine hexact.2 ⟨fun c => ?_, ⟨0, by decide⟩, _, _, get?_placedEntity _ 0 _,
      get?_placedEntity _ (-0) _, 0, .inl ⟨rfl, rfl⟩⟩
    rw [get?_placedEntity, get?_placedEntity]
    split
    · decide +kernel
    · rfl
  · intro hself
    obtain ⟨next, hnext, hsame⟩ :=
      register_self (hs (0 / 0)) (hexclusive (0 / 0)) (get?_run_placedEntity (0 / 0))
    have hnan := hself typedSchema 0 _ ⟨1⟩ _ (get?_run_placedEntity (0 / 0)) next hnext
    refine hsame.mp hnan ⟨⟨0, by decide⟩, _, get?_placedEntity _ (0 / 0) _, 0, ?_⟩
    decide +kernel

end Store

end SceneEngine
