import SceneEngine.Proofs.Store.Edits
import SceneEngine.Proofs.Store.Matching
import SceneEngine.Proofs.Store.Registering

/-!
# Components with one holder

A component can be declared for one entity only, such as the camera that is looked through.  The
store has to refuse a second holder, and must not refuse anything else; and whoever is refused
should learn which component it is and who has it.  This module shows that after any run this is so.

## What stands in the way

`Store.Contested` says that an entity wants such a component while another registered entity has it.
It is put in terms of registered values, not of the index that the check looks at.  An entity may
want several contested components; `Store.FirstContested` is the least of them, and the check goes
through the components in ascending order, so this is the one it reports
(`Store.singletonConflict?_eq_some_iff`).

## Why there is one holder

`StoreState.Exclusive` says of a state that no two registered entities share such a component.
Every command keeps it, because a registration is checked and no other commit gives an entity a
component that it did not have (`Store.exclusive_run`).  With it, the holder that stands in the way
is the only one, so it does not matter which the index lists first
(`StoreState.find?_holders_eq_some_iff`).

The main result is `Store.singletons_exclusive`.  It covers the lookup of the holder by name, when a
registration is refused for this reason, what the error says, and that an entity of which nothing is
contested is registered.
-/

namespace SceneEngine

/-- In an ascending list, the first element with a result is the least one. -/
lemma findSome?_eq_some_iff_least {β : Type} {f : ComponentId → Option β} {b : β}
    {l : List ComponentId} (h : l.Pairwise (· < ·)) :
    l.findSome? f = some b ↔ ∃ c ∈ l, f c = some b ∧ ∀ d ∈ l, d < c → f d = none := by
  rw [List.findSome?_eq_some_iff]
  constructor
  · rintro ⟨before, c, after, rfl, hc, hbefore⟩
    refine ⟨c, by simp, hc, fun d hd hlt => ?_⟩
    rcases List.mem_append.mp hd with hd | hd
    · exact hbefore d hd
    · obtain ⟨habove, -⟩ := List.pairwise_cons.mp (List.pairwise_append.mp h).2.1
      rcases List.mem_cons.mp hd with rfl | hd
      · exact absurd hlt (Fin.lt_irrefl d)
      · exact absurd hlt (Fin.lt_asymm (habove d hd))
  · rintro ⟨c, hmem, hc, hleast⟩
    obtain ⟨before, after, rfl⟩ := List.append_of_mem hmem
    refine ⟨before, c, after, rfl, hc, fun d hd => ?_⟩
    have hlt : d < c := (List.pairwise_append.mp h).2.2 d hd c List.mem_cons_self
    exact hleast d (List.mem_append_left _ hd) hlt

namespace Schema

variable {schema : Schema} {c : ComponentId}

/-- A declared component is found under its name. -/
lemma id?_name (hc : c.val < schema.size) : schema.id? (schema.name c) = some c := by
  have hdef : schema.defs[c.val]? = some schema.defs[c.val] := List.getElem?_eq_getElem hc
  have hmem : c ∈ schema.components := by
    rw [components, List.mem_filter, decide_eq_true_iff]
    exact ⟨List.mem_finRange c, hc⟩
  obtain ⟨d, hd⟩ : ∃ d, schema.id? (schema.name c) = some d := by
    refine Option.isSome_iff_exists.mp (List.find?_isSome.mpr ⟨c, hmem, ?_⟩)
    rw [hdef, name, def?, hdef, Option.map_some, Option.getD_some, beq_self_eq_true]
  obtain ⟨hdeclared, hname⟩ := of_id?_eq_some hd
  rw [hd, eq_of_name_eq hdeclared hc hname]

/-- Only a declared component is for one entity. -/
lemma declared_of_isSingleton (h : schema.isSingleton c = true) : c.val < schema.size := by
  rw [isSingleton, def?] at h
  cases hdef : schema.defs[c.val]? with
  | none =>
    rw [hdef] at h
    cases h
  | some d => exact (List.getElem?_eq_some_iff.mp hdef).1

end Schema

namespace StoreState

variable {state : StoreState} {entity : Entity} {c : ComponentId} {holder : EntityId}

/-! ## The first conflict -/

/-- If components are exclusive, the holder that stands in the way is the only one. -/
lemma find?_holders_eq_some_iff (h : state.Exclusive) (hc : state.schema.isSingleton c = true) :
    (state.holders c).toList.find? (· != entity.id) = some holder ↔
      holder ∈ state.holders c ∧ holder ≠ entity.id := by
  constructor
  · intro hfound
    exact ⟨List.mem_of_find?_eq_some hfound, by simpa using List.find?_some hfound⟩
  · rintro ⟨hholds, hother⟩
    obtain ⟨found, hfound⟩ : ∃ found,
        (state.holders c).toList.find? (· != entity.id) = some found :=
      Option.isSome_iff_exists.mp
        (List.find?_isSome.mpr ⟨holder, hholds, by simpa using hother⟩)
    rw [hfound, h c hc found (List.mem_of_find?_eq_some hfound) holder hholds]

end StoreState

namespace Store

/-- A registered entity has a component. -/
def Holds (store : Store) (id : EntityId) (c : ComponentId) : Prop :=
  ∃ value, store.get? id = some value ∧ value.has c = true

/-- An entity wants a component that only one entity may have, and another one, `holder`, has it. -/
structure Contested (store : Store) (entity : Entity) (c : ComponentId) (holder : EntityId) :
    Prop where
  /-- Only one entity may have the component, -/
  singleton : store.schema.isSingleton c = true
  /-- the entity has it, -/
  wanted : entity.has c = true
  /-- and another one -/
  other : holder ≠ entity.id
  /-- is registered with it. -/
  held : store.Holds holder c

/-- The least component of an entity that is contested, with its holder. -/
def FirstContested (store : Store) (entity : Entity) (c : ComponentId) (holder : EntityId) : Prop :=
  store.Contested entity c holder ∧ ∀ d < c, ∀ other, ¬store.Contested entity d other

variable {store : Store} {entity : Entity} {c : ComponentId} {holder : EntityId} {name : String}

/-! ## What stands in the way of an entity -/

/-- The conflict at a component is what is contested there. -/
lemma conflict_iff (hs : store.current.WellFormed) (h : store.current.Exclusive)
    (hwanted : entity.has c = true) (conflict : ComponentId × EntityId) :
    (if store.current.schema.isSingleton c then
        ((store.current.holders c).toList.find? (· != entity.id)).map (c, ·) else none) =
        some conflict ↔
      conflict.1 = c ∧ store.Contested entity c conflict.2 := by
  split
  next hsingleton =>
    rw [Option.map_eq_some_iff]
    constructor
    · rintro ⟨found, hfound, rfl⟩
      obtain ⟨hholds, hother⟩ := (StoreState.find?_holders_eq_some_iff h hsingleton).mp hfound
      exact ⟨rfl, hsingleton, hwanted, hother, (hs.mem_holders c found).mp hholds⟩
    · rintro ⟨hc, hcontested⟩
      have hholds := (hs.mem_holders c conflict.2).mpr hcontested.held
      exact ⟨conflict.2,
        (StoreState.find?_holders_eq_some_iff h hsingleton).mpr ⟨hholds, hcontested.other⟩,
        Prod.ext hc.symm rfl⟩
  next hshared =>
    constructor
    · intro hnone
      cases hnone
    · rintro ⟨-, hcontested⟩
      exact absurd hcontested.singleton hshared

/-- The conflict that the check reports is the first one. -/
lemma singletonConflict?_eq_some_iff (hs : store.current.WellFormed)
    (h : store.current.Exclusive) :
    store.current.singletonConflict? entity = some (c, holder) ↔
      store.FirstContested entity c holder := by
  have hascending : entity.components.Pairwise (· < ·) := List.pairwise_map.mpr entity.ascending
  rw [StoreState.singletonConflict?, findSome?_eq_some_iff_least hascending]
  constructor
  · rintro ⟨d, hd, hfound, hleast⟩
    obtain ⟨rfl, hcontested⟩ := (conflict_iff hs h (Entity.mem_components.mp hd) _).mp hfound
    -- a smaller component that is contested would have been found first
    refine ⟨hcontested, fun e he other hother => ?_⟩
    have hnone := hleast e (Entity.mem_components.mpr hother.wanted) he
    have hsome := (conflict_iff hs h hother.wanted (e, other)).mpr ⟨rfl, hother⟩
    cases hnone.symm.trans hsome
  · rintro ⟨hcontested, hleast⟩
    refine ⟨c, Entity.mem_components.mpr hcontested.wanted,
      (conflict_iff hs h hcontested.wanted (c, holder)).mpr ⟨rfl, hcontested⟩, fun d hd hlt => ?_⟩
    refine Option.eq_none_iff_forall_ne_some.mpr fun conflict hfound => ?_
    have hcontested := ((conflict_iff hs h (Entity.mem_components.mp hd) conflict).mp hfound).2
    exact hleast d hlt conflict.2 hcontested

/-- There is no conflict when nothing is contested. -/
lemma singletonConflict?_eq_none_iff (hs : store.current.WellFormed)
    (h : store.current.Exclusive) :
    store.current.singletonConflict? entity = none ↔
      ∀ c holder, ¬store.Contested entity c holder := by
  constructor
  · intro hnone c holder hcontested
    have hhere := List.findSome?_eq_none_iff.mp hnone c
      (Entity.mem_components.mpr hcontested.wanted)
    have hconflict := (conflict_iff hs h hcontested.wanted (c, holder)).mpr ⟨rfl, hcontested⟩
    cases hhere.symm.trans hconflict
  · intro hfree
    refine Option.eq_none_iff_forall_ne_some.mpr fun conflict hconflict => ?_
    exact hfree _ _ ((singletonConflict?_eq_some_iff hs h).mp hconflict).1

/-- What comes of registering an entity with declared components hangs on the conflict alone. -/
lemma register_eq_of_declared (hdeclared : ∀ c, entity.has c = true → c.val < store.schema.size) :
    (∀ conflict, store.current.singletonConflict? entity = some conflict →
      store.register entity =
        .error (.singletonViolation (store.schema.name conflict.1) conflict.2)) ∧
    (store.current.singletonConflict? entity = none →
      ∃ next, store.register entity = .ok next) := by
  have hforeign : store.current.foreignComponent? entity = none := by
    refine List.find?_eq_none.mpr fun c hc => ?_
    rw [decide_eq_true_iff, Nat.not_le]
    exact hdeclared c (Entity.mem_components.mp hc)
  constructor
  · intro conflict hconflict
    rw [register, StoreState.register, hforeign, hconflict]
    rfl
  · intro hnone
    obtain ⟨change, hchange⟩ := StoreState.exists_register_of_unopposed hforeign hnone
    exact ⟨(store.commit change, change.2), by rw [register, hchange]; rfl⟩

/-- The violation that is reported is the first conflict. -/
lemma register_eq_violation_iff (hs : store.current.WellFormed) (h : store.current.Exclusive)
    (hdeclared : ∀ c, entity.has c = true → c.val < store.schema.size) :
    store.register entity = .error (.singletonViolation name holder) ↔
      ∃ c, name = store.schema.name c ∧ store.FirstContested entity c holder := by
  obtain ⟨hrefused, haccepted⟩ := register_eq_of_declared hdeclared
  constructor
  · intro hregister
    cases hfound : store.current.singletonConflict? entity with
    | none =>
      obtain ⟨next, hnext⟩ := haccepted hfound
      cases hregister.symm.trans hnext
    | some conflict =>
      cases hregister.symm.trans (hrefused conflict hfound)
      exact ⟨conflict.1, rfl, (singletonConflict?_eq_some_iff hs h).mp hfound⟩
  · rintro ⟨c, rfl, hfirst⟩
    exact hrefused (c, holder) ((singletonConflict?_eq_some_iff hs h).mpr hfirst)

/-- The holder of a component is the entity that has it, if there is one. -/
lemma singletonHolder?_eq_some_iff (hs : store.current.WellFormed) (h : store.current.Exclusive)
    (hc : store.schema.isSingleton c = true) {value : Entity} :
    store.singletonHolder? (store.schema.name c) = some value ↔
      store.get? value.id = some value ∧ value.has c = true := by
  have hname := Schema.id?_name (Schema.declared_of_isSingleton hc)
  rw [singletonHolder?, hname]
  change ((store.current.holders c).first?.bind fun id => store.get? id) = some value ↔ _
  rw [Option.bind_eq_some_iff]
  constructor
  · rintro ⟨id, hfirst, hvalue⟩
    obtain ⟨value', hvalue', hhas⟩ := (hs.mem_holders c id).mp (List.mem_of_mem_head? hfirst)
    obtain rfl := Option.some.inj (hvalue.symm.trans hvalue')
    rw [hs.id_eq hvalue]
    exact ⟨hvalue, hhas⟩
  · rintro ⟨hvalue, hhas⟩
    have hholds := (hs.mem_holders c value.id).mpr ⟨value, hvalue, hhas⟩
    obtain ⟨id, hfirst⟩ : ∃ id, (store.current.holders c).first? = some id :=
      Option.isSome_iff_exists.mp
        (List.isSome_head?.mpr (List.ne_nil_of_mem hholds))
    refine ⟨id, hfirst, ?_⟩
    rw [h c hc id (List.mem_of_mem_head? hfirst) value.id hholds]
    exact hvalue

lemma exclusive_run (schema : Schema) (historyDepth : Nat) (commands : List StoreCommand) :
    ((Store.empty schema historyDepth).run commands).current.Exclusive := by
  have hstep : ∀ (store : Store) (command : StoreCommand),
      store.WellFormed schema ∧ store.current.Exclusive →
      (store.perform command).WellFormed schema ∧ (store.perform command).current.Exclusive :=
    fun store command h => ⟨wellFormed_perform store command h.1,
      exclusive_perform h.1.current.2 h.2 command⟩
  exact (run_preserves hstep
    ⟨wellFormed_empty schema historyDepth, StoreState.exclusive_empty schema⟩ commands).2

/-! ## After any run -/

/-- **Components with one holder are exclusive.**  After any run, of a component that only one
entity may have there is at most one registered holder, and that is the entity found under the
component's name.  An entity with declared components is refused for such a component exactly when
another registered entity has one it wants; the error names the least one with its holder, which is
the entity then found under that name.  If nothing is contested, the entity is registered. -/
theorem singletons_exclusive (schema : Schema) (historyDepth : Nat)
    (commands : List StoreCommand) :
    (∀ c, schema.isSingleton c = true →
      (∀ id id', ((Store.empty schema historyDepth).run commands).Holds id c →
        ((Store.empty schema historyDepth).run commands).Holds id' c → id = id') ∧
      ∀ value, ((Store.empty schema historyDepth).run commands).singletonHolder? (schema.name c) =
          some value ↔
        ((Store.empty schema historyDepth).run commands).get? value.id = some value ∧
          value.has c = true) ∧
    ∀ entity : Entity, (∀ c, entity.has c = true → c.val < schema.size) →
      ((∃ name holder, ((Store.empty schema historyDepth).run commands).register entity =
          .error (.singletonViolation name holder)) ↔
        ∃ c holder,
          ((Store.empty schema historyDepth).run commands).Contested entity c holder) ∧
      (∀ name holder, ((Store.empty schema historyDepth).run commands).register entity =
          .error (.singletonViolation name holder) ↔
        ∃ c, name = schema.name c ∧
          ((Store.empty schema historyDepth).run commands).FirstContested entity c holder) ∧
      (∀ name holder, ((Store.empty schema historyDepth).run commands).register entity =
          .error (.singletonViolation name holder) →
        (((Store.empty schema historyDepth).run commands).singletonHolder? name).map Entity.id =
          some holder) ∧
      ((¬∃ c holder,
          ((Store.empty schema historyDepth).run commands).Contested entity c holder) →
        ∃ next, ((Store.empty schema historyDepth).run commands).register entity = .ok next) := by
  have hschema := (wellFormed_run schema historyDepth commands).current
  have h := exclusive_run schema historyDepth commands
  generalize (Store.empty schema historyDepth).run commands = store at hschema h ⊢
  obtain ⟨rfl, hs⟩ := hschema
  refine ⟨fun c hc => ⟨fun id id' hid hid' => ?_, fun value => ?_⟩, fun entity hdeclared => ?_⟩
  · exact h c hc id ((hs.mem_holders c id).mpr hid) id' ((hs.mem_holders c id').mpr hid')
  · exact singletonHolder?_eq_some_iff hs h hc
  have hviolation : ∀ name holder,
      store.register entity = .error (.singletonViolation name holder) ↔
        ∃ c, name = store.schema.name c ∧ store.FirstContested entity c holder :=
    fun _ _ => register_eq_violation_iff hs h hdeclared
  obtain ⟨hrefused, haccepted⟩ := @register_eq_of_declared store entity hdeclared
  refine ⟨⟨?_, ?_⟩, hviolation, fun name holder hregister => ?_, fun hfree => ?_⟩
  · rintro ⟨name, holder, hregister⟩
    obtain ⟨c, -, hfirst⟩ := (hviolation name holder).mp hregister
    exact ⟨c, holder, hfirst.1⟩
  · rintro ⟨c, holder, hcontested⟩
    cases hfound : store.current.singletonConflict? entity with
    | none =>
      exact absurd hcontested ((singletonConflict?_eq_none_iff hs h).mp hfound c holder)
    | some conflict => exact ⟨_, _, hrefused conflict hfound⟩
  · obtain ⟨c, rfl, hfirst⟩ := (hviolation name holder).mp hregister
    obtain ⟨value, hvalue, hhas⟩ := hfirst.1.held
    have hid := hs.id_eq hvalue
    have hholder : store.singletonHolder? (store.schema.name c) = some value :=
      (singletonHolder?_eq_some_iff hs h hfirst.1.singleton).mpr ⟨hid.symm ▸ hvalue, hhas⟩
    exact hid ▸ congrArg (Option.map Entity.id) hholder
  · refine haccepted ((singletonConflict?_eq_none_iff hs h).mpr fun c holder hcontested => ?_)
    exact hfree ⟨c, holder, hcontested⟩

/-- A second entity is refused the component of `soleSchema` while the first is registered, and gets
it afterwards. -/
theorem component_is_handed_over :
    (∃ name holder, ((empty soleSchema 0).run typedCommands).register (typedEntity ⟨2⟩) =
      .error (.singletonViolation name holder)) ∧
    ∃ next, ((empty soleSchema 0).run (typedCommands ++ [.deregister ⟨1⟩])).register
      (typedEntity ⟨2⟩) = .ok next := by
  have hdeclared : ∀ c, (typedEntity ⟨2⟩).has c = true → c.val < soleSchema.size := by
    decide +kernel
  have hholds : (((empty soleSchema 0).run typedCommands).get? ⟨1⟩).any (·.has ⟨0, by decide⟩) =
      true := by decide +kernel
  have hkeys : ((empty soleSchema 0).run
      (typedCommands ++ [.deregister ⟨1⟩])).current.entities.keys = [] := by decide +kernel
  constructor
  · refine ((singletons_exclusive soleSchema 0 typedCommands).2 _ hdeclared).1.mpr ?_
    obtain ⟨value, hvalue, hhas⟩ := (Option.any_eq_true _ _).mp hholds
    exact ⟨⟨0, by decide⟩, ⟨1⟩, by decide, by decide, by decide, value, hvalue, hhas⟩
  · refine ((singletons_exclusive soleSchema 0 _).2 _ hdeclared).2.2.2 ?_
    rintro ⟨c, holder, hcontested⟩
    obtain ⟨value, hvalue, -⟩ := hcontested.held
    rw [get?, StoreState.get?, Option.map_eq_some_iff] at hvalue
    obtain ⟨record, hrecord, -⟩ := hvalue
    have hkey := OrderedMap.mem_keys_iff.mpr ⟨record, hrecord⟩
    rw [hkeys] at hkey
    cases hkey

end Store

end SceneEngine
