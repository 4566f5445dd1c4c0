import SceneEngine.Proofs.Store.InPlace

/-!
# Previous values

Writing a component in place leaves its old value readable, so that whoever reacts to the change can
compare the two.  One might expect the old value to stay readable until the component is written
again or goes.  It does not always: registering a value of the entity makes a new record, in which
nothing is remembered, also of components that the value leaves alone.  This module says exactly
what can be read after a run.

## What each commit does

`StoreState.previousComponent?_updateInPlace` and `StoreState.previousComponent?_flagUpdate` say
that writing and marking in place keep all previous values but the one that is written.
`StoreState.previousComponent?_register` says that a registration with effect forgets all those of
its entity.  A registration without effect keeps the record, and with it what is remembered.

## What a run does

A run is looked at from the last write in place to the component (`Store.LastWrite`).  After that,
the component can be read as long as its entity stays registered and no command registers a value of
it with effect (`Moment.registers`, `Store.previousComponent?_run`).

## Main results

`Store.RemembersPrevious` is what one might expect: the value before the last write can be read if
since then the component has changed only in place (`Moment.LeavesComponent`).
`Store.remembersPrevious_iff` says when a run has this property, and what can be read if it has not:
nothing.  `Store.not_forall_remembersPrevious` is the run in which another component is added.
-/

namespace SceneEngine

/-! ## Commits -/

namespace StoreState

variable {state : StoreState} {next : StoreState × Commit} {id id' : EntityId} {c d : ComponentId}

/-- Registering a value that is a change forgets what components of the entity held before. -/
lemma previousComponent?_register {entity : Entity} (hs : state.WellFormed)
    (h : state.register entity = .ok next) (heffective : next.2.isNoop = false) :
    next.1.previousComponent? entity.id c = none := by
  rcases register_cases hs h with ⟨-, hnoop⟩ | hadvance
  · rw [heffective] at hnoop
    cases hnoop
  · rw [previousComponent?, hadvance.record_eq, if_pos (commit_of_register h).1.symm]
    rfl

/-- Writing in place makes the old value the previous one, and keeps all other previous values. -/
lemma previousComponent?_updateInPlace {f : ComponentValue → ComponentValue}
    (h : state.updateInPlace id c f = .ok next) :
    next.1.previousComponent? id' d = if id' = id ∧ d = c then (state.get? id).bind (·.get? c)
      else state.previousComponent? id' d := by
  rw [updateInPlace] at h
  split at h
  · cases h
  next record hrecord =>
    split at h
    · cases h
    next old hold =>
      cases h
      change ((state.withRecord id (state.updatedRecord record c old (f old))).entities.get?
        id').bind _ = _
      rw [withRecord, OrderedMap.get?_insert]
      by_cases hid : id' = id
      · subst hid
        rw [if_pos rfl, Option.bind_some, previous?_updatedRecord, get?, hrecord, Option.map_some,
          Option.bind_some, hold, previousComponent?, hrecord, Option.bind_some]
        simp only [true_and]
      · rw [if_neg hid, if_neg fun h => hid h.1, previousComponent?]

/-- Marking a component as changed keeps all previous values. -/
lemma previousComponent?_flagUpdate (h : state.flagUpdate id c = .ok next) :
    next.1.previousComponent? id' d = state.previousComponent? id' d := by
  rw [flagUpdate] at h
  split at h
  · cases h
  next record hrecord =>
    split at h
    · cases h
    · cases h
      rw [previousComponent?, OrderedMap.get?_insert]
      split
      next hid =>
        rw [hid, previousComponent?, hrecord]
        rfl
      · rfl

end StoreState

/-! ## Moments -/

namespace Moment

/-- A value of an entity is registered, with effect.  Making a new entity under its id counts as
well. -/
def registers (moment : Moment) (id : EntityId) : Bool :=
  match moment.command with
  | .register _ | .quickEntity .. =>
    (moment.before.effect? moment.command).any fun commit => decide (commit.id = id)
  | _ => false

/-- An entity stays registered, and a component of it changes only by being written or marked in
place. -/
structure LeavesComponent (moment : Moment) (id : EntityId) (name : String) : Prop where
  /-- The entity is registered afterwards. -/
  stays : (moment.after.get? id).isSome = true
  /-- A commit that lists the component as changed comes from writing or marking it. -/
  in_place : ∀ commit c, moment.before.effect? moment.command = some commit → commit.id = id →
    moment.before.schema.id? name = some c → commit.changed.contains c = true →
    moment.command = .flagUpdate id name ∨ ∃ f, moment.command = .updateInPlace id name f

end Moment

namespace Store

variable {schema : Schema} {store start : Store} {id : EntityId} {name : String}
  {command : StoreCommand} {commands later : List StoreCommand} {old : ComponentValue}

/-- Accepting a value with effect registers it at that moment. -/
lemma registers_eq {next : StoreState × Commit} {record? : Option EntityRecord}
    (hproposal : store.proposal? command = some next)
    (hadvance : store.current.Advances next record?)
    (hcommand : (∃ entity, command = .register entity) ∨
      ∃ other components, command = .quickEntity other components) :
    Moment.registers ⟨store, command⟩ id = decide (next.2.id = id) := by
  have heffect := effect?_of_advances hproposal hadvance
  rcases hcommand with ⟨entity, rfl⟩ | ⟨other, components, rfl⟩
  · rw [Moment.registers, heffect, Option.any_some]
  · rw [Moment.registers, heffect, Option.any_some]

/-- What a component held before can still be read after a command that does not write it, unless
the command registers a value of the entity. -/
lemma previousComponent?_perform (hs : store.current.WellFormed)
    (hother : ∀ f, command ≠ .updateInPlace id name f)
    (hstays : ((store.perform command).get? id).isSome = true) :
    (store.perform command).previousComponent? id name =
      if Moment.registers ⟨store, command⟩ id then none else store.previousComponent? id name := by
  rcases perform_cases hs command with
    ⟨heffect, hcurrent⟩ | ⟨next, record?, hproposal, hadvance, hperform⟩
  · have hregisters : Moment.registers ⟨store, command⟩ id = false := by
      unfold Moment.registers
      dsimp only
      split <;> simp [heffect]
    rw [hregisters, if_neg Bool.false_ne_true, previousComponent?, schema, hcurrent]
    rfl
  · have hcommit : (store.perform command).current = next.1 := by
      rw [hperform, commit_eq hadvance.effective]
    have hschema : (store.perform command).schema = store.schema := by
      rw [schema, hcommit, hadvance.schema_eq, schema]
    -- it is enough to look at the state, component by component
    suffices ∀ c, store.schema.id? name = some c → next.1.previousComponent? id c =
        if Moment.registers ⟨store, command⟩ id then none
        else store.current.previousComponent? id c by
      rw [previousComponent?, previousComponent?, hschema, hcommit]
      cases hname : store.schema.id? name with
      | none => split <;> rfl
      | some c => exact this c hname
    intro c hname
    have hothers : id ≠ next.2.id →
        next.1.previousComponent? id c = store.current.previousComponent? id c := by
      intro hid
      rw [StoreState.previousComponent?, hadvance.record_eq, if_neg hid,
        StoreState.previousComponent?]
    have hregisters : ∀ entity, store.current.register entity = .ok next →
        next.1.previousComponent? id c =
          if decide (next.2.id = id) then none
          else store.current.previousComponent? id c := by
      intro entity h
      by_cases hid : next.2.id = id
      · rw [decide_eq_true hid, if_pos rfl, ← hid, (StoreState.commit_of_register h).1]
        exact StoreState.previousComponent?_register hs h hadvance.effective
      · rw [decide_eq_false hid, if_neg Bool.false_ne_true]
        exact hothers (Ne.symm hid)
    -- registering, removing, making, writing, marking; the other commands make no commit
    cases command with
    | register entity =>
      rw [registers_eq hproposal hadvance (.inl ⟨entity, rfl⟩)]
      exact hregisters entity (toOption_eq_some_iff.mp hproposal)
    | quickEntity other components =>
      obtain ⟨entity, -, h⟩ := Option.bind_eq_some_iff.mp hproposal
      rw [registers_eq hproposal hadvance (.inr ⟨other, components, rfl⟩)]
      exact hregisters entity (toOption_eq_some_iff.mp h)
    | deregister other =>
      refine hothers fun hid => ?_
      have hafter : next.2.after? = none := by
        obtain ⟨record, -, rfl⟩ := Option.map_eq_some_iff.mp hproposal
        rfl
      rw [hperform, get?_commit hadvance, if_pos hid, hafter] at hstays
      cases hstays
    | updateInPlace other name' f =>
      obtain ⟨c', hc', h⟩ := Option.bind_eq_some_iff.mp hproposal
      have hname' := componentId_eq_ok_iff.mp (toOption_eq_some_iff.mp hc')
      refine (StoreState.previousComponent?_updateInPlace (toOption_eq_some_iff.mp h)).trans
        (if_neg ?_)
      rintro ⟨rfl, rfl⟩
      have hsame : name' = name :=
        (Schema.of_id?_eq_some hname').2.symm.trans (Schema.of_id?_eq_some hname).2
      exact hother f (by rw [hsame])
    | flagUpdate other name' =>
      obtain ⟨c', -, h⟩ := Option.bind_eq_some_iff.mp hproposal
      exact StoreState.previousComponent?_flagUpdate (toOption_eq_some_iff.mp h)
    | createQuery | createConsumer | resetConsumer | drain | matching => cases hproposal

/-- What a component held before can still be read after commands that do not write it, unless one
of them registers a value of the entity. -/
lemma previousComponent?_run (hs : store.WellFormed schema)
    (hlast : ∀ f, .updateInPlace id name f ∉ later)
    (hstays : ∀ moment ∈ store.moments later, (moment.after.get? id).isSome = true) :
    (store.run later).previousComponent? id name =
      if (store.moments later).any (·.registers id) then none
      else store.previousComponent? id name := by
  induction later generalizing store with
  | nil => rfl
  | cons command later ih =>
    obtain ⟨hfirst, hrest⟩ := List.forall_mem_cons.mp hstays
    have hother : ∀ f, command ≠ .updateInPlace id name f :=
      fun f h => hlast f (h ▸ List.mem_cons_self)
    rw [run_cons, ih (wellFormed_perform store command hs)
      (fun f hmem => hlast f (List.mem_cons_of_mem command hmem)) hrest,
      previousComponent?_perform hs.current.2 hother hfirst, moments, List.any_cons]
    cases Moment.registers ⟨store, command⟩ id with
    | true => simp
    | false => simp

/-! ## Runs -/

/-- How a run ends after the last write in place to a component: what the component held before that
write, the store that the write left, and the commands since. -/
structure LastWrite (store : Store) (id : EntityId) (name : String) (commands : List StoreCommand)
    (old : ComponentValue) (start : Store) (later : List StoreCommand) : Prop where
  /-- The run comes to the write, which succeeds, -/
  exists_write : ∃ earlier f, commands = earlier ++ .updateInPlace id name f :: later ∧
    (store.run earlier).getComponent? id name = some old ∧
    (store.run earlier).updateInPlace id name f = .ok start
  /-- and after it there is none to this component. -/
  last : ∀ f, .updateInPlace id name f ∉ later

/-- After a run, the value that a component held before it was last written in place can be read, if
since then the entity has stayed registered and the component has changed only in place. -/
def RemembersPrevious (store : Store) (id : EntityId) (name : String)
    (commands : List StoreCommand) : Prop :=
  ∀ old start later, store.LastWrite id name commands old start later →
    (∀ moment ∈ start.moments later, moment.LeavesComponent id name) →
      (store.run commands).previousComponent? id name = some old

/-- What can be read after the last write in place: nothing, if a value of the entity has been
registered since then, and otherwise what the component held before. -/
lemma LastWrite.previousComponent?_eq (hs : store.WellFormed schema)
    (h : store.LastWrite id name commands old start later)
    (hleaves : ∀ moment ∈ start.moments later, moment.LeavesComponent id name) :
    (store.run commands).previousComponent? id name =
      if (start.moments later).any (·.registers id) then none else some old := by
  obtain ⟨⟨earlier, f, rfl, hold, hstart⟩, hlast⟩ := h
  have hearlier := run_preserves wellFormed_perform hs earlier
  have hperform : (store.run earlier).perform (.updateInPlace id name f) = start := by
    rw [perform, hstart, orSame_ok]
  have hnext : start.WellFormed schema := hperform ▸ wellFormed_perform _ _ hearlier
  rw [run_append, run_cons, hperform,
    previousComponent?_run hnext hlast fun moment hmoment => (hleaves moment hmoment).stays]
  suffices start.previousComponent? id name = some old by rw [this]
  obtain ⟨c, hc, hcommit⟩ := bind_eq_ok_iff.mp hstart
  obtain ⟨next, hnext, hcommit⟩ := bind_eq_ok_iff.mp hcommit
  obtain ⟨record, hadvance⟩ := StoreState.updateInPlace_advances hearlier.current.2 hnext
  have hname := componentId_eq_ok_iff.mp hc
  have hvalue : ((store.run earlier).current.get? id).bind (·.get? c) = some old := by
    rw [getComponent?, hname] at hold
    exact hold
  have hcurrent : start.current = next.1 := by
    rw [← Except.ok.inj hcommit, commit_eq hadvance.effective]
  rw [previousComponent?, Store.schema, hcurrent, hadvance.schema_eq]
  change ((store.run earlier).schema.id? name).bind _ = _
  rw [hname, Option.bind_some, StoreState.previousComponent?_updateInPlace hnext,
    if_pos ⟨rfl, rfl⟩, hvalue]

/-- **What is remembered.**  A run remembers what a component held before it was last written in
place exactly when no value of the entity is registered after that.  Otherwise nothing is
remembered. -/
theorem remembersPrevious_iff (schema : Schema) (historyDepth : Nat)
    (commands : List StoreCommand) (id : EntityId) (name : String) :
    ((Store.empty schema historyDepth).RemembersPrevious id name commands ↔
      ∀ old start later,
        (Store.empty schema historyDepth).LastWrite id name commands old start later →
        (∀ moment ∈ start.moments later, moment.LeavesComponent id name) →
          ∀ moment ∈ start.moments later, moment.registers id = false) ∧
    ∀ old start later,
      (Store.empty schema historyDepth).LastWrite id name commands old start later →
      (∀ moment ∈ start.moments later, moment.LeavesComponent id name) →
      (∃ moment ∈ start.moments later, moment.registers id = true) →
        ((Store.empty schema historyDepth).run commands).previousComponent? id name = none := by
  have hs := wellFormed_empty schema historyDepth
  have hforgets : ∀ old start later,
      (Store.empty schema historyDepth).LastWrite id name commands old start later →
      (∀ moment ∈ start.moments later, moment.LeavesComponent id name) →
      (∃ moment ∈ start.moments later, moment.registers id = true) →
        ((Store.empty schema historyDepth).run commands).previousComponent? id name = none := by
    intro old start later hwrite hleaves hregisters
    rw [hwrite.previousComponent?_eq hs hleaves, if_pos (List.any_eq_true.mpr hregisters)]
  refine ⟨⟨fun hremembers old start later hwrite hleaves moment hmoment => ?_,
    fun hnone old start later hwrite hleaves => ?_⟩, hforgets⟩
  · rw [← Bool.not_eq_true]
    intro hregisters
    have hsome := hremembers old start later hwrite hleaves
    rw [hforgets old start later hwrite hleaves ⟨moment, hmoment, hregisters⟩] at hsome
    cases hsome
  · rw [hwrite.previousComponent?_eq hs hleaves, if_neg]
    rw [Bool.not_eq_true, List.any_eq_false]
    intro moment hmoment
    rw [hnone old start later hwrite hleaves moment hmoment]
    exact Bool.false_ne_true

/-- A schema with two components. -/
def pairSchema : Schema where
  defs := [{ name := "p", default := .null }, { name := "q", default := .null }]
  length_le := by decide
  nodup := by decide

/-- An entity with a number as its first component. -/
def numbered (n : Int) : Entity := (pairSchema.addComponent (.bare ⟨1⟩) "p" (some (.int n))).1

/-- The entity is registered with one component. -/
def placedCommands : List StoreCommand := [.register (numbered 1)]

/-- The component is written in place. -/
def writeP : StoreCommand := .updateInPlace ⟨1⟩ "p" fun _ => .int 2

/-- The entity is given the other component. -/
def addQ : StoreCommand := .register (pairSchema.addComponent (numbered 2) "q" none).1

/-- Another component makes the old value unreadable. -/
theorem not_forall_remembersPrevious :
    ¬∀ (schema : Schema) (historyDepth : Nat) (commands : List StoreCommand) (id : EntityId)
      (name : String), (Store.empty schema historyDepth).RemembersPrevious id name commands := by
  intro h
  have hwrite : (Store.empty pairSchema 0).LastWrite ⟨1⟩ "p" (placedCommands ++ [writeP, addQ])
      (.int 1) (((Store.empty pairSchema 0).run placedCommands).perform writeP) [addQ] :=
    ⟨⟨placedCommands, fun _ => .int 2, rfl, rfl, rfl⟩, by simp [addQ]⟩
  have hsome := h pairSchema 0 (placedCommands ++ [writeP, addQ]) ⟨1⟩ "p" (.int 1) _ [addQ] hwrite
    fun moment hmoment => ?_
  · cases hsome
  · obtain rfl := List.mem_singleton.mp hmoment
    have hchanged : ((((Store.empty pairSchema 0).run placedCommands).perform writeP).effect?
        addQ).all (fun commit => !commit.changed.contains ⟨0, by decide⟩) = true := by
      decide +kernel
    refine ⟨by decide +kernel, fun commit c heffect _ hname hcontains => ?_⟩
    obtain rfl : (⟨0, by decide⟩ : ComponentId) = c := Option.some.inj hname
    rw [heffect, Option.all_some, hcontains] at hchanged
    cases hchanged

end Store

end SceneEngine
