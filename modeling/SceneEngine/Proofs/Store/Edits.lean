import SceneEngine.Proofs.Store.Comparing

/-!
# Edits come to the same as operations

An operation either gives a new store or is refused, so by its type alone a refused operation leaves
no trace.  That says nothing about a store that is changed in place, where a check that comes too
late leaves half of a change behind.  Edits are such changes: an edit works on the store itself, and
when it fails, what it has changed by then stays changed.  Here the two are shown to agree.

## Outcomes

`outcomeOf` is the outcome of an edit that comes to the same as an operation: what the operation
gives, or its reason, and then the store as it was before.  Every edit is shown to have such an
outcome, in three layers.

* `StateEdit.register_eq`, `StateEdit.deregister_eq`, `StateEdit.updateInPlace_eq` and
  `StateEdit.flagUpdate_eq` are about states.  Registering is the long one, since in place it goes
  once through the slots (`Proofs/Store/Comparing`).
* `StoreEdit.run_commit` is about committing: a store that keeps no earlier states has its state
  edited itself, another one has a copy edited, and both come to the same.
* `StoreEdit.carryOut_eq` is about every command of a store.

What they need of the store is that it is `Store.Sound`: its states are well-formed, and it keeps no
more of them than its depth allows.

## Main results

A store that is edited goes through the same states as one that operations rebuild
(`Store.editAll_eq_run`), so what is shown of runs elsewhere holds of edited stores too.  And
refused edits leave no trace: when an edit fails, or is to remove an entity and finds none, the
store that it leaves is the one that it found (`Store.refusal_leaves_no_trace`).
-/

namespace SceneEngine

variable {σ α β : Type}

/-! ## Outcomes -/

/-- The outcome of an edit that comes to the same as an attempt: what the attempt gives, or its
reason, and then nothing has changed. -/
def outcomeOf (before : σ) : Except StoreError (α × σ) → EStateM.Result StoreError σ α
  | .ok (a, after) => .ok a after
  | .error reason => .error reason before

section

variable {before after : σ} {a : α} {reason : StoreError} {edit : EStateM StoreError σ α}
  {f : α → EStateM StoreError σ β}

lemma run_bind_of_ok (edit : EStateM StoreError σ α) (h : edit.run before = .ok a after) :
    (edit >>= f).run before = (f a).run after := by
  rw [EStateM.run] at h
  simp only [EStateM.run, bind, EStateM.bind, h]

lemma run_bind_of_error (h : edit.run before = .error reason after) :
    (edit >>= f).run before = .error reason after := by
  rw [EStateM.run] at h
  simp only [EStateM.run, bind, EStateM.bind, h]

/-- An edit that goes on to answer something else. -/
lemma run_bind_pure {attempt : Except StoreError (α × σ)}
    (h : edit.run before = outcomeOf before attempt) (g : α → β) :
    (edit >>= fun a => pure (g a)).run before =
      outcomeOf before (attempt.map fun result => (g result.1, result.2)) := by
  cases attempt with
  | error reason => exact run_bind_of_error h
  | ok result => exact run_bind_of_ok edit h

end

namespace StoreState

variable {state : StoreState}

/-- A value that is no change moves nothing in the index.  The edit reindexes before it knows
whether anything changes, so this is what keeps a registration without effect from leaving a trace.
-/
lemma reindex_of_noop {entity : Entity}
    (hchanged : (ComponentSet.ofList (lostComponents (state.get? entity.id) entity ++
      writtenComponents (state.entities.get? entity.id) entity)).isEmpty = true) :
    reindex state.index entity.id (lostComponents (state.get? entity.id) entity)
      (gainedComponents (state.get? entity.id) entity) = state.index := by
  have hnone : ∀ c, c ∉ lostComponents (state.get? entity.id) entity ++
      writtenComponents (state.entities.get? entity.id) entity := by
    intro c hc
    rw [← ComponentSet.contains_ofList, ComponentSet.isEmpty_iff.mp hchanged,
      ComponentSet.contains_empty] at hc
    cases hc
  have hlost : lostComponents (state.get? entity.id) entity = [] :=
    List.eq_nil_iff_forall_not_mem.mpr fun c hc => hnone c (List.mem_append_left _ hc)
  have hgained : gainedComponents (state.get? entity.id) entity = [] := by
    refine List.eq_nil_iff_forall_not_mem.mpr fun c hc => ?_
    obtain ⟨hhas, hnew⟩ := mem_gainedComponents.mp hc
    obtain ⟨slot, hslot, rfl⟩ := List.mem_map.mp (Entity.mem_components.mpr hhas)
    refine hnone slot.1 (List.mem_append_right _ (List.mem_map_of_mem (List.mem_filter.mpr
      ⟨hslot, ?_⟩)))
    cases hrecord : state.entities.get? entity.id with
    | none => rfl
    | some record =>
      have hold : record.entity.get? slot.1 = none := by
        rw [Entity.get?_eq_none_iff, ← Bool.not_eq_true]
        exact fun h => hnew ⟨record.entity, by rw [get?, hrecord, Option.map_some], h⟩
      rw [Option.bind_some, EntityRecord.keptVersion?, hold]
      rfl
  rw [hlost, hgained, reindex, List.foldl_nil, List.foldl_nil]

/-- What can come of a commit to a state: nothing has changed, or the state has advanced. -/
def Allows (state : StoreState) (next : StoreState × Commit) : Prop :=
  (next.1 = state ∧ next.2.isNoop = true) ∨ ∃ record?, state.Advances next record?

variable {next : StoreState × Commit} {id : EntityId} {c : ComponentId}

lemma allows_register (hs : state.WellFormed) {entity : Entity}
    (h : state.register entity = .ok next) : state.Allows next :=
  (register_cases hs h).imp_right fun hadvance => ⟨_, hadvance⟩

lemma allows_deregister? (hs : state.WellFormed) (h : state.deregister? id = some next) :
    state.Allows next :=
  .inr ⟨_, deregister?_advances hs h⟩

lemma allows_updateInPlace (hs : state.WellFormed) {f : ComponentValue → ComponentValue}
    (h : state.updateInPlace id c f = .ok next) : state.Allows next := by
  obtain ⟨record, hadvance⟩ := updateInPlace_advances hs h
  exact .inr ⟨_, hadvance⟩

lemma allows_flagUpdate (hs : state.WellFormed) (h : state.flagUpdate id c = .ok next) :
    state.Allows next := by
  obtain ⟨record, hadvance⟩ := flagUpdate_advances hs h
  exact .inr ⟨_, hadvance⟩

end StoreState

/-! ## Edits of a state -/

namespace StateEdit

variable {state : StoreState} {id : EntityId}

/-- Registering in place, with one pass through the slots, comes to the same as registering. -/
theorem register_eq (hs : state.WellFormed) (entity : Entity) :
    (register entity).run state = outcomeOf state ((state.register entity).map Prod.swap) := by
  rw [register, run_bind_of_ok get rfl, StoreState.register]
  -- the two checks come first, before anything is changed
  cases hforeign : state.foreignComponent? entity with
  | some foreign => rfl
  | none =>
    cases hconflict : state.singletonConflict? entity with
    | some conflict => rfl
    | none =>
      have hget : (state.entities.get? entity.id).map EntityRecord.entity =
          state.get? entity.id := rfl
      dsimp only
      rw [Comparison.index_run_start hs, Comparison.versions_run_start hs,
        Comparison.changed_run_start hs, hget, run_bind_of_ok (modify _) rfl]
      split
      next hnoop =>
        rw [StoreState.reindex_of_noop (Bool.and_eq_true_iff.mp hnoop).2]
        rfl
      next => rfl

/-- Taking an entity out of the holders of several components. -/
lemma run_forM_unindex (components : List ComponentId) (state : StoreState) :
    (components.forM (unindex id)).run state = .ok () { state with
      index := components.foldl (fun index c => index.modify c.val (·.erase id)) state.index } := by
  induction components generalizing state with
  | nil => rfl
  | cons c components ih =>
    have hcons : (c :: components).forM (unindex id) =
        unindex id c >>= fun _ => components.forM (unindex id) := rfl
    rw [hcons, run_bind_of_ok (unindex id c) rfl, ih]
    rfl

/-- Removing in place comes to the same as removing. -/
theorem deregister_eq (state : StoreState) (id : EntityId) :
    (deregister id).run state = outcomeOf state
      (match state.deregister? id with
        | none => .error (.unknownEntity id)
        | some next => .ok next.swap) := by
  rw [deregister, run_bind_of_ok get rfl, StoreState.deregister?]
  cases hrecord : state.entities.get? id with
  | none => rfl
  | some record =>
    dsimp only
    rw [run_bind_of_ok (modify _) rfl, run_bind_of_ok _ (run_forM_unindex _ _)]
    rfl

/-- Updating in place comes to the same as updating. -/
theorem updateInPlace_eq (state : StoreState) (id : EntityId) (c : ComponentId)
    (f : ComponentValue → ComponentValue) :
    (updateInPlace id c f).run state =
      outcomeOf state ((state.updateInPlace id c f).map Prod.swap) := by
  rw [updateInPlace, run_bind_of_ok get rfl, StoreState.updateInPlace]
  cases hrecord : state.entities.get? id with
  | none => rfl
  | some record =>
    dsimp only
    cases hold : record.entity.get? c with
    | none => rfl
    | some old =>
      dsimp only
      rw [run_bind_of_ok (editRecord _ _) rfl, run_bind_of_ok (editRecord _ _) rfl,
        run_bind_of_ok (editRecord _ _) rfl, run_bind_of_ok (setVersion _) rfl,
        run_bind_of_ok get rfl]
      simp only [OrderedMap.modify_modify]
      simp only [OrderedMap.modify_eq_insert hrecord, StoreState.get?, OrderedMap.get?_insert,
        if_pos]
      rfl

/-- Flagging in place comes to the same as flagging. -/
theorem flagUpdate_eq (state : StoreState) (id : EntityId) (c : ComponentId) :
    (flagUpdate id c).run state = outcomeOf state ((state.flagUpdate id c).map Prod.swap) := by
  rw [flagUpdate, run_bind_of_ok get rfl, StoreState.flagUpdate]
  cases hrecord : state.entities.get? id with
  | none => rfl
  | some record =>
    dsimp only
    cases hversion : record.version? c with
    | none => rfl
    | some version =>
      dsimp only
      rw [run_bind_of_ok (editRecord _ _) rfl, run_bind_of_ok (setVersion _) rfl]
      simp only [OrderedMap.modify_eq_insert hrecord]
      rfl

end StateEdit
/-! ## Edits of a store -/

/-- What an operation gives besides the store. -/
inductive Answer where
  /-- What a registration has changed. -/
  | committed (commit : Commit)
  /-- The last value of an entity that was removed, if there was one. -/
  | last (entity? : Option Entity)
  /-- The entity that was made and registered. -/
  | entity (id : EntityId)
  /-- Nothing but that it succeeded. -/
  | done
  /-- The handle of a live query. -/
  | query (id : QueryId)
  /-- The handle of a consumer. -/
  | consumer (id : ConsumerId)
  /-- What a consumer had to hand out. -/
  | handedOut (delta : Delta)
  /-- The entities that match a query. -/
  | matched (ids : List EntityId)

/-- Carries out a command in place. -/
def StoreEdit.carryOut : StoreCommand → StoreEdit Answer
  | .register entity => do return .committed (← register entity)
  | .deregister id => do return .last (← deregister id)
  | .quickEntity id components => do return .entity (← quickEntity id components)
  | .updateInPlace id name f => do
    updateInPlace id name f
    return .done
  | .flagUpdate id name => do
    flagUpdate id name
    return .done
  | .createQuery spec => do return .query (← createQuery spec)
  | .createConsumer query => do return .consumer (← createConsumer query)
  | .resetConsumer consumer => do
    resetConsumer consumer
    return .done
  | .drain consumer => do return .handedOut (← drain consumer)
  | .matching query => do return .matched (← matching query)

namespace Store

variable {store : Store} {command : StoreCommand}

/-- What a command gives, unless it is refused. -/
def attempt (store : Store) : StoreCommand → Except StoreError (Answer × Store)
  | .register entity => do
    let (store, commit) ← store.register entity
    return (.committed commit, store)
  | .deregister id =>
    let (last?, store) := store.deregister id
    return (.last last?, store)
  | .quickEntity id components => do return (.entity id, ← store.quickEntity id components)
  | .updateInPlace id name f => do return (.done, ← store.updateInPlace id name f)
  | .flagUpdate id name => do return (.done, ← store.flagUpdate id name)
  | .createQuery spec => do
    let (query, store) ← store.createQuery spec
    return (.query query, store)
  | .createConsumer query => do
    let (consumer, store) ← store.createConsumer query
    return (.consumer consumer, store)
  | .resetConsumer consumer => do return (.done, ← store.resetConsumer consumer)
  | .drain consumer => do
    let (delta, store) ← store.drain consumer
    return (.handedOut delta, store)
  | .matching query =>
    let (ids, store) := store.matching query
    return (.matched ids, store)

/-- Carrying out a command takes what it gives, or nothing. -/
lemma perform_eq_attempt (store : Store) (command : StoreCommand) :
    store.perform command = store.orSame ((store.attempt command).map Prod.snd) := by
  cases command with
  | deregister id => rfl
  | matching query => rfl
  | register entity => rw [perform, attempt]; cases store.register entity <;> rfl
  | quickEntity id components =>
    rw [perform, attempt]; cases store.quickEntity id components <;> rfl
  | updateInPlace id name f =>
    rw [perform, attempt]; cases store.updateInPlace id name f <;> rfl
  | flagUpdate id name => rw [perform, attempt]; cases store.flagUpdate id name <;> rfl
  | createQuery spec => rw [perform, attempt]; cases store.createQuery spec <;> rfl
  | createConsumer query => rw [perform, attempt]; cases store.createConsumer query <;> rfl
  | resetConsumer consumer => rw [perform, attempt]; cases store.resetConsumer consumer <;> rfl
  | drain consumer => rw [perform, attempt]; cases store.drain consumer <;> rfl

/-- The states of a store are well-formed, and it keeps no more of them than its depth allows. -/
structure Sound (schema : Schema) (store : Store) : Prop extends store.WellFormed schema where
  /-- The history is not longer than its depth. -/
  length_le : store.history.length ≤ store.historyDepth

lemma sound_empty (schema : Schema) (historyDepth : Nat) :
    (empty schema historyDepth).Sound schema where
  toWellFormed := wellFormed_empty schema historyDepth
  length_le := Nat.zero_le _

lemma length_pushHistory_le (h : store.history.length ≤ store.historyDepth) :
    store.pushHistory.length ≤ store.historyDepth := by
  rw [pushHistory]
  split
  · exact Nat.zero_le _
  · dsimp only
    split
    · rw [List.length_append, List.length_drop, List.length_singleton]
      omega
    · rw [List.length_append, List.length_singleton]
      omega

lemma sound_perform {schema : Schema} (store : Store) (command : StoreCommand)
    (hs : store.Sound schema) : (store.perform command).Sound schema := by
  refine ⟨wellFormed_perform store command hs.toWellFormed, ?_⟩
  have hstep := step_perform hs.current.2 command
  generalize store.perform command = store' at hstep
  cases hstep with
  | commits _ hadvance =>
    rw [commit_eq hadvance.effective]
    exact length_pushHistory_le hs.length_le
  | idle | startsQuery | startsConsumer | resets | drains | caches => exact hs.length_le

lemma sound_run (schema : Schema) (historyDepth : Nat) (commands : List StoreCommand) :
    ((Store.empty schema historyDepth).run commands).Sound schema :=
  run_preserves sound_perform (sound_empty schema historyDepth) commands

end Store

namespace StoreEdit

variable {schema : Schema} {store : Store}

/-- A store in which a commit has become the current state, and which nothing has followed yet.
This is where the two ways of committing meet, before the live queries and consumers are told. -/
def advanced (store : Store) (next : StoreState × Commit) : Store :=
  if next.2.isNoop then store
  else { store with current := next.1, history := store.pushHistory }

section

variable {edit : StateEdit Commit} {attempt : Except StoreError (StoreState × Commit)}

/-- Editing the current state itself, which a store does that keeps no earlier states. -/
lemma run_onCurrent (hs : store.Sound schema) (hdepth : store.historyDepth = 0)
    (hedit : edit.run store.current = outcomeOf store.current (attempt.map Prod.swap))
    (hallows : ∀ next, attempt = .ok next → store.current.Allows next) :
    (onCurrent edit).run store =
      outcomeOf store (attempt.map fun next => (next.2, advanced store next)) := by
  rw [EStateM.run, onCurrent, hedit]
  cases attempt with
  | error reason => rfl
  | ok next =>
    change EStateM.Result.ok _ _ = EStateM.Result.ok _ (advanced store next)
    rcases hallows next rfl with ⟨hsame, hnoop⟩ | ⟨record?, hadvance⟩
    · rw [advanced, if_pos hnoop, hsame]
    · have hhistory : store.pushHistory = store.history := by
        have hle := hs.length_le
        rw [hdepth, Nat.le_zero] at hle
        rw [Store.pushHistory, if_pos hdepth, List.eq_nil_of_length_eq_zero hle]
      rw [advanced, hadvance.effective, hhistory]
      rfl

/-- Editing a copy of the current state, which takes its place if something has changed. -/
lemma run_onCopy
    (hedit : edit.run store.current = outcomeOf store.current (attempt.map Prod.swap)) :
    (onCopy edit).run store =
      outcomeOf store (attempt.map fun next => (next.2, advanced store next)) := by
  rw [EStateM.run, onCopy, hedit]
  cases attempt with
  | error reason => rfl
  | ok next =>
    change (if next.2.isNoop = true then _ else _) = EStateM.Result.ok _ (advanced store next)
    rw [advanced]
    split
    · rfl
    · rfl

/-- The two ways of committing come to the same. -/
theorem run_commit (attempt : Except StoreError (StoreState × Commit)) (hs : store.Sound schema)
    (hedit : edit.run store.current = outcomeOf store.current (attempt.map Prod.swap))
    (hallows : ∀ next, attempt = .ok next → store.current.Allows next) :
    (commit edit).run store =
      outcomeOf store (attempt.map fun next => (next.2, store.commit next)) := by
  have hadvance : (advance edit).run store =
      outcomeOf store (attempt.map fun next => (next.2, advanced store next)) := by
    rw [advance, run_bind_of_ok get rfl]
    split
    next hdepth => exact run_onCurrent hs hdepth hedit hallows
    next => exact run_onCopy hedit
  rw [commit]
  cases attempt with
  | error reason =>
    exact run_bind_of_error hadvance
  | ok next =>
    rw [run_bind_of_ok _ hadvance, run_bind_of_ok (propagate _) rfl]
    change EStateM.Result.ok next.2 _ = EStateM.Result.ok next.2 (store.commit next)
    rw [Store.commit, advanced]
    split
    · rfl
    · rfl

end

theorem register_eq (hs : store.Sound schema) (entity : Entity) :
    (register entity).run store = outcomeOf store ((store.register entity).map Prod.swap) := by
  rw [register, run_commit _ hs (StateEdit.register_eq hs.current.2 entity) fun _ =>
    StoreState.allows_register hs.current.2, Store.register]
  cases store.current.register entity <;> rfl

theorem deregister_eq (hs : store.Sound schema) (id : EntityId) :
    (deregister id).run store = .ok (store.deregister id).1 (store.deregister id).2 := by
  have hedit := StateEdit.deregister_eq store.current id
  rw [EStateM.run, deregister, Store.deregister]
  cases hnext : store.current.deregister? id with
  | none =>
    rw [hnext] at hedit
    rw [run_commit (.error (.unknownEntity id)) hs hedit]
    · rfl
    · rintro _ ⟨⟩
  | some next =>
    rw [hnext] at hedit
    rw [run_commit (.ok next) hs hedit]
    · rfl
    · rintro _ ⟨⟩
      exact StoreState.allows_deregister? hs.current.2 hnext

theorem quickEntity_eq (hs : store.Sound schema) (id : EntityId)
    (components : List (String × ComponentValue)) :
    (quickEntity id components).run store =
      outcomeOf store ((store.quickEntity id components).map (id, ·)) := by
  rw [quickEntity, run_bind_of_ok get rfl, Store.quickEntity]
  cases store.setComponents (store.schema.createEntity id) components with
  | error reason => rfl
  | ok entity =>
    rw [run_bind_of_ok (ofExcept _) rfl, run_bind_pure (register_eq hs entity) fun _ => id,
      ok_bind]
    cases store.register entity <;> rfl

theorem updateInPlace_eq (hs : store.Sound schema) (id : EntityId) (name : String)
    (f : ComponentValue → ComponentValue) :
    (updateInPlace id name f).run store =
      outcomeOf store ((store.updateInPlace id name f).map ((), ·)) := by
  rw [updateInPlace, run_bind_of_ok get rfl, Store.updateInPlace]
  cases store.componentId name with
  | error reason => rfl
  | ok c =>
    have hcommit := run_commit _ hs (StateEdit.updateInPlace_eq store.current id c f) fun _ =>
      StoreState.allows_updateInPlace hs.current.2
    rw [run_bind_of_ok (ofExcept _) rfl, run_bind_pure hcommit fun _ => (), ok_bind]
    cases store.current.updateInPlace id c f <;> rfl

theorem flagUpdate_eq (hs : store.Sound schema) (id : EntityId) (name : String) :
    (flagUpdate id name).run store = outcomeOf store ((store.flagUpdate id name).map ((), ·)) := by
  rw [flagUpdate, run_bind_of_ok get rfl, Store.flagUpdate]
  cases store.componentId name with
  | error reason => rfl
  | ok c =>
    have hcommit := run_commit _ hs (StateEdit.flagUpdate_eq store.current id c) fun _ =>
      StoreState.allows_flagUpdate hs.current.2
    rw [run_bind_of_ok (ofExcept _) rfl, run_bind_pure hcommit fun _ => (), ok_bind]
    cases store.current.flagUpdate id c <;> rfl

theorem createQuery_eq (store : Store) (spec : QuerySpec) :
    (createQuery spec).run store = outcomeOf store (store.createQuery spec) := by
  rw [createQuery, run_bind_of_ok get rfl, Store.createQuery]
  cases (spec.resolve store.schema).mapError StoreError.query with
  | error reason => rfl
  | ok query =>
    rw [run_bind_of_ok (ofExcept _) rfl, ok_bind]
    cases store.queries.findIdx? (·.query == query) <;> rfl

theorem createConsumer_eq (store : Store) (query : QueryId) :
    (createConsumer query).run store = outcomeOf store (store.createConsumer query) := by
  rw [createConsumer, run_bind_of_ok get rfl, Store.createConsumer]
  cases store.query query <;> rfl

section

variable {id : ConsumerId} {query : QueryId} {consumer : Consumer}

/-- Changing what a consumer has to hand out puts another one in its place. -/
lemma run_editConsumer (h : store.consumer id = .ok (query, consumer)) (f : Consumer → Consumer) :
    (editConsumer id f).run store = .ok () (store.setConsumer id query (f consumer)) := by
  have hmodify : (store.consumers.modify id.index fun entry => (entry.1, f entry.2)) =
      store.consumers.set id.index (query, f consumer) := by
    rw [List.modify_eq_set_getElem?, Store.consumer_eq_ok_iff.mp h]
    rfl
  rw [Store.setConsumer, ← hmodify]
  rfl

lemma setConsumer_self (h : store.consumer id = .ok (query, consumer)) :
    store.setConsumer id query consumer = store := by
  obtain ⟨hlt, hget⟩ := List.getElem?_eq_some_iff.mp (Store.consumer_eq_ok_iff.mp h)
  rw [Store.setConsumer, ← hget, List.set_getElem_self]

lemma consumer_setConsumer (h : store.consumer id = .ok (query, consumer)) (consumer' : Consumer) :
    (store.setConsumer id query consumer').consumer id = .ok (query, consumer') := by
  rw [Store.consumer_eq_ok_iff] at h ⊢
  exact List.getElem?_set_self (List.getElem?_eq_some_iff.mp h).1

lemma setConsumer_setConsumer (store : Store) (id : ConsumerId) (query : QueryId)
    (consumer consumer' : Consumer) :
    (store.setConsumer id query consumer).setConsumer id query consumer' =
      store.setConsumer id query consumer' := by
  simp only [Store.setConsumer, List.set_set]

/-- The members of a query enter one after another, each with an edit of the consumer. -/
lemma run_forM_enter (members : List EntityId) (h : store.consumer id = .ok (query, consumer)) :
    (members.forM fun member => editConsumer id (·.enter member)).run store =
      .ok () (store.setConsumer id query (members.foldl Consumer.enter consumer)) := by
  induction members generalizing store consumer with
  | nil => rw [List.foldl_nil, setConsumer_self h]; rfl
  | cons member members ih =>
    have hcons : ((member :: members).forM fun member => editConsumer id (·.enter member)) =
        editConsumer id (·.enter member) >>= fun _ =>
          members.forM fun member => editConsumer id (·.enter member) := rfl
    rw [hcons, run_bind_of_ok _ (run_editConsumer h _), ih (consumer_setConsumer h _),
      setConsumer_setConsumer, List.foldl_cons]

end

theorem resetConsumer_eq (store : Store) (id : ConsumerId) :
    (resetConsumer id).run store = outcomeOf store ((store.resetConsumer id).map ((), ·)) := by
  rw [resetConsumer, run_bind_of_ok get rfl, Store.resetConsumer]
  cases hconsumer : store.consumer id with
  | error reason => rfl
  | ok entry =>
    obtain ⟨query, consumer⟩ := entry
    rw [run_bind_of_ok (ofExcept _) rfl, ok_bind]
    dsimp only
    cases hquery : store.query query with
    | error reason => rfl
    | ok live =>
      rw [run_bind_of_ok (ofExcept _) rfl, ok_bind,
        run_bind_of_ok _ (run_editConsumer hconsumer Consumer.forget),
        run_forM_enter _ (consumer_setConsumer hconsumer _), setConsumer_setConsumer]
      rfl

theorem drain_eq (store : Store) (id : ConsumerId) :
    (drain id).run store = outcomeOf store (store.drain id) := by
  rw [drain, run_bind_of_ok get rfl, Store.drain]
  cases hconsumer : store.consumer id with
  | error reason => rfl
  | ok entry =>
    obtain ⟨query, consumer⟩ := entry
    rw [run_bind_of_ok (ofExcept _) rfl, ok_bind]
    dsimp only
    rw [run_bind_of_ok _ (run_editConsumer hconsumer _)]
    rfl

/-- **Edits come to the same as operations.** -/
theorem carryOut_eq (hs : store.Sound schema) (command : StoreCommand) :
    (carryOut command).run store = outcomeOf store (store.attempt command) := by
  cases command with
  | register entity =>
    rw [carryOut, run_bind_pure (register_eq hs entity), Store.attempt]
    cases store.register entity <;> rfl
  | deregister id => exact run_bind_of_ok _ (deregister_eq hs id)
  | quickEntity id components =>
    rw [carryOut, run_bind_pure (quickEntity_eq hs id components), Store.attempt]
    cases store.quickEntity id components <;> rfl
  | updateInPlace id name f =>
    rw [carryOut, run_bind_pure (updateInPlace_eq hs id name f), Store.attempt]
    cases store.updateInPlace id name f <;> rfl
  | flagUpdate id name =>
    rw [carryOut, run_bind_pure (flagUpdate_eq hs id name), Store.attempt]
    cases store.flagUpdate id name <;> rfl
  | createQuery spec =>
    rw [carryOut, run_bind_pure (createQuery_eq store spec), Store.attempt]
    cases store.createQuery spec <;> rfl
  | createConsumer query =>
    rw [carryOut, run_bind_pure (createConsumer_eq store query), Store.attempt]
    cases store.createConsumer query <;> rfl
  | resetConsumer consumer =>
    rw [carryOut, run_bind_pure (resetConsumer_eq store consumer), Store.attempt]
    cases store.resetConsumer consumer <;> rfl
  | drain consumer =>
    rw [carryOut, run_bind_pure (drain_eq store consumer), Store.attempt]
    cases store.drain consumer <;> rfl
  | matching query => rfl

end StoreEdit

/-! ## Stores that are edited -/

namespace Store

variable {store : Store}

/-- The store that an edit leaves, whether it succeeds or fails. -/
def edit (store : Store) (command : StoreCommand) : Store :=
  match (StoreEdit.carryOut command).run store with
  | .ok _ left => left
  | .error _ left => left

/-- Edits a store by one command after another. -/
def editAll (store : Store) (commands : List StoreCommand) : Store := commands.foldl edit store

lemma Sound.edit_eq {schema : Schema} (hs : store.Sound schema) (command : StoreCommand) :
    store.edit command = store.perform command := by
  rw [edit, StoreEdit.carryOut_eq hs, perform_eq_attempt]
  cases store.attempt command <;> rfl

/-- A store that is edited goes through the same states as one that operations rebuild. -/
theorem editAll_eq_run (schema : Schema) (historyDepth : Nat) (commands : List StoreCommand) :
    (empty schema historyDepth).editAll commands = (empty schema historyDepth).run commands := by
  induction commands using List.reverseRecOn with
  | nil => rfl
  | append_singleton commands command ih =>
    have happend : (empty schema historyDepth).editAll (commands ++ [command]) =
        ((empty schema historyDepth).editAll commands).edit command := List.foldl_append
    rw [happend, ih, run_append, (sound_run schema historyDepth commands).edit_eq]
    rfl

/-- Only removing an entity gives its last value, and without one nothing is removed. -/
lemma eq_of_attempt_last {command : StoreCommand} {left : Store}
    (h : store.attempt command = .ok (.last none, left)) : left = store := by
  cases command with
  | deregister id =>
    rw [attempt, deregister] at h
    cases hnext : store.current.deregister? id with
    | none =>
      rw [hnext] at h
      cases h
      rfl
    | some next =>
      obtain ⟨record, -, rfl⟩ := Option.map_eq_some_iff.mp hnext
      rw [hnext] at h
      cases h
  | matching => cases h
  | register | quickEntity | updateInPlace | flagUpdate | createQuery | createConsumer
  | resetConsumer | drain =>
    obtain ⟨_, -, h⟩ := bind_eq_ok_iff.mp h
    cases h

/-- **Refused edits leave no trace.**  When an operation on a store fails, or is to remove an entity
and finds none, the store it leaves is the one it was called on: nothing of the state, the history,
the queries and the consumers has been touched. -/
theorem refusal_leaves_no_trace (schema : Schema) (historyDepth : Nat)
    (commands : List StoreCommand) (command : StoreCommand) (left : Store)
    (hrefused :
      (∃ reason, (StoreEdit.carryOut command).run ((empty schema historyDepth).editAll commands) =
        .error reason left) ∨
      (StoreEdit.carryOut command).run ((empty schema historyDepth).editAll commands) =
        .ok (.last none) left) :
    left = (empty schema historyDepth).editAll commands := by
  have hs := sound_run schema historyDepth commands
  rw [editAll_eq_run] at hrefused ⊢
  generalize (empty schema historyDepth).run commands = store at hs hrefused ⊢
  rw [StoreEdit.carryOut_eq hs] at hrefused
  cases hattempt : store.attempt command with
  | error reason =>
    rw [hattempt] at hrefused
    rcases hrefused with ⟨reason', herror⟩ | hlast
    · cases herror
      rfl
    · cases hlast
  | ok result =>
    rw [hattempt] at hrefused
    rcases hrefused with ⟨reason', herror⟩ | hlast
    · cases herror
    · refine eq_of_attempt_last (hattempt.trans ?_)
      cases result
      cases hlast
      rfl

/-- A schema with a component that only one entity may have. -/
def soleSchema : Schema where
  defs := [{ name := "type", default := .null, singleton := true }]
  length_le := by decide
  nodup := by decide

/-- A second entity with the component of `soleSchema` is refused, by a store that edits its state
itself. -/
theorem second_holder_leaves_no_trace :
    ∃ reason left, (StoreEdit.carryOut (.register (typedEntity ⟨2⟩))).run
        ((empty soleSchema 0).editAll typedCommands) = .error reason left ∧
      left = (empty soleSchema 0).editAll typedCommands := by
  have hfails : (match (StoreEdit.carryOut (.register (typedEntity ⟨2⟩))).run
      ((empty soleSchema 0).editAll typedCommands) with
    | .error _ _ => true
    | .ok _ _ => false) = true := by decide +kernel
  split at hfails
  next reason left hrun =>
    exact ⟨reason, left, hrun,
      refusal_leaves_no_trace soleSchema 0 typedCommands _ left (.inl ⟨reason, hrun⟩)⟩
  next => cases hfails

end Store

end SceneEngine
