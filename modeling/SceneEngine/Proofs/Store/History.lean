import SceneEngine.Proofs.Store.Edits

/-!
# The depth of the history

A store can keep states that commits have replaced, up to a depth that is given when it is made.
The depth changes how the store works: one that keeps earlier states edits a copy of its state, and
one that keeps none edits the state itself.  This module shows that nothing but the history tells
them apart.

## What is compared

Two stores that differ in their depth are given the same commands.  They give the same answers,
which are the commits, deltas, members and refusals (`Store.answers`), and they hold the same
otherwise: `Store.withoutHistory` is a store as it would be without its earlier states, and
everything that operations read goes through it.  The comparison is made where a difference could
arise, on the stores that are edited in place, and not only on the operations that rebuild a store.

## What the history holds

`Store.superseded` collects the states that effective commits replace.  A history holds the last of
them, as many as the depth allows (`Store.KeepsLast`).  A commit that changes nothing replaces
nothing.  The versions of the states that are kept follow each other up to the current one, without
gaps (`KeepsLast.map_version_history`).

The main result is `Store.history_unobservable`.  It rests on `Proofs/Store/Edits`, where edits are
shown to come to the same as operations for any depth, so that here only operations need to be
compared.
-/

namespace SceneEngine

namespace Store

/-- What a command answers, when the store is edited in place. -/
def answer (store : Store) (command : StoreCommand) : Except StoreError Answer :=
  match (StoreEdit.carryOut command).run store with
  | .ok answer _ => .ok answer
  | .error reason _ => .error reason

/-- What commands answer, one after another. -/
def answers (store : Store) : List StoreCommand → List (Except StoreError Answer)
  | [] => []
  | command :: commands => store.answer command :: (store.edit command).answers commands

/-- The states that effective commits replace, oldest first. -/
def superseded (store : Store) : List StoreCommand → List StoreState
  | [] => []
  | command :: commands =>
    let later := (store.edit command).superseded commands
    if (store.effect? command).isSome then store.current :: later else later

/-- A store as it would be if it kept no earlier states. -/
def withoutHistory (store : Store) : Store := { store with history := [], historyDepth := 0 }

/-- A store keeps the last of the states that were replaced, as many as its depth allows, and the
version counts all of them. -/
structure KeepsLast (depth : Nat) (superseded : List StoreState) (store : Store) : Prop where
  /-- The history is what is left when all but the last states are dropped. -/
  history_eq : store.history = superseded.drop (superseded.length - depth)
  /-- The states that were replaced have the versions from the first one on, one after another. -/
  versions_eq : superseded.map StoreState.version = List.range store.current.version

variable {store : Store} {schema : Schema}

/-! ## What goes on without the history -/

@[simp] lemma current_withoutHistory : store.withoutHistory.current = store.current := rfl

@[simp] lemma schema_withoutHistory : store.withoutHistory.schema = store.schema := rfl

@[simp] lemma queries_withoutHistory : store.withoutHistory.queries = store.queries := rfl

@[simp] lemma cache_withoutHistory : store.withoutHistory.cache = store.cache := rfl

@[simp] lemma query_withoutHistory (id : QueryId) :
    store.withoutHistory.query id = store.query id := rfl

@[simp] lemma consumer_withoutHistory (id : ConsumerId) :
    store.withoutHistory.consumer id = store.consumer id := rfl

@[simp] lemma componentId_withoutHistory (name : String) :
    store.withoutHistory.componentId name = store.componentId name := rfl

@[simp] lemma setComponents_withoutHistory (entity : Entity)
    (components : List (String × ComponentValue)) :
    store.withoutHistory.setComponents entity components = store.setComponents entity components :=
  rfl

@[simp] lemma commit_withoutHistory (next : StoreState × Commit) :
    store.withoutHistory.commit next = (store.commit next).withoutHistory := by
  rw [commit, commit]
  split
  · rfl
  · rfl

/-- What is attempted does not depend on the history.  One case for each command; none of them reads
the history, and only commits write it. -/
lemma attempt_withoutHistory (store : Store) (command : StoreCommand) :
    store.withoutHistory.attempt command =
      (store.attempt command).map fun result => (result.1, result.2.withoutHistory) := by
  cases command with
  | register entity =>
    simp only [attempt, register, current_withoutHistory]
    cases store.current.register entity <;> simp [pure, Except.pure]
  | deregister id =>
    simp only [attempt, deregister, current_withoutHistory]
    cases store.current.deregister? id <;> simp [pure, Except.pure]
  | quickEntity id components =>
    simp only [attempt, quickEntity, register, current_withoutHistory, schema_withoutHistory,
      setComponents_withoutHistory]
    cases store.setComponents (store.schema.createEntity id) components with
    | error reason => rfl
    | ok entity =>
      rw [ok_bind, ok_bind]
      cases store.current.register entity <;> simp [pure, Except.pure]
  | updateInPlace id name f =>
    simp only [attempt, updateInPlace, current_withoutHistory, componentId_withoutHistory]
    cases store.componentId name with
    | error reason => rfl
    | ok c =>
      rw [ok_bind, ok_bind]
      cases store.current.updateInPlace id c f <;> simp [pure, Except.pure]
  | flagUpdate id name =>
    simp only [attempt, flagUpdate, current_withoutHistory, componentId_withoutHistory]
    cases store.componentId name with
    | error reason => rfl
    | ok c =>
      rw [ok_bind, ok_bind]
      cases store.current.flagUpdate id c <;> simp [pure, Except.pure]
  | createQuery spec =>
    simp only [attempt, createQuery, current_withoutHistory, schema_withoutHistory,
      queries_withoutHistory]
    cases (spec.resolve store.schema).mapError StoreError.query with
    | error reason => rfl
    | ok query =>
      rw [ok_bind, ok_bind]
      cases store.queries.findIdx? (·.query == query) <;> rfl
  | createConsumer query =>
    simp only [attempt, createConsumer, query_withoutHistory]
    cases store.query query <;> rfl
  | resetConsumer id =>
    simp only [attempt, resetConsumer, query_withoutHistory, consumer_withoutHistory]
    cases store.consumer id with
    | error reason => rfl
    | ok entry =>
      rw [ok_bind, ok_bind]
      cases store.query entry.1 <;> rfl
  | drain id =>
    simp only [attempt, drain, current_withoutHistory, consumer_withoutHistory]
    cases store.consumer id <;> rfl
  | matching query =>
    simp only [attempt, matching, current_withoutHistory, cache_withoutHistory]
    cases store.cache.get? query.name with
    | none => rfl
    | some entry =>
      by_cases hcached : entry.1 = store.current.version
      · simp only [hcached, if_true]
        rfl
      · simp only [hcached, if_false]
        rfl

lemma perform_withoutHistory (store : Store) (command : StoreCommand) :
    store.withoutHistory.perform command = (store.perform command).withoutHistory := by
  rw [perform_eq_attempt, perform_eq_attempt, attempt_withoutHistory]
  cases store.attempt command <;> rfl

lemma effect?_withoutHistory (store : Store) (command : StoreCommand) :
    store.withoutHistory.effect? command = store.effect? command := by
  cases command <;> rfl

/-! ## Edits with and without the history -/

lemma Sound.withoutHistory (h : store.Sound schema) : store.withoutHistory.Sound schema where
  current := h.current
  history := fun _ hstate => absurd hstate List.not_mem_nil
  length_le := Nat.le_refl _

lemma Sound.answer_eq (h : store.Sound schema) (command : StoreCommand) :
    store.answer command = (store.attempt command).map Prod.fst := by
  rw [answer, StoreEdit.carryOut_eq h]
  cases store.attempt command <;> rfl

lemma Sound.answers_withoutHistory (h : store.Sound schema) (commands : List StoreCommand) :
    store.withoutHistory.answers commands = store.answers commands := by
  induction commands generalizing store with
  | nil => rfl
  | cons command commands ih =>
    have hanswer : store.withoutHistory.answer command = store.answer command := by
      rw [h.withoutHistory.answer_eq, h.answer_eq, attempt_withoutHistory]
      cases store.attempt command <;> rfl
    rw [answers, answers, hanswer, h.withoutHistory.edit_eq, h.edit_eq, perform_withoutHistory,
      ih (sound_perform store command h)]

lemma Sound.editAll_withoutHistory (h : store.Sound schema) (commands : List StoreCommand) :
    store.withoutHistory.editAll commands = (store.editAll commands).withoutHistory := by
  induction commands generalizing store with
  | nil => rfl
  | cons command commands ih =>
    rw [editAll, editAll, List.foldl_cons, List.foldl_cons, h.withoutHistory.edit_eq, h.edit_eq,
      perform_withoutHistory]
    exact ih (sound_perform store command h)

lemma Sound.superseded_withoutHistory (h : store.Sound schema) (commands : List StoreCommand) :
    store.withoutHistory.superseded commands = store.superseded commands := by
  induction commands generalizing store with
  | nil => rfl
  | cons command commands ih =>
    rw [superseded, superseded, effect?_withoutHistory, h.withoutHistory.edit_eq, h.edit_eq,
      perform_withoutHistory, ih (sound_perform store command h), current_withoutHistory]

/-! ## What the history holds -/

lemma superseded_append (store : Store) (commands commands' : List StoreCommand) :
    store.superseded (commands ++ commands') =
      store.superseded commands ++ (store.editAll commands).superseded commands' := by
  induction commands generalizing store with
  | nil => rfl
  | cons command commands ih =>
    rw [List.cons_append, superseded, superseded, ih]
    split
    · rfl
    · rfl

/-- A history that holds the last of some states goes on to hold the last of them and the current
one. -/
lemma pushHistory_eq {superseded : List StoreState}
    (h : store.history = superseded.drop (superseded.length - store.historyDepth)) :
    store.pushHistory = (superseded ++ [store.current]).drop
      ((superseded ++ [store.current]).length - store.historyDepth) := by
  rw [pushHistory, List.length_append, List.length_singleton]
  split
  next hdepth =>
    rw [hdepth, List.drop_eq_nil_of_le]
    simp
  next hdepth =>
    have hlength : store.history.length = min superseded.length store.historyDepth := by
      rw [h, List.length_drop]
      omega
    dsimp only
    split
    next hfull =>
      rw [h, List.drop_drop, List.drop_append_of_le_length (by omega)]
      congr 2
      omega
    next hroom =>
      have hless : superseded.length < store.historyDepth := by omega
      rw [h, Nat.sub_eq_zero_of_le (Nat.le_of_lt hless), Nat.sub_eq_zero_of_le hless]
      rfl

/-- A command keeps the last of the states that were replaced: an effective commit adds the state it
replaces, and nothing else adds any. -/
lemma Sound.keepsLast_perform (h : store.Sound schema) {depth : Nat} {superseded : List StoreState}
    (hdepth : store.historyDepth = depth) (hkeeps : store.KeepsLast depth superseded)
    (command : StoreCommand) :
    (store.perform command).historyDepth = depth ∧
      (store.perform command).KeepsLast depth
        (superseded ++ if (store.effect? command).isSome then [store.current] else []) := by
  -- what is no effective commit touches neither the history nor the state
  have hidle : ∀ store' : Store, store'.historyDepth = depth → store'.history = store.history →
      store'.current = store.current → store.effect? command = none →
      store'.historyDepth = depth ∧ store'.KeepsLast depth
        (superseded ++ if (store.effect? command).isSome then [store.current] else []) := by
    intro store' hdepth' hhistory hcurrent hnone
    refine ⟨hdepth', ?_⟩
    rw [hnone, Option.isSome_none, if_neg Bool.false_ne_true, List.append_nil]
    exact ⟨hhistory.trans hkeeps.history_eq, hcurrent ▸ hkeeps.versions_eq⟩
  have hstep := step_perform h.current.2 command
  generalize store.perform command = store' at hstep ⊢
  cases hstep with
  | idle heffect => exact hidle store hdepth rfl rfl heffect
  | startsQuery | startsConsumer | resets | drains | caches => exact hidle _ hdepth rfl rfl rfl
  | @commits _ next record? hproposal hadvance =>
    have heffect := effect?_of_advances hproposal hadvance
    subst hdepth
    rw [commit_eq hadvance.effective, heffect, Option.isSome_some, if_pos rfl]
    refine ⟨rfl, pushHistory_eq hkeeps.history_eq, ?_⟩
    rw [List.map_append, hkeeps.versions_eq, List.map_singleton, hadvance.version_eq,
      List.range_succ]

lemma keepsLast_run (schema : Schema) (depth : Nat) (commands : List StoreCommand) :
    ((empty schema depth).run commands).historyDepth = depth ∧
      ((empty schema depth).run commands).KeepsLast depth
        ((empty schema depth).superseded commands) := by
  induction commands using List.reverseRecOn with
  | nil => exact ⟨rfl, List.drop_nil.symm, rfl⟩
  | append_singleton commands command ih =>
    rw [run_append, superseded_append, editAll_eq_run]
    exact (sound_run schema depth commands).keepsLast_perform ih.1 ih.2 command

/-- The versions of the states that are kept follow each other up to the current one.  There are as
many as the depth allows, or as there have been if these are fewer. -/
lemma KeepsLast.map_version_history {depth : Nat} {superseded : List StoreState}
    (h : store.KeepsLast depth superseded) :
    store.history.map StoreState.version =
      List.range' (store.current.version - min depth store.current.version)
        (min depth store.current.version) := by
  have hlength : superseded.length = store.current.version := by
    rw [← List.length_map, h.versions_eq, List.length_range]
  rw [h.history_eq, List.map_drop, h.versions_eq, hlength, List.range_eq_range', List.drop_range']
  congr 1 <;> omega

/-- **Only the history shows the depth.**  After any commands, a store that keeps earlier states has
answered them like one that keeps none, and holds the same: state, queries, consumers and remembered
results.  Its history lists the last of the states that effective commits replaced, and their
versions follow each other up to the current one. -/
theorem history_unobservable (schema : Schema) (depth : Nat) (commands : List StoreCommand) :
    (empty schema depth).answers commands = (empty schema 0).answers commands ∧
    ((empty schema depth).editAll commands).withoutHistory = (empty schema 0).editAll commands ∧
    ((empty schema depth).editAll commands).KeepsLast depth
      ((empty schema 0).superseded commands) ∧
    ((empty schema depth).editAll commands).history.map StoreState.version =
      List.range' (((empty schema depth).editAll commands).current.version -
          min depth ((empty schema depth).editAll commands).current.version)
        (min depth ((empty schema depth).editAll commands).current.version) := by
  have hsound := sound_empty schema depth
  have hshallow : empty schema 0 = (empty schema depth).withoutHistory := rfl
  have hkeeps : ((empty schema depth).editAll commands).KeepsLast depth
      ((empty schema 0).superseded commands) := by
    rw [hshallow, hsound.superseded_withoutHistory, editAll_eq_run]
    exact (keepsLast_run schema depth commands).2
  refine ⟨?_, ?_, hkeeps, hkeeps.map_version_history⟩
  · rw [hshallow, hsound.answers_withoutHistory]
  · rw [hshallow, hsound.editAll_withoutHistory]

end Store

end SceneEngine
