import SceneEngine.Proofs.Attempts
import SceneEngine.Proofs.Store.Representation
import SceneEngine.Store.Basic

/-!
# Runs of a store

Most of what is shown of stores is shown of all stores that can come about, and those are the ones
that a run leads to.  A run is a list of commands, carried out one after another on an empty store
or state; a command that is refused leaves everything as it was.  This module defines runs, says
what a single command can do, and shows the first thing that every run keeps.

## Commands

`StoreCommand` has a constructor for every operation on a store, including those that are refused,
and `StateCommand` one for every commit to a state.  Handles and values are arbitrary, so a run may
well ask for a consumer that was never made.  Identifiers of new entities come with the command,
which leaves it open how they are drawn.

## Steps

`Store.Step` lists what a command can do: nothing, an effective commit, a new live query, a new
consumer, a reset, a drain, or a remembered result.  `Store.step_perform` says that this is all, so
an invariant of stores has seven cases, and a command that is refused is always the first of them.
For commits it also helps to know which commit a command asks for, before it is known whether it is
effective (`Store.proposal?`, `Store.effect?`).  `Store.run_preserves` is the induction over a run.

## The representation invariant

Whatever commands are carried out, the current state and the ones that are kept from before are
states over the schema of the store, and well-formed: `StoreState.representation_invariant`.

The section before it has a small schema, entity and run, which later modules use for their
examples.
-/

namespace SceneEngine

/-! ## Runs of a state -/

/-- A commit to a state.  Components are given by their identifiers here, so no name can be unknown.
-/
inductive StateCommand where
  /-- Registers a value, or replaces the one that is registered. -/
  | register (entity : Entity)
  /-- Removes an entity. -/
  | deregister (id : EntityId)
  /-- Gives a component of an entity another value. -/
  | updateInPlace (id : EntityId) (c : ComponentId) (f : ComponentValue → ComponentValue)
  /-- Marks a component of an entity as changed. -/
  | flagUpdate (id : EntityId) (c : ComponentId)

namespace StoreState

/-- The state after an attempt, which is the same state if the attempt was refused.  This is what a
caller has in its hands who ignores the error. -/
def orSame (state : StoreState) : Except StoreError StoreState → StoreState
  | .ok next => next
  | .error _ => state

@[simp] lemma orSame_ok (state next : StoreState) : state.orSame (.ok next) = next := rfl

@[simp] lemma orSame_error (state : StoreState) (e : StoreError) :
    state.orSame (.error e) = state := rfl

/-- Carries out a command. -/
def perform (state : StoreState) : StateCommand → StoreState
  | .register entity => state.orSame (state.registerEntity entity)
  | .deregister id => state.deregisterEntity id
  | .updateInPlace id c f => state.orSame ((state.updateInPlace id c f).map Prod.fst)
  | .flagUpdate id c => state.orSame ((state.flagUpdate id c).map Prod.fst)

/-- Carries out commands one after another. -/
def run (state : StoreState) (commands : List StateCommand) : StoreState :=
  commands.foldl perform state

/-- A command leaves the state as it is or advances it. -/
lemma perform_cases {state : StoreState} (hs : state.WellFormed) (command : StateCommand) :
    state.perform command = state ∨
      ∃ next record?, state.perform command = next.1 ∧ state.Advances next record? := by
  -- each commit has a lemma of its own that says what it leads to
  cases command with
  | register entity =>
    cases h : state.register entity with
    | error e => exact Or.inl (by simp [perform, registerEntity, h])
    | ok next =>
      have hperform : state.perform (.register entity) = next.1 := by
        simp [perform, registerEntity, h]
      rcases register_cases hs h with ⟨hsame, -⟩ | hadvance
      · exact Or.inl (hperform.trans hsame)
      · exact Or.inr ⟨next, _, hperform, hadvance⟩
  | deregister id =>
    cases h : state.deregister? id with
    | none => exact Or.inl (by simp [perform, deregisterEntity, h])
    | some next =>
      exact Or.inr ⟨next, _, by simp [perform, deregisterEntity, h], deregister?_advances hs h⟩
  | updateInPlace id c f =>
    cases h : state.updateInPlace id c f with
    | error e => exact Or.inl (by simp [perform, h])
    | ok next =>
      obtain ⟨record, hadvance⟩ := updateInPlace_advances hs h
      exact Or.inr ⟨next, _, by simp [perform, h], hadvance⟩
  | flagUpdate id c =>
    cases h : state.flagUpdate id c with
    | error e => exact Or.inl (by simp [perform, h])
    | ok next =>
      obtain ⟨record, hadvance⟩ := flagUpdate_advances hs h
      exact Or.inr ⟨next, _, by simp [perform, h], hadvance⟩

lemma wellFormed_empty (schema : Schema) : (empty schema).WellFormed where
  index_length := List.length_replicate
  holders_nodup := fun c => ((empty schema).holders c).nodup
  mem_holders := by
    intro c id
    have hnil : (empty schema).holders c = ∅ := by
      simp only [holders, empty, List.getD_eq_getElem?_getD, List.getElem?_replicate]
      split <;> rfl
    have hget : (empty schema).get? id = none := rfl
    simp [hnil, hget]
  records := by
    intro id record hrecord
    cases hrecord

/-- Commits keep a state well-formed and its schema the same. -/
lemma wellFormed_run {state : StoreState} (hs : state.WellFormed) (commands : List StateCommand) :
    (state.run commands).schema = state.schema ∧ (state.run commands).WellFormed := by
  induction commands generalizing state with
  | nil => exact ⟨rfl, hs⟩
  | cons command commands ih =>
    rw [run, List.foldl_cons]
    rcases perform_cases hs command with hsame | ⟨next, record?, hnext, hadvance⟩
    · rw [hsame]
      exact ih hs
    · rw [hnext, ← hadvance.schema_eq]
      exact ih (hadvance.wellFormed_next hs)

end StoreState

/-! ## Runs of a store -/

/-- An operation on a store.  A new entity comes with the identifier that is drawn for it. -/
inductive StoreCommand where
  /-- Registers a value of an entity. -/
  | register (entity : Entity)
  /-- Removes an entity. -/
  | deregister (id : EntityId)
  /-- Makes an entity of named components and registers it. -/
  | quickEntity (id : EntityId) (components : List (String × ComponentValue))
  /-- Gives a component, found by name, another value. -/
  | updateInPlace (id : EntityId) (name : String) (f : ComponentValue → ComponentValue)
  /-- Marks a component, found by name, as changed. -/
  | flagUpdate (id : EntityId) (name : String)
  /-- Makes a query live. -/
  | createQuery (spec : QuerySpec)
  /-- Makes a consumer of a live query. -/
  | createConsumer (query : QueryId)
  /-- Makes all members new to a consumer. -/
  | resetConsumer (consumer : ConsumerId)
  /-- Hands out what a consumer has collected. -/
  | drain (consumer : ConsumerId)
  /-- Asks for the entities that match a query, without making it live. -/
  | matching (query : Query)

/-- Whether a command can make a commit. -/
def StoreCommand.commits : StoreCommand → Bool
  | .register _ | .deregister _ | .quickEntity .. | .updateInPlace .. | .flagUpdate .. => true
  | .createQuery _ | .createConsumer _ | .resetConsumer _ | .drain _ | .matching _ => false

namespace Store

/-- The store after an attempt, which is the same store if the attempt was refused. -/
def orSame (store : Store) : Except StoreError Store → Store
  | .ok next => next
  | .error _ => store

@[simp] lemma orSame_ok (store next : Store) : store.orSame (.ok next) = next := rfl

@[simp] lemma orSame_error (store : Store) (e : StoreError) : store.orSame (.error e) = store := rfl

/-- Carries out a command. -/
def perform (store : Store) : StoreCommand → Store
  | .register entity => store.orSame ((store.register entity).map Prod.fst)
  | .deregister id => (store.deregister id).2
  | .quickEntity id components => store.orSame (store.quickEntity id components)
  | .updateInPlace id name f => store.orSame (store.updateInPlace id name f)
  | .flagUpdate id name => store.orSame (store.flagUpdate id name)
  | .createQuery spec => store.orSame ((store.createQuery spec).map Prod.snd)
  | .createConsumer query => store.orSame ((store.createConsumer query).map Prod.snd)
  | .resetConsumer consumer => store.orSame (store.resetConsumer consumer)
  | .drain consumer => store.orSame ((store.drain consumer).map Prod.snd)
  | .matching query => (store.matching query).2

/-- Carries out commands one after another. -/
def run (store : Store) (commands : List StoreCommand) : Store := commands.foldl perform store

@[simp] lemma run_nil (store : Store) : store.run [] = store := rfl

@[simp] lemma run_cons (store : Store) (command : StoreCommand) (commands : List StoreCommand) :
    store.run (command :: commands) = (store.perform command).run commands := rfl

@[simp] lemma run_append (store : Store) (commands commands' : List StoreCommand) :
    store.run (commands ++ commands') = (store.run commands).run commands' :=
  List.foldl_append

/-- The commit that a command asks for, unless it is refused or asks for none.  Whether it has an
effect is not said. -/
def proposal? (store : Store) : StoreCommand → Option (StoreState × Commit)
  | .register entity => (store.current.register entity).toOption
  | .deregister id => store.current.deregister? id
  | .quickEntity id components => do
    let entity ← (store.setComponents (store.schema.createEntity id) components).toOption
    (store.current.register entity).toOption
  | .updateInPlace id name f => do
    let c ← (store.componentId name).toOption
    (store.current.updateInPlace id c f).toOption
  | .flagUpdate id name => do
    let c ← (store.componentId name).toOption
    (store.current.flagUpdate id c).toOption
  | _ => none

/-- The effective commit that a command makes, if it makes one. -/
def effect? (store : Store) (command : StoreCommand) : Option Commit :=
  ((store.proposal? command).map Prod.snd).filter (!·.isNoop)

/-- What a command can do to a store.  Handles that lead nowhere, refusals and commits without
effect are all `idle`.  Invariants are shown by cases on this relation. -/
inductive Step (store : Store) : StoreCommand → Store → Prop where
  /-- The command is refused or has no effect. -/
  | idle {command : StoreCommand} (heffect : store.effect? command = none) :
    Step store command store
  /-- The commit that the command asks for is effective. -/
  | commits {command : StoreCommand} {next : StoreState × Commit} {record? : Option EntityRecord}
    (hproposal : store.proposal? command = some next)
    (hadvance : store.current.Advances next record?) :
    Step store command (store.commit next)
  /-- A query becomes live, behind the others. -/
  | startsQuery {spec : QuerySpec} {query : Query} :
    Step store (.createQuery spec)
      { store with queries := store.queries ++ [.start query store.current] }
  /-- A consumer of a live query is made, to which all members are new. -/
  | startsConsumer {query : QueryId} {live : LiveQuery} (hquery : store.query query = .ok live) :
    Step store (.createConsumer query)
      { store with consumers := store.consumers ++ [(query, enterAll live {})] }
  /-- All members are new to a consumer again. -/
  | resets {id : ConsumerId} {query : QueryId} {consumer : Consumer} {live : LiveQuery}
    (hconsumer : store.consumer id = .ok (query, consumer))
    (hquery : store.query query = .ok live) :
    Step store (.resetConsumer id) (store.setConsumer id query (enterAll live consumer.forget))
  /-- What a consumer has collected is handed out. -/
  | drains {id : ConsumerId} {query : QueryId} {consumer : Consumer}
    (hconsumer : store.consumer id = .ok (query, consumer)) :
    Step store (.drain id) (store.setConsumer id query {})
  /-- A result may be remembered. -/
  | caches {query : Query} {cache : MatchCache} :
    Step store (.matching query) { store with cache }

variable {store : Store} {command : StoreCommand} {next : StoreState × Commit}

lemma effect?_of_advances {record? : Option EntityRecord}
    (h : store.proposal? command = some next) (hadvance : store.current.Advances next record?) :
    store.effect? command = some next.2 := by
  rw [effect?, h, Option.map_some, Option.filter_some, hadvance.effective]
  rfl

/-- A proposal that can be made either changes nothing or advances the state. -/
lemma proposal?_cases (hs : store.current.WellFormed) (h : store.proposal? command = some next) :
    next.2.isNoop = true ∨ ∃ record?, store.current.Advances next record? := by
  -- two of the commands register a value
  have hregister : ∀ entity, (store.current.register entity).toOption = some next →
      next.2.isNoop = true ∨ ∃ record?, store.current.Advances next record? := by
    intro entity hentity
    rcases StoreState.register_cases hs (toOption_eq_some_iff.mp hentity) with
      ⟨-, hnoop⟩ | hadvance
    · exact Or.inl hnoop
    · exact Or.inr ⟨_, hadvance⟩
  cases command with
  | register entity => exact hregister entity h
  | deregister id => exact Or.inr ⟨_, StoreState.deregister?_advances hs h⟩
  | quickEntity id components =>
    obtain ⟨entity, -, hentity⟩ := Option.bind_eq_some_iff.mp h
    exact hregister entity hentity
  | updateInPlace id name f =>
    obtain ⟨c, -, hupdate⟩ := Option.bind_eq_some_iff.mp h
    obtain ⟨record, hadvance⟩ :=
      StoreState.updateInPlace_advances hs (toOption_eq_some_iff.mp hupdate)
    exact Or.inr ⟨_, hadvance⟩
  | flagUpdate id name =>
    obtain ⟨c, -, hflag⟩ := Option.bind_eq_some_iff.mp h
    obtain ⟨record, hadvance⟩ := StoreState.flagUpdate_advances hs (toOption_eq_some_iff.mp hflag)
    exact Or.inr ⟨_, hadvance⟩
  | createQuery _ => cases h
  | createConsumer _ => cases h
  | resetConsumer _ => cases h
  | drain _ => cases h
  | matching _ => cases h

/-- A command that commits its proposal, if it can make one, takes a step. -/
lemma step_of_proposal (hs : store.current.WellFormed)
    (h : store.perform command = (store.proposal? command).elim store store.commit) :
    store.Step command (store.perform command) := by
  rw [h]
  -- without a proposal nothing happens; with one, it depends on whether it has an effect
  cases hproposal : store.proposal? command with
  | none => exact .idle (by simp [effect?, hproposal])
  | some next =>
    rw [Option.elim_some]
    rcases proposal?_cases hs hproposal with hnoop | ⟨record?, hadvance⟩
    · have hsame : store.commit next = store := by rw [commit, if_pos hnoop]
      rw [hsame]
      exact .idle (by simp [effect?, hproposal, Option.filter, hnoop])
    · exact .commits hproposal hadvance

lemma step_createQuery (store : Store) (spec : QuerySpec) :
    store.Step (.createQuery spec) (store.perform (.createQuery spec)) := by
  cases hresolve : (spec.resolve store.schema).mapError StoreError.query with
  | error e =>
    have hsame : store.perform (.createQuery spec) = store := by
      simp [perform, createQuery, hresolve]
    rw [hsame]
    exact .idle rfl
  | ok query =>
    cases hfound : store.queries.findIdx? (·.query == query) with
    | some i =>
      -- an equal query is live already
      have hsame : store.perform (.createQuery spec) = store := by
        simp [perform, createQuery, hresolve, hfound, pure, Except.pure]
      rw [hsame]
      exact .idle rfl
    | none =>
      have hnext : store.perform (.createQuery spec) =
          { store with queries := store.queries ++ [.start query store.current] } := by
        simp [perform, createQuery, hresolve, hfound, pure, Except.pure]
      rw [hnext]
      exact .startsQuery

lemma step_createConsumer (store : Store) (query : QueryId) :
    store.Step (.createConsumer query) (store.perform (.createConsumer query)) := by
  cases hquery : store.query query with
  | error e =>
    have hsame : store.perform (.createConsumer query) = store := by
      simp [perform, createConsumer, hquery]
    rw [hsame]
    exact .idle rfl
  | ok live =>
    have hnext : store.perform (.createConsumer query) =
        { store with consumers := store.consumers ++ [(query, enterAll live {})] } := by
      simp [perform, createConsumer, hquery, pure, Except.pure]
    rw [hnext]
    exact .startsConsumer hquery

lemma step_resetConsumer (store : Store) (id : ConsumerId) :
    store.Step (.resetConsumer id) (store.perform (.resetConsumer id)) := by
  cases hconsumer : store.consumer id with
  | error e =>
    have hsame : store.perform (.resetConsumer id) = store := by
      simp [perform, resetConsumer, hconsumer]
    rw [hsame]
    exact .idle rfl
  | ok entry =>
    cases hquery : store.query entry.1 with
    | error e =>
      have hsame : store.perform (.resetConsumer id) = store := by
        simp [perform, resetConsumer, hconsumer, hquery]
      rw [hsame]
      exact .idle rfl
    | ok live =>
      have hnext : store.perform (.resetConsumer id) =
          store.setConsumer id entry.1 (enterAll live entry.2.forget) := by
        simp [perform, resetConsumer, hconsumer, hquery, pure, Except.pure]
      rw [hnext]
      exact .resets hconsumer hquery

lemma step_drain (store : Store) (id : ConsumerId) :
    store.Step (.drain id) (store.perform (.drain id)) := by
  cases hconsumer : store.consumer id with
  | error e =>
    have hsame : store.perform (.drain id) = store := by simp [perform, drain, hconsumer]
    rw [hsame]
    exact .idle rfl
  | ok entry =>
    have hnext : store.perform (.drain id) = store.setConsumer id entry.1 {} := by
      simp [perform, drain, hconsumer, Consumer.drain, pure, Except.pure]
    rw [hnext]
    exact .drains hconsumer

lemma step_matching (store : Store) (query : Query) :
    store.Step (.matching query) (store.perform (.matching query)) := by
  cases hcached : store.cache.get? query.name with
  | none =>
    simp only [perform, matching, hcached]
    exact .caches
  | some entry =>
    by_cases hversion : entry.1 = store.current.version
    · simp only [perform, matching, hcached, if_pos hversion]
      exact .idle rfl
    · simp only [perform, matching, hcached, if_neg hversion]
      exact .caches

/-- A command that can make a commit makes the one it proposes. -/
lemma perform_of_commits (store : Store) (h : command.commits = true) :
    store.perform command = (store.proposal? command).elim store store.commit := by
  -- the two sides compute the same proposal, one of them by way of errors
  cases command with
  | register entity =>
    cases h : store.current.register entity <;>
      simp [perform, proposal?, Store.register, h]
  | deregister id =>
    cases h : store.current.deregister? id <;> simp [perform, proposal?, Store.deregister, h]
  | quickEntity id components =>
    cases hentity : store.setComponents (store.schema.createEntity id) components with
    | error e => simp [perform, proposal?, quickEntity, hentity]
    | ok entity =>
      cases h : store.current.register entity <;>
        simp [perform, proposal?, quickEntity, Store.register, hentity, h]
  | updateInPlace id name f =>
    cases hc : store.componentId name with
    | error e => simp [perform, proposal?, Store.updateInPlace, hc]
    | ok c =>
      cases h : store.current.updateInPlace id c f <;>
        simp [perform, proposal?, Store.updateInPlace, hc, h]
  | flagUpdate id name =>
    cases hc : store.componentId name with
    | error e => simp [perform, proposal?, Store.flagUpdate, hc]
    | ok c =>
      cases h : store.current.flagUpdate id c <;>
        simp [perform, proposal?, Store.flagUpdate, hc, h]
  | createQuery | createConsumer | resetConsumer | drain | matching => cases h

/-- Every command takes one of the steps. -/
theorem step_perform (hs : store.current.WellFormed) (command : StoreCommand) :
    store.Step command (store.perform command) := by
  cases command with
  | createQuery spec => exact step_createQuery store spec
  | createConsumer query => exact step_createConsumer store query
  | resetConsumer id => exact step_resetConsumer store id
  | drain id => exact step_drain store id
  | matching query => exact step_matching store query
  | register | deregister | quickEntity | updateInPlace | flagUpdate =>
    exact step_of_proposal hs (perform_of_commits store rfl)

/-- What every command keeps holds after every run. -/
lemma run_preserves {Inv : Store → Prop}
    (hstep : ∀ store command, Inv store → Inv (store.perform command)) {store : Store}
    (h : Inv store) (commands : List StoreCommand) : Inv (store.run commands) := by
  induction commands generalizing store with
  | nil => exact h
  | cons command commands ih => exact ih (hstep store command h)

/-! ## A store to look at -/

/-- A schema with a single component. -/
def typedSchema : Schema where
  defs := [{ name := "type", default := .null }]
  length_le := by decide
  nodup := by decide

/-- An entity that has the component of the schema. -/
def typedEntity (id : EntityId) : Entity := (Entity.bare id).set ⟨0, by decide⟩ .null

/-- An entity is registered, where a consumer asks for the component. -/
def typedCommands : List StoreCommand :=
  [.createQuery { includes := ["type"] }, .createConsumer ⟨0⟩, .register (typedEntity ⟨1⟩)]

/-! ## Committing -/

/-- The store after an effective commit. -/
lemma commit_eq (h : next.2.isNoop = false) :
    store.commit next =
      { store with
        current := next.1
        history := store.pushHistory
        queries := store.queries.map (·.follow next.2)
        consumers := store.consumers.map (observe store.queries next.2) } := by
  rw [commit, h]
  rfl

/-- Only the current state joins the history. -/
lemma mem_pushHistory {state : StoreState} (h : state ∈ store.pushHistory) :
    state ∈ store.history ∨ state = store.current := by
  rw [pushHistory] at h
  split at h
  · cases h
  · rcases List.mem_append.mp h with h | h
    · left
      split at h
      · exact List.mem_of_mem_drop h
      · exact h
    · exact Or.inr (List.mem_singleton.mp h)

/-! ## The representation invariant -/

/-- The states of a store are states over its schema, and well-formed: the current one and those in
its history. -/
structure WellFormed (schema : Schema) (store : Store) : Prop where
  /-- The current state, -/
  current : store.current.schema = schema ∧ store.current.WellFormed
  /-- and those that are kept from before. -/
  history : ∀ state ∈ store.history, state.schema = schema ∧ state.WellFormed

lemma wellFormed_empty (schema : Schema) (historyDepth : Nat) :
    (Store.empty schema historyDepth).WellFormed schema where
  current := ⟨rfl, StoreState.wellFormed_empty schema⟩
  history := fun _ h => absurd h List.not_mem_nil

lemma wellFormed_perform {schema : Schema} (store : Store) (command : StoreCommand)
    (hs : store.WellFormed schema) : (store.perform command).WellFormed schema := by
  have hstep := step_perform hs.current.2 command
  generalize store.perform command = store' at hstep
  cases hstep with
  | @commits _ next record? _ hadvance =>
    rw [commit_eq hadvance.effective]
    refine ⟨⟨hadvance.schema_eq.trans hs.current.1, hadvance.wellFormed_next hs.current.2⟩, ?_⟩
    intro state hstate
    -- a state that is kept was kept before, or is the one that the commit superseded
    rcases mem_pushHistory hstate with hold | rfl
    · exact hs.history state hold
    · exact hs.current
  | idle | startsQuery | startsConsumer | resets | drains | caches => exact ⟨hs.current, hs.history⟩

lemma wellFormed_run (schema : Schema) (historyDepth : Nat) (commands : List StoreCommand) :
    ((Store.empty schema historyDepth).run commands).WellFormed schema :=
  run_preserves wellFormed_perform (wellFormed_empty schema historyDepth) commands

end Store

/-- **The representation invariant.**  A state that commits lead to is well-formed, and so is every
state that a store holds, now or from before, whatever was done to the store. -/
theorem StoreState.representation_invariant (schema : Schema) :
    (∀ commands : List StateCommand,
      ((empty schema).run commands).schema = schema ∧ ((empty schema).run commands).WellFormed) ∧
    ∀ (historyDepth : Nat) (commands : List StoreCommand),
      ∀ state ∈ ((Store.empty schema historyDepth).run commands).current ::
          ((Store.empty schema historyDepth).run commands).history,
        state.schema = schema ∧ state.WellFormed := by
  constructor
  · exact wellFormed_run (wellFormed_empty schema)
  · intro historyDepth commands state hstate
    have hstore := Store.wellFormed_run schema historyDepth commands
    rcases List.mem_cons.mp hstate with rfl | hold
    · exact hstore.current
    · exact hstore.history state hold

end SceneEngine
