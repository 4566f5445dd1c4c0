import SceneEngine.Proofs.Store.Edits
import SceneEngine.Proofs.Store.Notifying

/-!
# Consumers do not disturb each other

Several consumers can follow the same query, and others follow queries that share entities with it.
Each of them should be served as if it were alone.  Take two runs that go on from one store and
differ only in commands that make, drain or reset other consumers.  This module shows that at every
command which they share, everything that can be read for the consumer is the same: the state, the
earlier states, the live queries with their members and groups, whether the consumer has something
to hand out, and what it hands out, in the same order.

## What is compared

`StoreCommand.concerns` says which commands matter to a consumer: all of them do, but those that
make, drain or reset another one.  `Store.Reading` is what can be read for it at one point, and
`Store.readings` what is read before every command that matters, together with what the command
gives.  Comparing readings along a whole run, and not just at its end, is what allows for drains in
the middle.

Making a query live does matter.  It would be in vain to leave it out, because a later command may
use its handle.

## How they are compared

Two stores are alike to a consumer if they differ at most in other consumers (`Store.Alike`).  A
command that does not matter leaves a store that is alike to the one before
(`Alike.perform_of_not_concerns`), and a command that matters does the same to stores that are alike
(`Alike.perform`).  So a run is alike to the run without the commands that do not matter
(`Alike.run`), and two runs with the same commands that matter are both alike to that one
(`Alike.of_filter_eq`).

The main result is `Store.consumers_isolated`.  The same holds of stores whose queries list their
consumers (`NotifyingStore.reading_eq`): there other consumers change the lists, but not what comes
of them.
-/

namespace SceneEngine

/-- Whether a command matters to a consumer: all do but those that make, drain or reset another. -/
def StoreCommand.concerns (id : ConsumerId) : StoreCommand → Bool
  | .createConsumer _ => false
  | .resetConsumer other => decide (other = id)
  | .drain other => decide (other = id)
  | _ => true

namespace Store

/-- What can be read at one point of a run for a consumer.  Handles of other consumers are no part
of it. -/
structure Reading where
  /-- The current state, with all values, stamps and the index. -/
  state : StoreState
  /-- The states that are kept from before. -/
  history : List StoreState
  /-- The live queries, with their members and groups. -/
  queries : List LiveQuery
  /-- Whether the consumer has something to hand out. -/
  hasPending : Bool
  /-- What the consumer would hand out. -/
  handout : Except StoreError Delta

/-- What can be read of a store for a consumer. -/
def reading (store : Store) (id : ConsumerId) : Reading where
  state := store.current
  history := store.history
  queries := store.queries
  hasPending := store.hasPending id
  handout := (store.drain id).map Prod.fst

/-- What a command gives besides the store, or why it is refused. -/
def gives (store : Store) (command : StoreCommand) : Except StoreError Answer :=
  (store.attempt command).map Prod.fst

/-- What can be read for a consumer before every command that matters to it, with what the command
gives. -/
def readings (store : Store) (id : ConsumerId) :
    List StoreCommand → List (Reading × Except StoreError Answer)
  | [] => []
  | command :: commands =>
    let rest := (store.perform command).readings id commands
    if command.concerns id then (store.reading id, store.gives command) :: rest else rest

/-- Two stores are alike to a consumer: they differ at most in other consumers. -/
structure Alike (id : ConsumerId) (store store' : Store) : Prop where
  /-- The handle leads to a consumer, -/
  issued : id.index < store.consumers.length
  /-- which holds the same in both stores. -/
  consumer_eq : store'.consumers[id.index]? = store.consumers[id.index]?
  /-- Nothing else than consumers differs. -/
  rest_eq : ∃ consumers, store' = { store with consumers }

variable {id : ConsumerId} {store store' : Store} {command : StoreCommand}

namespace Alike

lemma refl (h : id.index < store.consumers.length) : Alike id store store where
  issued := h
  consumer_eq := rfl
  rest_eq := ⟨store.consumers, rfl⟩

lemma symm (h : Alike id store store') : Alike id store' store where
  issued := by
    obtain ⟨entry, hentry⟩ : ∃ entry, store'.consumers[id.index]? = some entry :=
      ⟨_, h.consumer_eq.trans (List.getElem?_eq_getElem h.issued)⟩
    exact (List.getElem?_eq_some_iff.mp hentry).1
  consumer_eq := h.consumer_eq.symm
  rest_eq := by
    obtain ⟨consumers, rfl⟩ := h.rest_eq
    exact ⟨store.consumers, rfl⟩

lemma trans {store'' : Store} (h : Alike id store store') (h' : Alike id store' store'') :
    Alike id store store'' where
  issued := h.issued
  consumer_eq := h'.consumer_eq.trans h.consumer_eq
  rest_eq := by
    obtain ⟨consumers, rfl⟩ := h.rest_eq
    obtain ⟨consumers', rfl⟩ := h'.rest_eq
    exact ⟨consumers', rfl⟩

/-- What can be read of stores that are alike is the same. -/
lemma reading_eq (h : Alike id store store') : store'.reading id = store.reading id := by
  obtain ⟨consumers, rfl⟩ := h.rest_eq
  have hconsumer : ({ store with consumers } : Store).consumer id = store.consumer id := by
    rw [Store.consumer, h.consumer_eq, Store.consumer]
  have hdrain : (({ store with consumers } : Store).drain id).map Prod.fst =
      (store.drain id).map Prod.fst := by
    rw [Store.drain, hconsumer, Store.drain]
    cases store.consumer id <;> rfl
  rw [reading, reading, hasPending, hasPending, hconsumer, hdrain]

/-! ## Commands about other consumers -/

/-- A command that does not matter to a consumer leaves a store that is alike to it. -/
lemma perform_of_not_concerns (hs : store.current.WellFormed)
    (hissued : id.index < store.consumers.length) (h : command.concerns id = false) :
    Alike id store (store.perform command) := by
  have hstep := step_perform hs command
  generalize store.perform command = next at hstep
  -- by what a step can do; a commit is told to all consumers, so it always matters
  cases hstep with
  | idle => exact .refl hissued
  | commits hproposal =>
    cases command with
    | createConsumer | resetConsumer | drain => cases hproposal
    | register | deregister | quickEntity | updateInPlace | flagUpdate | createQuery | matching =>
      cases h
  | startsConsumer => exact ⟨hissued, List.getElem?_append_left hissued, _, rfl⟩
  | resets | drains =>
    have hother := of_decide_eq_false h
    exact ⟨hissued, getElem?_set_consumers hother _ _, _, rfl⟩
  | startsQuery | caches => cases h

/-! ## Commands that matter -/

/-- The same commit keeps stores alike. -/
lemma commit (h : Alike id store store') (next : StoreState × Commit) :
    Alike id (store.commit next) (store'.commit next) := by
  obtain ⟨consumers, rfl⟩ := h.rest_eq
  rw [Store.commit, Store.commit]
  split
  next => exact h
  next =>
    refine ⟨?_, ?_, _, rfl⟩
    · rw [List.length_map]
      exact h.issued
    · rw [List.getElem?_map, List.getElem?_map, h.consumer_eq]

/-- What a command gives that can make a commit does not hang on the consumers.  They are told of
the commit, and nobody asks them. -/
lemma gives_of_commits (consumers : List (QueryId × Consumer)) (h : command.commits = true) :
    ({ store with consumers } : Store).gives command = store.gives command := by
  cases command with
  | register entity =>
    rw [gives, gives, attempt, attempt, Store.register, Store.register]
    cases store.current.register entity <;> rfl
  | deregister entity =>
    rw [gives, gives, attempt, attempt, Store.deregister, Store.deregister]
    cases store.current.deregister? entity <;> rfl
  | quickEntity entity components =>
    have hset : ({ store with consumers } : Store).setComponents
        (({ store with consumers } : Store).schema.createEntity entity) components =
        store.setComponents (store.schema.createEntity entity) components := rfl
    rw [gives, gives, attempt, attempt, Store.quickEntity, Store.quickEntity, hset]
    cases store.setComponents (store.schema.createEntity entity) components with
    | error => rfl
    | ok entity =>
      rw [ok_bind, ok_bind, Store.register, Store.register]
      cases store.current.register entity <;> rfl
  | updateInPlace entity name f =>
    have hname : ({ store with consumers } : Store).componentId name = store.componentId name := rfl
    rw [gives, gives, attempt, attempt, Store.updateInPlace, Store.updateInPlace, hname]
    cases store.componentId name with
    | error => rfl
    | ok c =>
      rw [ok_bind, ok_bind]
      cases store.current.updateInPlace entity c f <;> rfl
  | flagUpdate entity name =>
    have hname : ({ store with consumers } : Store).componentId name = store.componentId name := rfl
    rw [gives, gives, attempt, attempt, Store.flagUpdate, Store.flagUpdate, hname]
    cases store.componentId name with
    | error => rfl
    | ok c =>
      rw [ok_bind, ok_bind]
      cases store.current.flagUpdate entity c <;> rfl
  | createQuery | createConsumer | resetConsumer | drain | matching => cases h

/-- A command that can make a commit keeps stores alike. -/
lemma perform_of_commits (h : Alike id store store') (hcommits : command.commits = true) :
    Alike id (store.perform command) (store'.perform command) := by
  have hproposal : store'.proposal? command = store.proposal? command := by
    obtain ⟨consumers, rfl⟩ := h.rest_eq
    cases command <;> rfl
  rw [Store.perform_of_commits _ hcommits, Store.perform_of_commits _ hcommits, hproposal]
  cases store.proposal? command with
  | none => exact h
  | some next => exact h.commit next

/-- Making a query live keeps stores alike. -/
lemma perform_createQuery (h : Alike id store store') (spec : QuerySpec) :
    Alike id (store.perform (.createQuery spec)) (store'.perform (.createQuery spec)) ∧
      store'.gives (.createQuery spec) = store.gives (.createQuery spec) := by
  obtain ⟨consumers, rfl⟩ := h.rest_eq
  have hschema : ({ store with consumers } : Store).schema = store.schema := rfl
  rw [perform, perform, gives, gives, attempt, attempt, createQuery, createQuery, hschema]
  cases (spec.resolve store.schema).mapError StoreError.query with
  | error => exact ⟨h, rfl⟩
  | ok query =>
    rw [ok_bind, ok_bind]
    dsimp only
    cases store.queries.findIdx? (·.query == query) with
    | some => exact ⟨h, rfl⟩
    | none => exact ⟨⟨h.issued, h.consumer_eq, consumers, rfl⟩, rfl⟩

/-- Asking a query keeps stores alike. -/
lemma perform_matching (h : Alike id store store') (query : Query) :
    Alike id (store.perform (.matching query)) (store'.perform (.matching query)) ∧
      store'.gives (.matching query) = store.gives (.matching query) := by
  obtain ⟨consumers, rfl⟩ := h.rest_eq
  rw [perform, perform, gives, gives, attempt, attempt, matching, matching]
  dsimp only
  cases store.cache.get? query.name with
  | none => exact ⟨⟨h.issued, h.consumer_eq, consumers, rfl⟩, rfl⟩
  | some entry =>
    dsimp only
    split
    · exact ⟨h, rfl⟩
    · exact ⟨⟨h.issued, h.consumer_eq, consumers, rfl⟩, rfl⟩

/-- Putting another consumer in the place of the one that stores are alike to. -/
lemma setConsumer (h : Alike id store store') (query : QueryId) (consumer : Consumer) :
    Alike id (store.setConsumer id query consumer) (store'.setConsumer id query consumer) where
  issued := by
    rw [Store.setConsumer, List.length_set]
    exact h.issued
  consumer_eq := by
    rw [Store.setConsumer, Store.setConsumer, List.getElem?_set_self h.issued,
      List.getElem?_set_self h.symm.issued]
  rest_eq := by
    obtain ⟨consumers, rfl⟩ := h.rest_eq
    exact ⟨_, rfl⟩

lemma consumer (h : Alike id store store') : store'.consumer id = store.consumer id := by
  rw [Store.consumer, h.consumer_eq, Store.consumer]

/-- Draining the consumer that stores are alike to gives the same. -/
lemma perform_drain (h : Alike id store store') :
    Alike id (store.perform (.drain id)) (store'.perform (.drain id)) ∧
      store'.gives (.drain id) = store.gives (.drain id) := by
  have hcurrent : store'.current = store.current := by
    obtain ⟨consumers, rfl⟩ := h.rest_eq
    rfl
  rw [perform, perform, gives, gives, attempt, attempt, Store.drain, Store.drain, h.consumer,
    hcurrent]
  cases store.consumer id with
  | error => exact ⟨h, rfl⟩
  | ok entry => exact ⟨h.setConsumer _ _, rfl⟩

/-- Resetting the consumer that stores are alike to does the same. -/
lemma perform_resetConsumer (h : Alike id store store') :
    Alike id (store.perform (.resetConsumer id)) (store'.perform (.resetConsumer id)) ∧
      store'.gives (.resetConsumer id) = store.gives (.resetConsumer id) := by
  have hquery : ∀ query, store'.query query = store.query query := by
    obtain ⟨consumers, rfl⟩ := h.rest_eq
    exact fun _ => rfl
  rw [perform, perform, gives, gives, attempt, attempt, resetConsumer, resetConsumer, h.consumer]
  cases store.consumer id with
  | error => exact ⟨h, rfl⟩
  | ok entry =>
    rw [ok_bind, ok_bind]
    dsimp only
    rw [hquery]
    cases store.query entry.1 with
    | error => exact ⟨h, rfl⟩
    | ok live => exact ⟨h.setConsumer _ _, rfl⟩

/-- A command that matters to a consumer does the same to stores that are alike to it. -/
lemma perform (h : Alike id store store') (hconcerns : command.concerns id = true) :
    Alike id (store.perform command) (store'.perform command) ∧
      store'.gives command = store.gives command := by
  have hcommits : command.commits = true →
      Alike id (store.perform command) (store'.perform command) ∧
        store'.gives command = store.gives command := by
    intro hcommits
    obtain ⟨consumers, hstore'⟩ := h.rest_eq
    exact ⟨h.perform_of_commits hcommits, hstore' ▸ gives_of_commits consumers hcommits⟩
  cases command with
  | register | deregister | quickEntity | updateInPlace | flagUpdate => exact hcommits rfl
  | createQuery spec => exact h.perform_createQuery spec
  | matching query => exact h.perform_matching query
  | createConsumer => cases hconcerns
  | drain other =>
    obtain rfl := of_decide_eq_true hconcerns
    exact h.perform_drain
  | resetConsumer other =>
    obtain rfl := of_decide_eq_true hconcerns
    exact h.perform_resetConsumer

/-- A run is alike to the one without the commands that do not matter to a consumer, and the same
can be read along both. -/
lemma run {schema : Schema} (h : Alike id store store') (hs : store.WellFormed schema)
    (commands : List StoreCommand) :
    Alike id (store.run commands) (store'.run (commands.filter (·.concerns id))) ∧
      store.readings id commands = store'.readings id (commands.filter (·.concerns id)) := by
  induction commands generalizing store store' with
  | nil => exact ⟨h, rfl⟩
  | cons command commands ih =>
    have hnext := wellFormed_perform store command hs
    -- a command that matters is carried out on both sides, any other on the one that has it
    cases hconcerns : command.concerns id with
    | true =>
      obtain ⟨hperform, hgives⟩ := h.perform hconcerns
      obtain ⟨hrun, hreadings⟩ := ih hperform hnext
      rw [List.filter_cons_of_pos hconcerns, run_cons, run_cons]
      refine ⟨hrun, ?_⟩
      rw [readings, readings, if_pos hconcerns, if_pos hconcerns, hreadings, hgives, h.reading_eq]
    | false =>
      have hskip := perform_of_not_concerns hs.current.2 h.issued hconcerns
      obtain ⟨hrun, hreadings⟩ := ih (hskip.symm.trans h) hnext
      have hnot : ¬command.concerns id = true := Bool.not_eq_true _ ▸ hconcerns
      rw [List.filter_cons_of_neg hnot, run_cons]
      refine ⟨hrun, ?_⟩
      rw [readings, if_neg hnot, hreadings]

/-- Two runs with the same commands that matter to a consumer end alike to it, and the same can be
read along both. -/
lemma of_filter_eq {schema : Schema} (hs : store.WellFormed schema)
    (hissued : id.index < store.consumers.length) {commands commands' : List StoreCommand}
    (hsame : commands.filter (·.concerns id) = commands'.filter (·.concerns id)) :
    Alike id (store.run commands) (store.run commands') ∧
      store.readings id commands = store.readings id commands' := by
  obtain ⟨hrun, hreadings⟩ := (refl hissued).run hs commands
  obtain ⟨hrun', hreadings'⟩ := (refl hissued).run hs commands'
  rw [hsame] at hrun hreadings
  exact ⟨hrun.trans hrun'.symm, hreadings.trans hreadings'.symm⟩

end Alike

/-- **Consumers are isolated from each other.**  After a consumer has been made, leave out of a run,
or put into it, any commands that make, drain or reset other consumers.  At every command that is
left, and at the end, the state, the history, the members and groups of all live queries, and what
the consumer has to hand out and in which order are the same; and every command that is left gives
the same. -/
theorem consumers_isolated (schema : Schema) (historyDepth : Nat)
    (earlier commands commands' : List StoreCommand) (id : ConsumerId)
    (hissued : id.index < ((Store.empty schema historyDepth).run earlier).consumers.length)
    (hsame : commands.filter (·.concerns id) = commands'.filter (·.concerns id)) :
    ((Store.empty schema historyDepth).run earlier).readings id commands =
        ((Store.empty schema historyDepth).run earlier).readings id commands' ∧
      ((Store.empty schema historyDepth).run (earlier ++ commands)).reading id =
        ((Store.empty schema historyDepth).run (earlier ++ commands')).reading id := by
  have hs := wellFormed_run schema historyDepth earlier
  obtain ⟨halike, hreadings⟩ := Alike.of_filter_eq hs hissued hsame
  rw [run_append, run_append]
  exact ⟨hreadings, halike.reading_eq.symm⟩

/-- A query with a consumer. -/
def watchedCommands : List StoreCommand :=
  [.createQuery { includes := ["type"] }, .createConsumer ⟨0⟩]

/-- A second consumer of the query is made and drained around a change. -/
def sharedCommands : List StoreCommand :=
  [.createConsumer ⟨0⟩, .register (typedEntity ⟨1⟩), .drain ⟨1⟩]

/-- The first consumer still has the change to hand out, as it would have without the second one. -/
theorem change_is_kept_for_the_first :
    ((empty typedSchema 0).run (watchedCommands ++ sharedCommands)).reading ⟨0⟩ =
        ((empty typedSchema 0).run
          (watchedCommands ++ [.register (typedEntity ⟨1⟩)])).reading ⟨0⟩ ∧
      ((empty typedSchema 0).run (watchedCommands ++ sharedCommands)).hasPending ⟨0⟩ = true :=
  ⟨(consumers_isolated typedSchema 0 watchedCommands sharedCommands _ ⟨0⟩ (by decide +kernel)
    rfl).2, by decide +kernel⟩

end Store

namespace NotifyingStore

/-- Where live queries list their consumers, the handles that other consumers get or lose make no
difference to a consumer either. -/
theorem reading_eq (schema : Schema) (historyDepth : Nat)
    (earlier commands commands' : List StoreCommand) (id : ConsumerId)
    (hissued : id.index < ((empty schema historyDepth).run earlier).store.consumers.length)
    (hsame : commands.filter (·.concerns id) = commands'.filter (·.concerns id)) :
    ((empty schema historyDepth).run (earlier ++ commands)).store.reading id =
      ((empty schema historyDepth).run (earlier ++ commands')).store.reading id := by
  have hs := Store.wellFormed_run schema historyDepth earlier
  rw [(run_eq schema historyDepth earlier).1] at hissued
  rw [(run_eq schema historyDepth _).1, (run_eq schema historyDepth _).1, Store.run_append,
    Store.run_append]
  exact (Store.Alike.of_filter_eq hs hissued hsame).1.reading_eq.symm

end NotifyingStore

end SceneEngine
