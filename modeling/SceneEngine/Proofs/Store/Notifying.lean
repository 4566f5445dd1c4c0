import SceneEngine.Proofs.Store.Consumers
import SceneEngine.Store.Notifying

/-!
# Notified consumers look at their own query

A commit has to reach the consumers of the queries that it concerns.  A `Store` goes through all
consumers, and each looks at its own query.  A `NotifyingStore` works the other way round: every
live query lists its consumers, and a commit goes through the queries and their lists.  The second
is how it is done, the first is what is easier to reason about, and this module shows that they come
to the same.

## Exact lists

`NotifyingStore.Exact` says that each list names the consumers of its query, none of them twice, and
no others.  A query that becomes live lists nobody (`Exact.startQuery`), a new consumer is put
behind the others in the list of its query (`Exact.startConsumer`), and no other command touches a
list.

## Going through the lists

With exact lists, the fold over queries and lists tells every consumer once, with what happened to
its own query.  `NotifyingStore.foldl_notify_eq` proves it by induction on the queries from the last
one: the consumers of the last query are told by it, and by no query before it, because the lists do
not overlap.  Being told once matters, since one that is told twice that a new entity leaves would
hand it out as removed, although nobody has seen it.

The main result is `NotifyingStore.run_eq`: a run that keeps lists goes through the same stores as
one that does not.  So whatever is shown of runs of a `Store` holds where consumers are notified.
-/

namespace SceneEngine

/-- What stands in a list with one more element behind. -/
lemma getElem?_concat_eq_some_iff {α : Type} {l : List α} {a b : α} {i : Nat} :
    (l ++ [a])[i]? = some b ↔ l[i]? = some b ∨ i = l.length ∧ a = b := by
  rcases Nat.lt_trichotomy i l.length with hlt | rfl | hgt
  · simp [List.getElem?_append_left hlt, Nat.ne_of_lt hlt]
  · simp
  · have hnone : (l ++ [a])[i]? = none :=
      List.getElem?_eq_none (by rw [List.length_append]; exact hgt)
    simp [hnone, List.getElem?_eq_none (Nat.le_of_lt hgt), Nat.ne_of_gt hgt]

namespace NotifyingStore

/-- Carries out a command.  Only commits, new queries and new consumers have to do with the lists;
everything else is left to the store. -/
def perform (notifying : NotifyingStore) : StoreCommand → NotifyingStore
  | .createQuery spec => ((notifying.createQuery spec).map Prod.snd).toOption.getD notifying
  | .createConsumer query =>
    ((notifying.createConsumer query).map Prod.snd).toOption.getD notifying
  | .resetConsumer consumer =>
    { notifying with store := notifying.store.perform (.resetConsumer consumer) }
  | .drain consumer => { notifying with store := notifying.store.perform (.drain consumer) }
  | .matching query => { notifying with store := notifying.store.perform (.matching query) }
  | command => (notifying.store.proposal? command).elim notifying notifying.commit

/-- Carries out commands one after another. -/
def run (notifying : NotifyingStore) (commands : List StoreCommand) : NotifyingStore :=
  commands.foldl perform notifying

/-! ## Exact lists -/

/-- The lists of consumers are exact: the consumer of a handle stands, once, in the list of its own
query, and in no other. -/
structure Exact (notifying : NotifyingStore) : Prop where
  /-- There is a list for every live query. -/
  length_eq : notifying.notified.length = notifying.store.queries.length
  /-- No list names a consumer twice. -/
  nodup : ∀ handles ∈ notifying.notified, handles.Nodup
  /-- A list names the consumers whose query it belongs to. -/
  mem_iff : ∀ (query : QueryId) handles, notifying.notified[query.index]? = some handles →
    ∀ handle : ConsumerId, handle ∈ handles ↔
      (notifying.store.consumers.map Prod.fst)[handle.index]? = some query

variable {notifying : NotifyingStore}

lemma exact_empty (schema : Schema) (historyDepth : Nat) : (empty schema historyDepth).Exact where
  length_eq := rfl
  nodup := fun _ h => absurd h List.not_mem_nil
  mem_iff := fun _ _ h => by cases h

/-- The lists stay exact while queries and consumers stay where they are. -/
lemma Exact.of_map_fst_eq (h : notifying.Exact) {store : Store}
    (hqueries : store.queries.length = notifying.store.queries.length)
    (hconsumers : store.consumers.map Prod.fst = notifying.store.consumers.map Prod.fst) :
    Exact { notifying with store } where
  length_eq := h.length_eq.trans hqueries.symm
  nodup := h.nodup
  mem_iff := by
    rw [hconsumers]
    exact h.mem_iff

/-! ## Going through the lists -/

lemma injective_index : Function.Injective ConsumerId.index := by
  rintro ⟨i⟩ ⟨j⟩ h
  exact congrArg ConsumerId.mk h

/-- A listed consumer is told once.  Others stay as they are, and nobody is moved. -/
lemma getElem?_tell (id : EntityId) (transition : Transition) {handles : List ConsumerId}
    (hnodup : handles.Nodup) (consumers : List (QueryId × Consumer)) (handle : ConsumerId) :
    (tell id transition handles consumers)[handle.index]? =
      consumers[handle.index]?.map fun entry =>
        if handles.contains handle then (entry.1, entry.2.observe id transition) else entry :=
  getElem?_foldl_modify injective_index _ hnodup consumers handle

/-- A query that lists its consumers has each of them observe what the commit does to it, and no
other consumer learns anything. -/
lemma getElem?_notify {commit : Commit} {consumers : List (QueryId × Consumer)} {live : LiveQuery}
    {handles : List ConsumerId} {query : QueryId} (hnodup : handles.Nodup)
    (hmem : ∀ handle : ConsumerId,
      handle ∈ handles ↔ (consumers.map Prod.fst)[handle.index]? = some query)
    (handle : ConsumerId) :
    (notify commit consumers (live, handles))[handle.index]? =
      consumers[handle.index]?.map fun entry =>
        if entry.1 = query then
          (entry.1, (live.transition? commit).elim entry.2 (entry.2.observe commit.id))
        else entry := by
  -- a handle that was not given out is listed nowhere
  cases hentry : consumers[handle.index]? with
  | none =>
    rw [notify]
    split
    · rw [hentry]; rfl
    · rw [getElem?_tell _ _ hnodup, hentry]; rfl
  | some entry =>
    have hlisted : handles.contains handle = decide (entry.1 = query) := by
      rw [Bool.eq_iff_iff, List.contains_iff_mem, hmem, List.getElem?_map, hentry]
      simp
    rw [notify]
    dsimp only
    cases live.transition? commit with
    | none =>
      dsimp only
      rw [hentry]
      simp
    | some transition =>
      dsimp only
      rw [getElem?_tell _ _ hnodup, hentry, hlisted]
      simp

/-- With one more query, the consumers of that query observe something, and the others what they
observed before. -/
lemma observe_append (queries : List LiveQuery) (live : LiveQuery) (commit : Commit)
    (entry : QueryId × Consumer) :
    Store.observe (queries ++ [live]) commit entry =
      if entry.1 = ⟨queries.length⟩ then
        (entry.1, (live.transition? commit).elim entry.2 (entry.2.observe commit.id))
      else Store.observe queries commit entry := by
  split
  next hlast =>
    exact Store.observe_eq (by rw [hlast]; exact List.getElem?_concat_length)
  next hother =>
    have hne : entry.1.index ≠ queries.length := fun h => hother (congrArg QueryId.mk h)
    have hget : (queries ++ [live])[entry.1.index]? = queries[entry.1.index]? := by
      rcases Nat.lt_or_gt_of_ne hne with hlt | hgt
      · exact List.getElem?_append_left hlt
      · rw [List.getElem?_eq_none (by simp; omega), List.getElem?_eq_none (by omega)]
    rw [Store.observe, Store.observe, hget]

lemma fst_observe (queries : List LiveQuery) (commit : Commit) (entry : QueryId × Consumer) :
    (Store.observe queries commit entry).1 = entry.1 := by
  rw [Store.observe]
  split <;> rfl

/-- A consumer of a query that is not live observes nothing. -/
lemma observe_of_length (queries : List LiveQuery) (commit : Commit) {entry : QueryId × Consumer}
    (h : entry.1 = ⟨queries.length⟩) : Store.observe queries commit entry = entry := by
  have hnone : queries[entry.1.index]? = none := by
    rw [h]
    exact List.getElem?_eq_none (Nat.le_refl _)
  rw [Store.observe, hnone]
  rfl

/-- Going through the queries and their exact lists, every consumer observes what happens to its own
query. -/
theorem foldl_notify_eq (commit : Commit) (listed : List (LiveQuery × List ConsumerId))
    (consumers : List (QueryId × Consumer))
    (h : ∀ (query : QueryId) live handles, listed[query.index]? = some (live, handles) →
      handles.Nodup ∧ ∀ handle : ConsumerId,
        handle ∈ handles ↔ (consumers.map Prod.fst)[handle.index]? = some query) :
    listed.foldl (notify commit) consumers =
      consumers.map (Store.observe (listed.map Prod.fst) commit) := by
  induction listed using List.reverseRecOn with
  | nil =>
    have hsame : Store.observe [] commit = id := by
      funext entry
      rfl
    rw [List.map_nil, hsame, List.map_id, List.foldl_nil]
  | append_singleton listed last ih =>
    obtain ⟨live, handles⟩ := last
    have hbefore := ih fun query live handles hget =>
      h query live handles (by
        rw [List.getElem?_append_left (List.getElem?_eq_some_iff.mp hget).1]
        exact hget)
    have hqueries : (listed.foldl (notify commit) consumers).map Prod.fst =
        consumers.map Prod.fst := by
      rw [hbefore, List.map_map]
      exact List.map_congr_left fun entry _ => fst_observe _ commit entry
    obtain ⟨hnodup, hmem⟩ := h ⟨listed.length⟩ live handles List.getElem?_concat_length
    rw [← hqueries] at hmem
    rw [List.foldl_append, List.foldl_cons, List.foldl_nil]
    refine List.ext_getElem? fun i => ?_
    rw [getElem?_notify hnodup hmem ⟨i⟩, hbefore, List.getElem?_map, List.getElem?_map,
      Option.map_map]
    congr 1
    funext entry
    rw [Function.comp_apply, List.map_append, List.map_singleton, observe_append, fst_observe,
      List.length_map]
    split
    next hlast => rw [observe_of_length _ commit (by rw [hlast, List.length_map])]
    next => rfl

/-! ## Commands -/

/-- A commit reaches the same consumers, through the lists or without them. -/
lemma Exact.commit (h : notifying.Exact) (next : StoreState × Commit) :
    (notifying.commit next).store = notifying.store.commit next ∧
      (notifying.commit next).Exact := by
  have hconsumers := foldl_notify_eq next.2 (notifying.store.queries.zip notifying.notified)
    notifying.store.consumers fun query live handles hget => by
      obtain ⟨-, hhandles⟩ := List.getElem?_zip_eq_some.mp hget
      exact ⟨h.nodup handles (List.mem_of_getElem? hhandles), h.mem_iff query handles hhandles⟩
  rw [List.map_fst_zip (Nat.le_of_eq h.length_eq.symm)] at hconsumers
  have hstore : (notifying.commit next).store = notifying.store.commit next := by
    rw [NotifyingStore.commit, Store.commit]
    split
    · rfl
    · dsimp only
      rw [hconsumers]
  have hnotified : (notifying.commit next).notified = notifying.notified := by
    rw [NotifyingStore.commit]
    split <;> rfl
  refine ⟨hstore, ?_⟩
  have hsame : notifying.commit next = { notifying with store := notifying.store.commit next } := by
    rw [← hstore, ← hnotified]
  rw [hsame]
  apply h.of_map_fst_eq
  · rw [Store.commit]
    split
    · rfl
    · exact List.length_map _
  · rw [Store.commit]
    split
    · rfl
    · rw [List.map_map]
      exact List.map_congr_left fun entry _ => fst_observe _ next.2 entry

/-- A query that becomes live lists nobody, and has no consumer. -/
lemma Exact.startQuery (h : notifying.Exact)
    (hserved : ∀ entry ∈ notifying.store.consumers,
      ∃ live, notifying.store.queries[entry.1.index]? = some live) (live : LiveQuery) :
    Exact {
      store := { notifying.store with queries := notifying.store.queries ++ [live] }
      notified := notifying.notified ++ [[]] } where
  length_eq := by rw [List.length_append, List.length_append, h.length_eq]; rfl
  nodup := by
    intro handles hhandles
    rcases List.mem_append.mp hhandles with hold | hnew
    · exact h.nodup handles hold
    · rw [List.mem_singleton.mp hnew]
      exact List.nodup_nil
  mem_iff := by
    intro query handles hhandles handle
    rw [List.getElem?_append] at hhandles
    split at hhandles
    next => exact h.mem_iff query handles hhandles handle
    next hlength =>
      obtain rfl : handles = [] := List.mem_singleton.mp (List.mem_of_getElem? hhandles)
      refine iff_of_false List.not_mem_nil fun hquery => hlength ?_
      rw [List.getElem?_map, Option.map_eq_some_iff] at hquery
      obtain ⟨entry, hentry, rfl⟩ := hquery
      obtain ⟨served, hlive⟩ := hserved entry (List.mem_of_getElem? hentry)
      rw [h.length_eq]
      exact (List.getElem?_eq_some_iff.mp hlive).1

/-- A new consumer stands behind the others in the list of its query. -/
lemma Exact.startConsumer (h : notifying.Exact) (query : QueryId) (consumer : Consumer) :
    Exact {
      store := { notifying.store with
        consumers := notifying.store.consumers ++ [(query, consumer)] }
      notified := notifying.notified.modify query.index
        (· ++ [⟨notifying.store.consumers.length⟩]) } where
  length_eq := (List.length_modify _ _ _).trans h.length_eq
  nodup := by
    intro handles hhandles
    obtain ⟨i, hi⟩ := List.getElem?_of_mem hhandles
    rw [List.getElem?_modify] at hi
    obtain ⟨old, hold, rfl⟩ := Option.map_eq_some_iff.mp hi
    have hnodup := h.nodup old (List.mem_of_getElem? hold)
    split
    next =>
      refine List.nodup_append.mpr ⟨hnodup, List.nodup_singleton _, fun a ha b hb hab => ?_⟩
      rw [hab, List.mem_singleton.mp hb, h.mem_iff ⟨i⟩ old hold, List.getElem?_eq_none (by simp)]
        at ha
      cases ha
    next => exact hnodup
  mem_iff := by
    intro other handles hhandles handle
    rw [List.getElem?_modify] at hhandles
    obtain ⟨old, hold, rfl⟩ := Option.map_eq_some_iff.mp hhandles
    have hhandle : handle = ⟨notifying.store.consumers.length⟩ ↔
        handle.index = notifying.store.consumers.length :=
      ⟨congrArg ConsumerId.index, fun hindex => injective_index hindex⟩
    rw [List.map_append, List.map_singleton, getElem?_concat_eq_some_iff, List.length_map,
      ← h.mem_iff other old hold]
    split
    next hquery =>
      rw [List.mem_append, List.mem_singleton, hhandle]
      have hother : query = other := by
        cases query
        cases other
        exact congrArg QueryId.mk hquery
      simp [hother]
    next hquery =>
      have hother : query ≠ other := fun heq => hquery (congrArg QueryId.index heq)
      simp [hother]

/-- A consumer that is replaced keeps its query. -/
lemma map_fst_setConsumer {store : Store} {id : ConsumerId} {query : QueryId} {old : Consumer}
    (h : store.consumer id = .ok (query, old)) (consumer : Consumer) :
    (store.setConsumer id query consumer).consumers.map Prod.fst =
      store.consumers.map Prod.fst := by
  obtain ⟨hlt, hget⟩ := List.getElem?_eq_some_iff.mp (Store.consumer_eq_ok_iff.mp h)
  rw [Store.setConsumer, List.map_set]
  have hbound : id.index < (store.consumers.map Prod.fst).length := by rwa [List.length_map]
  have hquery : (store.consumers.map Prod.fst)[id.index] = query := by
    rw [List.getElem_map, hget]
  rw [← hquery, List.set_getElem_self]

/-- Draining, resetting and asking a query touch no list. -/
lemma Exact.keep (h : notifying.Exact) (hs : notifying.store.current.WellFormed)
    {command : StoreCommand}
    (hcommand : (∃ query, command = .matching query) ∨ (∃ id, command = .drain id) ∨
      ∃ id, command = .resetConsumer id) :
    Exact { notifying with store := notifying.store.perform command } := by
  have hstep := Store.step_perform hs command
  generalize notifying.store.perform command = next at hstep
  cases hstep with
  | idle => exact h
  | commits hproposal => rcases hcommand with ⟨_, rfl⟩ | ⟨_, rfl⟩ | ⟨_, rfl⟩ <;> cases hproposal
  | caches => exact h.of_map_fst_eq rfl rfl
  | drains hconsumer => exact h.of_map_fst_eq rfl (map_fst_setConsumer hconsumer _)
  | resets hconsumer => exact h.of_map_fst_eq rfl (map_fst_setConsumer hconsumer _)
  | startsQuery | startsConsumer => simp at hcommand

/-- Keeping lists changes nothing about a command, and the lists stay exact. -/
lemma Exact.perform {schema : Schema} (h : notifying.Exact)
    (hs : notifying.store.Accountable schema) (command : StoreCommand) :
    (notifying.perform command).store = notifying.store.perform command ∧
      (notifying.perform command).Exact := by
  have hcommits : command.commits = true →
      ((notifying.store.proposal? command).elim notifying notifying.commit).store =
          notifying.store.perform command ∧
        ((notifying.store.proposal? command).elim notifying notifying.commit).Exact := by
    intro hcommits
    rw [Store.perform_of_commits _ hcommits]
    cases notifying.store.proposal? command with
    | none => exact ⟨rfl, h⟩
    | some next => exact h.commit next
  cases command with
  | register | deregister | quickEntity | updateInPlace | flagUpdate => exact hcommits rfl
  | matching query => exact ⟨rfl, h.keep hs.current.2 (.inl ⟨query, rfl⟩)⟩
  | drain id => exact ⟨rfl, h.keep hs.current.2 (.inr (.inl ⟨id, rfl⟩))⟩
  | resetConsumer id => exact ⟨rfl, h.keep hs.current.2 (.inr (.inr ⟨id, rfl⟩))⟩
  | createQuery spec =>
    rw [NotifyingStore.perform, NotifyingStore.createQuery, Store.perform, Store.createQuery]
    cases (spec.resolve notifying.store.schema).mapError StoreError.query with
    | error reason => exact ⟨rfl, h⟩
    | ok query =>
      rw [ok_bind]
      cases hfound : notifying.store.queries.findIdx? (·.query == query) with
      | some i =>
        have hlt : i < notifying.notified.length := by
          rw [h.length_eq]
          exact (List.findIdx?_eq_some_iff_getElem.mp hfound).1
        simp [hlt, pure, Except.pure, h]
      | none =>
        have hlength := h.length_eq
        simpa [hlength, pure, Except.pure] using h.startQuery hs.served (.start query _)
  | createConsumer query =>
    rw [NotifyingStore.perform, NotifyingStore.createConsumer, Store.perform,
      Store.createConsumer]
    cases notifying.store.query query with
    | error reason => exact ⟨rfl, h⟩
    | ok live => exact ⟨rfl, h.startConsumer query _⟩

/-- **Lists of consumers come to the same.**  A run that has every live query notify the consumers
in its list goes through the same stores as one in which every consumer looks at its own query; and
the lists are exact at its end. -/
theorem run_eq (schema : Schema) (historyDepth : Nat) (commands : List StoreCommand) :
    ((empty schema historyDepth).run commands).store =
        (Store.empty schema historyDepth).run commands ∧
      ((empty schema historyDepth).run commands).Exact := by
  induction commands using List.reverseRecOn with
  | nil => exact ⟨rfl, exact_empty schema historyDepth⟩
  | append_singleton commands command ih =>
    obtain ⟨hstore, hexact⟩ := ih
    have hs := Store.accountable_run schema historyDepth commands
    have happend : (empty schema historyDepth).run (commands ++ [command]) =
        ((empty schema historyDepth).run commands).perform command := List.foldl_append
    rw [happend, Store.run_append, Store.run_cons, Store.run_nil]
    rw [← hstore] at hs ⊢
    exact hexact.perform hs command

end NotifyingStore

end SceneEngine
