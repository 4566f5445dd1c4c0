import SceneEngine.Proofs.Store.Run

/-!
# Members of live queries

A query selects the registered entities that have what it includes and lack what it excludes.  Two
computations arrive at this set in different ways: looking it up in the index, which starts from the
rarest component and narrows its holders down, and following every commit from the moment the query
was made live.  This module shows that both give what the query selects, and hence the same.

## What a query selects

`Query.Selects` is the brute-force reading: the entity is registered, and its components are
compared with those of the query.  It mentions neither the index nor the members.

## Looking it up

`Query.mem_matching` says that the index finds exactly the selected entities, in any well-formed
state.  The search may start from any component that the query includes, since whatever is selected
is a holder of each; that it takes the rarest is a matter of speed.  If nothing is included it
starts from all entities.

## Following commits

A commit enters, leaves, stays or does not concern the query (`LiveQuery.transition?_cases`), and
afterwards its entity is a member when its new value is accepted (`LiveQuery.mem_members_follow`).
`LiveQuery.UpToDate` is the invariant and `LiveQuery.upToDate_follow` its step.  `Store.Consistent`
says it of all live queries of a store, and `Store.queries_perform` is how properties of live
queries are carried over commands.

The main result is `Store.members_exact`.
-/

namespace SceneEngine

/-! ## Looking up the index -/

namespace Query

variable {query : Query} {state : StoreState} {id : EntityId}

/-- The entity is registered, has all that the query includes and nothing that it excludes. -/
def Selects (query : Query) (state : StoreState) (id : EntityId) : Prop :=
  ∃ entity, state.get? id = some entity ∧
    (∀ c, query.includes.contains c = true → entity.has c = true) ∧
    ∀ c, query.excludes.contains c = true → entity.has c = false

lemma selects_iff :
    query.Selects state id ↔
      ∃ entity, state.get? id = some entity ∧ query.accepts entity = true := by
  simp only [Selects, accepts_iff]

/-- Only a component that is asked about can be the rarest, and none is when none is asked about.
Which one it is does not matter here. -/
lemma rarest?_cases (state : StoreState) (components : List ComponentId) :
    (components = [] ∧ rarest? state components = none) ∨
      ∃ c ∈ components, rarest? state components = some c := by
  cases components with
  | nil => exact Or.inl ⟨rfl, rfl⟩
  | cons c components =>
    right
    unfold rarest?
    rw [List.foldl_cons]
    -- from the first component on the fold always has one of those seen so far
    refine List.foldlRecOn (motive := fun best? => ∃ best ∈ c :: components, best? = some best)
      components _ ⟨c, List.mem_cons_self, rfl⟩ ?_
    rintro _ ⟨best, hbest, rfl⟩ d hd
    dsimp only
    split
    · exact ⟨d, List.mem_cons_of_mem _ hd, rfl⟩
    · exact ⟨best, hbest, rfl⟩

/-- The index finds exactly the selected entities. -/
theorem mem_matching (hs : state.WellFormed) :
    id ∈ query.matching state ↔ query.Selects state id := by
  -- what the narrowing says about a registered entity
  have hkeep : (query.includes.toList.all (fun c => decide (id ∈ state.holders c)) &&
      !query.excludes.toList.any fun c => decide (id ∈ state.holders c)) = true ↔
      (∀ c, query.includes.contains c = true → id ∈ state.holders c) ∧
        ∀ c, query.excludes.contains c = true → id ∉ state.holders c := by
    simp
  rw [matching, List.mem_filter, hkeep]
  constructor
  · rintro ⟨hcandidate, hincluded, hexcluded⟩
    have hregistered : ∃ entity, state.get? id = some entity := by
      -- the search starts from all entities, or from the holders of an included component
      rcases rarest?_cases state query.includes.toList with ⟨-, hnone⟩ | ⟨c, -, hsome⟩
      · rw [hnone] at hcandidate
        obtain ⟨record, hrecord⟩ := OrderedMap.mem_keys_iff.mp hcandidate
        exact ⟨record.entity, by rw [StoreState.get?, hrecord]; rfl⟩
      · rw [hsome] at hcandidate
        obtain ⟨entity, hentity, -⟩ := (hs.mem_holders c id).mp hcandidate
        exact ⟨entity, hentity⟩
    obtain ⟨entity, hentity⟩ := hregistered
    have hholds := hs.mem_holders_iff hentity
    refine ⟨entity, hentity, fun c hc => (hholds c).mp (hincluded c hc), fun c hc => ?_⟩
    exact Bool.eq_false_iff.mpr fun hhas => hexcluded c hc ((hholds c).mpr hhas)
  · rintro ⟨entity, hentity, hincluded, hexcluded⟩
    have hholds := hs.mem_holders_iff hentity
    refine ⟨?_, fun c hc => (hholds c).mpr (hincluded c hc), fun c hc hmem => ?_⟩
    · rcases rarest?_cases state query.includes.toList with ⟨-, hnone⟩ | ⟨c, hc, hsome⟩
      · rw [hnone]
        obtain ⟨record, hrecord, -⟩ := Option.map_eq_some_iff.mp hentity
        exact OrderedMap.mem_keys_iff.mpr ⟨record, hrecord⟩
      · rw [hsome]
        exact (hholds c).mpr (hincluded c (ComponentSet.mem_toList.mp hc))
    · exact Bool.false_ne_true ((hexcluded c hc).symm.trans ((hholds c).mp hmem))

end Query

/-! ## Following commits -/

namespace LiveQuery

variable {live : LiveQuery} {commit : Commit} {id : EntityId}

@[simp] lemma query_addToGroup (live : LiveQuery) (id : EntityId) (key? : Option IndexKey) :
    (live.addToGroup id key?).query = live.query := by
  cases key? <;> rfl

@[simp] lemma members_addToGroup (live : LiveQuery) (id : EntityId) (key? : Option IndexKey) :
    (live.addToGroup id key?).members = live.members := by
  cases key? <;> rfl

@[simp] lemma query_removeFromGroup (live : LiveQuery) (id : EntityId) (key? : Option IndexKey) :
    (live.removeFromGroup id key?).query = live.query := by
  cases key? with
  | none => rfl
  | some key =>
    rw [removeFromGroup]
    cases live.groups.get? key <;> rfl

@[simp] lemma members_removeFromGroup (live : LiveQuery) (id : EntityId)
    (key? : Option IndexKey) : (live.removeFromGroup id key?).members = live.members := by
  cases key? with
  | none => rfl
  | some key =>
    rw [removeFromGroup]
    cases live.groups.get? key <;> rfl

/-- A commit to an entity that was registered, if it was a member, makes it enter, leave or stay
according to whether the query accepts its new value.  These are the four cases of membership before
and after. -/
lemma transition?_cases (hbefore : commit.id ∈ live.members → commit.before?.isSome = true) :
    (commit.id ∉ live.members ∧ commit.after?.any live.query.accepts = false ∧
      live.transition? commit = none) ∨
    (commit.id ∉ live.members ∧ commit.after?.any live.query.accepts = true ∧
      live.transition? commit = some .enters) ∨
    (commit.id ∈ live.members ∧ commit.after?.any live.query.accepts = false ∧
      ∃ before, commit.before? = some before ∧
        live.transition? commit = some (.leaves before)) ∨
    (commit.id ∈ live.members ∧ commit.after?.any live.query.accepts = true ∧
      live.transition? commit = some (.stays (live.query.watched commit.changed))) := by
  by_cases hwas : commit.id ∈ live.members
  · obtain ⟨before, hsome⟩ := Option.isSome_iff_exists.mp (hbefore hwas)
    cases hnow : commit.after?.any live.query.accepts <;> simp [transition?, hwas, hnow, hsome]
  · cases hnow : commit.after?.any live.query.accepts <;> simp [transition?, hwas, hnow]

@[simp] lemma query_follow (live : LiveQuery) (commit : Commit) :
    (live.follow commit).query = live.query := by
  rw [follow]
  split <;> try split
  all_goals simp

/-- After a commit its entity is a member when its new value is accepted, and every other entity
when it was one before. -/
lemma mem_members_follow (hbefore : commit.id ∈ live.members → commit.before?.isSome = true) :
    id ∈ (live.follow commit).members ↔
      if id = commit.id then commit.after?.any live.query.accepts = true
      else id ∈ live.members := by
  rcases transition?_cases hbefore with ⟨hwas, hnow, htransition⟩ | ⟨hwas, hnow, htransition⟩ |
    ⟨hwas, hnow, before, -, htransition⟩ | ⟨hwas, hnow, htransition⟩
  · simp only [follow, htransition, hnow]
    by_cases hid : id = commit.id <;> simp [hid, hwas]
  · simp only [follow, htransition, hnow, members_addToGroup, OrderedSet.mem_insert]
    by_cases hid : id = commit.id <;> simp [hid]
  · simp only [follow, htransition, hnow, members_removeFromGroup, OrderedSet.mem_erase]
    by_cases hid : id = commit.id <;> simp [hid]
  · simp only [follow, htransition, hnow]
    split
    · by_cases hid : id = commit.id <;> simp [hid, hwas]
    · rw [members_addToGroup, members_removeFromGroup]
      by_cases hid : id = commit.id <;> simp [hid, hwas]

/-- The members are the entities that the query selects in a state. -/
def UpToDate (live : LiveQuery) (state : StoreState) : Prop :=
  ∀ id, id ∈ live.members ↔ live.query.Selects state id

/-- A member is registered. -/
lemma UpToDate.isSome_get? {state : StoreState} (h : live.UpToDate state)
    (hmem : id ∈ live.members) : (state.get? id).isSome = true := by
  obtain ⟨entity, hentity, -⟩ := (h id).mp hmem
  simp [hentity]

lemma start_eq (query : Query) (state : StoreState) :
    (start query state).query = query ∧
      (start query state).members = .ofList (query.matching state) := by
  have hfold : ∀ (entities : List Entity) (live : LiveQuery),
      let live' := entities.foldl
        (fun live entity => live.addToGroup entity.id (live.keyOf? entity)) live
      live'.query = live.query ∧ live'.members = live.members := by
    intro entities
    induction entities with
    | nil => exact fun live => ⟨rfl, rfl⟩
    | cons entity entities ih =>
      intro live
      obtain ⟨hquery, hmembers⟩ := ih (live.addToGroup entity.id (live.keyOf? entity))
      exact ⟨hquery.trans (query_addToGroup _ _ _), hmembers.trans (members_addToGroup _ _ _)⟩
  exact hfold _ _

/-- A query that is made live starts with the selected entities. -/
lemma upToDate_start (query : Query) {state : StoreState} (hs : state.WellFormed) :
    (start query state).UpToDate state := by
  intro id
  rw [(start_eq query state).1, (start_eq query state).2, OrderedSet.mem_ofList,
    Query.mem_matching hs]

/-- Following an effective commit keeps a live query up to date. -/
theorem upToDate_follow {state : StoreState} {next : StoreState × Commit}
    {record? : Option EntityRecord} (h : live.UpToDate state)
    (hadvance : state.Advances next record?) : (live.follow next.2).UpToDate next.1 := by
  intro id
  have hbefore : next.2.id ∈ live.members → next.2.before?.isSome = true := by
    intro hmem
    rw [hadvance.before_eq]
    exact h.isSome_get? hmem
  rw [mem_members_follow hbefore, query_follow, Query.selects_iff, hadvance.get?_eq]
  by_cases hid : id = next.2.id
  · simp [hid, Option.any_eq_true]
  · rw [if_neg hid, if_neg hid, h id, Query.selects_iff]

end LiveQuery

/-! ## Live queries of a store -/

namespace Store

/-- The states of a store are well-formed and its live queries up to date.  The earlier states that
a store keeps have no live queries, so nothing is said of their members. -/
structure Consistent (schema : Schema) (store : Store) : Prop extends store.WellFormed schema where
  /-- Every live query has the members that it selects in the current state. -/
  upToDate : ∀ live ∈ store.queries, live.UpToDate store.current

lemma consistent_empty (schema : Schema) (historyDepth : Nat) :
    (Store.empty schema historyDepth).Consistent schema where
  toWellFormed := wellFormed_empty schema historyDepth
  upToDate := fun _ h => absurd h List.not_mem_nil

/-- What holds of a live query when it starts, and still holds when it has followed a commit, holds
of all live queries after a command. -/
lemma queries_perform {store : Store} {P : StoreState → LiveQuery → Prop}
    (hs : store.current.WellFormed) (hstart : ∀ query, P store.current (.start query store.current))
    (hfollow : ∀ live ∈ store.queries, ∀ next record?, store.current.Advances next record? →
      P next.1 (live.follow next.2))
    (h : ∀ live ∈ store.queries, P store.current live) (command : StoreCommand) :
    ∀ live ∈ (store.perform command).queries, P (store.perform command).current live := by
  have hstep := step_perform hs command
  generalize store.perform command = store' at hstep
  cases hstep with
  | commits _ hadvance =>
    rw [commit_eq hadvance.effective]
    intro live hlive
    obtain ⟨old, hold, rfl⟩ := List.mem_map.mp hlive
    exact hfollow old hold _ _ hadvance
  | startsQuery =>
    intro live hlive
    rcases List.mem_append.mp hlive with hold | hnew
    · exact h live hold
    · rw [List.mem_singleton.mp hnew]
      exact hstart _
  | idle | startsConsumer | resets | drains | caches => exact h

lemma consistent_perform {schema : Schema} (store : Store) (command : StoreCommand)
    (hs : store.Consistent schema) : (store.perform command).Consistent schema where
  toWellFormed := wellFormed_perform store command hs.toWellFormed
  upToDate := queries_perform (P := fun state live => live.UpToDate state) hs.current.2
    (fun query => LiveQuery.upToDate_start query hs.current.2)
    (fun live hlive _ _ hadvance => LiveQuery.upToDate_follow (hs.upToDate live hlive) hadvance)
    hs.upToDate command

lemma consistent_run (schema : Schema) (historyDepth : Nat) (commands : List StoreCommand) :
    ((Store.empty schema historyDepth).run commands).Consistent schema :=
  run_preserves consistent_perform (consistent_empty schema historyDepth) commands

/-- **Members are exact.**  After any run, the members of a live query are listed once each; they
are what the index finds, and they are the entities that the query selects. -/
theorem members_exact (schema : Schema) (historyDepth : Nat) (commands : List StoreCommand)
    (live : LiveQuery)
    (hlive : live ∈ ((Store.empty schema historyDepth).run commands).queries) :
    live.members.toList.Nodup ∧
      ∀ id,
        (id ∈ live.members ↔
          id ∈ live.query.matching ((Store.empty schema historyDepth).run commands).current) ∧
        (id ∈ live.members ↔
          live.query.Selects ((Store.empty schema historyDepth).run commands).current id) := by
  have hs := consistent_run schema historyDepth commands
  refine ⟨live.members.nodup, fun id => ?_⟩
  have hselects := hs.upToDate live hlive id
  exact ⟨hselects.trans (Query.mem_matching hs.current.2).symm, hselects⟩

/-- The members of the query of `typedCommands` are exact, and there is one. -/
theorem members_exact_typed :
    ∃ live ∈ ((Store.empty typedSchema 0).run typedCommands).queries,
      live.members.toList.length = 1 ∧ live.members.toList.Nodup ∧
        ∀ id,
          (id ∈ live.members ↔
            id ∈ live.query.matching ((Store.empty typedSchema 0).run typedCommands).current) ∧
          (id ∈ live.members ↔
            live.query.Selects ((Store.empty typedSchema 0).run typedCommands).current id) := by
  have hlength : 0 < ((Store.empty typedSchema 0).run typedCommands).queries.length := by
    decide +kernel
  refine ⟨_, List.getElem_mem hlength, by decide +kernel +revert, ?_⟩
  exact members_exact typedSchema 0 typedCommands _ (List.getElem_mem hlength)

end Store

end SceneEngine
