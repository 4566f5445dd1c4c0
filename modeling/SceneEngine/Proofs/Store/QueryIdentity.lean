import SceneEngine.Proofs.Store.Consumers
import SceneEngine.Proofs.Store.Singletons

/-!
# Which specifications share a query

A specification names components in any order, and as often as it likes.  What it means does not
depend on that, and two specifications that mean the same should lead to one live query, so that its
members are followed once.  Two that mean different things must not share one, whatever their names
look like.

## What a specification means

A specification can be resolved when every name is declared and no component is both included and
excluded (`QuerySpec.exists_resolve_iff`).  `QuerySpec.SameMeaning` compares two specifications by
the components that their names stand for: those to include, those to exclude, and the key.  The
query that comes out of resolving is known by just these (`QuerySpec.Means.eq_iff`).  It also has a
canonical name, but that is computed from its components and adds nothing; so queries whose names
happen to be the same are still told apart.

## Live queries

A store makes a query live only if no equal one is live (`Store.createQuery_cases`), and never gives
up or moves a live one (`Distinct.run`).  `Store.asked` lists the queries that are live; along a run
this list only gets longer, and handles are positions in it.

The main result is `Store.queries_identified`: two specifications get the same handle exactly when
they mean the same, whenever they are made live and whatever happens in between.
-/

namespace SceneEngine

/-! ## Declared names -/

namespace Schema

variable {schema : Schema} {name : String} {names : List String} {c : ComponentId}
  {components : List ComponentId}

/-- A component is declared under a name. -/
def Declares (schema : Schema) (name : String) (c : ComponentId) : Prop :=
  (schema.def? c).map ComponentDef.name = some name

lemma declares_iff : schema.Declares name c ↔ c.val < schema.size ∧ schema.name c = name := by
  rw [Declares, Schema.name, def?]
  by_cases hc : c.val < schema.size
  · simp [List.getElem?_eq_getElem hc, hc]
  · have hnone : schema.defs[c.val]? = none := List.getElem?_eq_none (Nat.le_of_not_lt hc)
    simp [hnone, hc]

/-- A name stands for the component that is declared under it. -/
lemma id?_eq_some_iff : schema.id? name = some c ↔ schema.Declares name c := by
  rw [declares_iff]
  constructor
  · exact of_id?_eq_some
  · rintro ⟨hc, rfl⟩
    exact id?_name hc

lemma lookup_eq_ok_iff : schema.lookup name = .ok c ↔ schema.Declares name c := by
  rw [← id?_eq_some_iff, lookup]
  cases schema.id? name <;> simp

/-- Names are resolved together when each of them is declared. -/
lemma exists_mapM_lookup_iff :
    (∃ components, names.mapM schema.lookup = .ok components) ↔
      ∀ name ∈ names, ∃ c, schema.Declares name c := by
  constructor
  · rintro ⟨components, h⟩ name hname
    obtain ⟨c, hc⟩ := exists_of_mapM_eq_ok h hname
    exact ⟨c, lookup_eq_ok_iff.mp hc⟩
  · intro h
    cases hresult : names.mapM schema.lookup with
    | ok components => exact ⟨components, rfl⟩
    | error e =>
      obtain ⟨name, hname, herror⟩ := exists_of_mapM_eq_error hresult
      obtain ⟨c, hc⟩ := h name hname
      rw [lookup_eq_ok_iff.mpr hc] at herror
      cases herror

/-- The components that a list of names resolves to are those declared under one of the names. -/
lemma mem_mapM_lookup_iff (h : names.mapM schema.lookup = .ok components) :
    c ∈ components ↔ ∃ name ∈ names, schema.Declares name c := by
  rw [mem_iff_of_mapM_eq_ok h]
  simp only [lookup_eq_ok_iff]

variable {name? : Option String} {c? : Option ComponentId}

/-- A key is resolved when its name is; no key always is. -/
lemma exists_lookup_key_iff :
    (∃ c?, name?.mapM schema.lookup = .ok c?) ↔ ∀ name ∈ name?, ∃ c, schema.Declares name c := by
  cases name? with
  | none => exact iff_of_true ⟨none, rfl⟩ (by simp)
  | some name =>
    simp only [Option.mem_some_iff, forall_eq', ← lookup_eq_ok_iff]
    cases hname : schema.lookup name <;> simp [hname]

lemma eq_key_iff (h : name?.mapM schema.lookup = .ok c?) :
    c? = some c ↔ ∃ name ∈ name?, schema.Declares name c := by
  cases name? with
  | none =>
    cases h
    simp
  | some name =>
    simp only [Option.mem_some_iff, exists_eq_left', ← lookup_eq_ok_iff]
    cases hname : schema.lookup name with
    | error e => simp [hname] at h
    | ok c' =>
      obtain rfl : some c' = c? := by simpa [hname] using h
      simp

end Schema

/-! ## What a specification means -/

namespace QuerySpec

variable {schema : Schema} {spec spec' : QuerySpec} {query query' : Query}

/-- A component is named among those to include. -/
def Includes (schema : Schema) (spec : QuerySpec) (c : ComponentId) : Prop :=
  ∃ name ∈ spec.includes, schema.Declares name c

/-- A component is named among those to exclude. -/
def Excludes (schema : Schema) (spec : QuerySpec) (c : ComponentId) : Prop :=
  ∃ name ∈ spec.excludes, schema.Declares name c

/-- A component is named as the key. -/
def HasKey (schema : Schema) (spec : QuerySpec) (c : ComponentId) : Prop :=
  ∃ name ∈ spec.keyedBy?, schema.Declares name c

/-- All names are declared, and no component is both included and excluded. -/
structure Resolvable (schema : Schema) (spec : QuerySpec) : Prop where
  /-- What is to be included is declared, -/
  includes : ∀ name ∈ spec.includes, ∃ c, schema.Declares name c
  /-- what is to be excluded, -/
  excludes : ∀ name ∈ spec.excludes, ∃ c, schema.Declares name c
  /-- and the key, if there is one. -/
  key : ∀ name ∈ spec.keyedBy?, ∃ c, schema.Declares name c
  /-- Nothing is asked to be there and not to be there. -/
  apart : ∀ c, ¬(spec.Includes schema c ∧ spec.Excludes schema c)

/-- Two specifications include and exclude the same components and have the same key.  Order,
repetition and the names themselves do not count. -/
structure SameMeaning (schema : Schema) (spec spec' : QuerySpec) : Prop where
  /-- The same components are included, -/
  includes : ∀ c, spec.Includes schema c ↔ spec'.Includes schema c
  /-- the same are excluded, -/
  excludes : ∀ c, spec.Excludes schema c ↔ spec'.Excludes schema c
  /-- and the key is the same, or there is none in either. -/
  key : ∀ c, spec.HasKey schema c ↔ spec'.HasKey schema c

/-- A query asks for what a specification says, under the canonical name. -/
structure Means (schema : Schema) (spec : QuerySpec) (query : Query) : Prop where
  name_eq : query.name = Query.canonicalName schema query.includes query.excludes
  includes_iff : ∀ c, query.includes.contains c = true ↔ spec.Includes schema c
  excludes_iff : ∀ c, query.excludes.contains c = true ↔ spec.Excludes schema c
  key_iff : ∀ c, query.key? = some c ↔ spec.HasKey schema c

/-- The name of a query says no more than its components do, so queries are equal exactly when their
specifications mean the same. -/
lemma Means.eq_iff (h : spec.Means schema query) (h' : spec'.Means schema query') :
    query = query' ↔ spec.SameMeaning schema spec' := by
  constructor
  · rintro rfl
    exact ⟨fun c => (h.includes_iff c).symm.trans (h'.includes_iff c),
      fun c => (h.excludes_iff c).symm.trans (h'.excludes_iff c),
      fun c => (h.key_iff c).symm.trans (h'.key_iff c)⟩
  · intro hsame
    have hincludes : query.includes = query'.includes := by
      ext c
      rw [Bool.eq_iff_iff, h.includes_iff, hsame.includes, h'.includes_iff]
    have hexcludes : query.excludes = query'.excludes := by
      ext c
      rw [Bool.eq_iff_iff, h.excludes_iff, hsame.excludes, h'.excludes_iff]
    have hkey : query.key? = query'.key? := by
      ext c
      rw [h.key_iff, hsame.key, h'.key_iff]
    have hname : query.name = query'.name := by
      rw [h.name_eq, h'.name_eq, hincludes, hexcludes]
    obtain ⟨name, includes, excludes, key?⟩ := query
    simp_all

/-- What is listed of the intersection is both included and excluded. -/
lemma mem_overlap_iff {includes excludes : List ComponentId} {c : ComponentId}
    (hincludes : spec.includes.mapM schema.lookup = .ok includes)
    (hexcludes : spec.excludes.mapM schema.lookup = .ok excludes) :
    c ∈ ((ComponentSet.ofList includes).intersection (.ofList excludes)).toList ↔
      spec.Includes schema c ∧ spec.Excludes schema c := by
  rw [ComponentSet.mem_toList, ComponentSet.contains_intersection, Bool.and_eq_true,
    ComponentSet.contains_ofList, ComponentSet.contains_ofList,
    Schema.mem_mapM_lookup_iff hincludes, Schema.mem_mapM_lookup_iff hexcludes]
  rfl

/-- A specification is resolved exactly when all its names are declared and nothing is both included
and excluded. -/
lemma exists_resolve_iff : (∃ query, spec.resolve schema = .ok query) ↔ spec.Resolvable schema := by
  constructor
  · rintro ⟨query, h⟩
    obtain ⟨includes, excludes, key?, hincludes, hexcludes, hkey, hnone, -⟩ :=
      resolve_eq_ok_iff.mp h
    refine ⟨Schema.exists_mapM_lookup_iff.mp ⟨includes, hincludes⟩,
      Schema.exists_mapM_lookup_iff.mp ⟨excludes, hexcludes⟩, ?_, fun c hc => ?_⟩
    · exact Schema.exists_lookup_key_iff.mp ⟨key?, hkey⟩
    · exact List.eq_nil_iff_forall_not_mem.mp hnone c
        ((mem_overlap_iff hincludes hexcludes).mpr hc)
  · intro h
    obtain ⟨includes, hincludes⟩ := Schema.exists_mapM_lookup_iff.mpr h.includes
    obtain ⟨excludes, hexcludes⟩ := Schema.exists_mapM_lookup_iff.mpr h.excludes
    obtain ⟨key?, hkey⟩ := Schema.exists_lookup_key_iff.mpr h.key
    have hnone : ((ComponentSet.ofList includes).intersection (.ofList excludes)).toList = [] :=
      List.eq_nil_iff_forall_not_mem.mpr fun c hc =>
        h.apart c ((mem_overlap_iff hincludes hexcludes).mp hc)
    exact ⟨_, resolve_eq_ok_iff.mpr
      ⟨includes, excludes, key?, hincludes, hexcludes, hkey, hnone, rfl⟩⟩

lemma means_of_resolve (h : spec.resolve schema = .ok query) : spec.Means schema query := by
  obtain ⟨includes, excludes, key?, hincludes, hexcludes, hkey, -, rfl⟩ := resolve_eq_ok_iff.mp h
  exact ⟨rfl, fun c => ComponentSet.contains_ofList.trans (Schema.mem_mapM_lookup_iff hincludes),
    fun c => ComponentSet.contains_ofList.trans (Schema.mem_mapM_lookup_iff hexcludes),
    fun c => Schema.eq_key_iff hkey⟩

end QuerySpec

/-! ## Live queries -/

namespace Store

variable {store next : Store} {spec spec' : QuerySpec} {query : Query} {id : QueryId}
  {command : StoreCommand}

/-- A query is made live, unless an equal one is live already.  In the second case the store stays
as it is. -/
lemma createQuery_cases (h : store.createQuery spec = .ok (id, next)) :
    ∃ query, spec.resolve store.schema = .ok query ∧
      ((next = store ∧ ∃ live, store.query id = .ok live ∧ live.query = query) ∨
        (∀ live ∈ store.queries, live.query ≠ query) ∧ id = ⟨store.queries.length⟩ ∧
          next = { store with queries := store.queries ++ [.start query store.current] }) := by
  obtain ⟨query, hresolve, h⟩ := bind_eq_ok_iff.mp h
  refine ⟨query, mapError_eq_ok_iff.mp hresolve, ?_⟩
  dsimp only at h
  split at h
  next i hfound =>
    obtain ⟨rfl, rfl⟩ := Prod.mk.inj (Except.ok.inj h)
    obtain ⟨hlt, hequal, -⟩ := List.findIdx?_eq_some_iff_getElem.mp hfound
    exact .inl ⟨rfl, store.queries[i],
      query_eq_ok_iff.mpr (List.getElem?_eq_getElem hlt), beq_iff_eq.mp hequal⟩
  next hnone =>
    obtain ⟨rfl, rfl⟩ := Prod.mk.inj (Except.ok.inj h)
    refine .inr ⟨fun live hlive hequal => ?_, rfl, rfl⟩
    have hother := List.findIdx?_eq_none_iff.mp hnone live hlive
    rw [hequal, beq_self_eq_true] at hother
    cases hother

/-- What can be resolved is made live. -/
lemma exists_createQuery (h : spec.resolve store.schema = .ok query) :
    ∃ id next, store.createQuery spec = .ok (id, next) := by
  have hresolve : (spec.resolve store.schema).mapError StoreError.query = .ok query := by
    rw [h]
    rfl
  cases hfound : store.queries.findIdx? (·.query == query) with
  | none => exact ⟨_, _, by rw [createQuery, hresolve, ok_bind]; simp only [hfound]; rfl⟩
  | some i => exact ⟨_, _, by rw [createQuery, hresolve, ok_bind]; simp only [hfound]; rfl⟩

/-- The queries that are live, in the order in which they were made so. -/
def asked (store : Store) : List Query := store.queries.map (·.query)

/-- The handle that is given out leads to the query of the specification. -/
lemma asked_createQuery (h : store.createQuery spec = .ok (id, next)) :
    ∃ query, spec.resolve store.schema = .ok query ∧ next.asked[id.index]? = some query ∧
      (next.asked = store.asked ∨ query ∉ store.asked ∧ next.asked = store.asked ++ [query]) := by
  obtain ⟨query, hresolve, ⟨rfl, live, hlive, rfl⟩ | ⟨hnew, rfl, rfl⟩⟩ := createQuery_cases h
  · refine ⟨live.query, hresolve, ?_, Or.inl rfl⟩
    rw [asked, List.getElem?_map, query_eq_ok_iff.mp hlive, Option.map_some]
  · have hasked : asked { store with queries := store.queries ++ [.start query store.current] } =
        store.asked ++ [query] := by
      rw [asked, List.map_append, List.map_singleton, (LiveQuery.start_eq query _).1, asked]
    refine ⟨query, hresolve, ?_, Or.inr ⟨fun hquery => ?_, hasked⟩⟩
    · have hlength : store.queries.length = store.asked.length := (List.length_map _).symm
      rw [hasked, hlength, List.getElem?_concat_length]
    · obtain ⟨live, hlive, hequal⟩ := List.mem_map.mp hquery
      exact hnew live hlive hequal

/-- A command makes at most one query live, and none that is live already. -/
lemma asked_perform (hs : store.current.WellFormed) (command : StoreCommand) :
    (store.perform command).asked = store.asked ∨
      ∃ query, query ∉ store.asked ∧ (store.perform command).asked = store.asked ++ [query] := by
  by_cases hcommand : ∃ spec, command = .createQuery spec
  · obtain ⟨spec, rfl⟩ := hcommand
    cases hcreate : store.createQuery spec with
    | error e => exact Or.inl (by rw [perform, hcreate, except_map_error, orSame_error])
    | ok created =>
      have hnext : store.perform (.createQuery spec) = created.2 := by
        rw [perform, hcreate, except_map_ok, orSame_ok]
      obtain ⟨query, -, -, hsame | hnew⟩ := asked_createQuery hcreate
      · exact Or.inl (hnext ▸ hsame)
      · exact Or.inr ⟨query, hnext ▸ hnew⟩
  · left
    have hstep := step_perform hs command
    generalize store.perform command = store' at hstep
    cases hstep with
    | commits _ hadvance =>
      rw [commit_eq hadvance.effective, asked, asked, List.map_map]
      exact List.map_congr_left fun live _ => LiveQuery.query_follow live _
    | startsQuery => exact absurd ⟨_, rfl⟩ hcommand
    | idle | startsConsumer | resets | drains | caches => rfl

/-- No two live queries are equal, over a schema. -/
structure Distinct (schema : Schema) (store : Store) : Prop extends store.WellFormed schema where
  /-- The live queries are different from each other. -/
  nodup : store.asked.Nodup

lemma distinct_empty (schema : Schema) (historyDepth : Nat) :
    (Store.empty schema historyDepth).Distinct schema where
  toWellFormed := wellFormed_empty schema historyDepth
  nodup := List.nodup_nil

/-- Commands keep live queries distinct and where they are. -/
lemma Distinct.run {schema : Schema} (h : store.Distinct schema) (commands : List StoreCommand) :
    (store.run commands).Distinct schema ∧ store.asked <+: (store.run commands).asked := by
  have hstep (later : Store) (command : StoreCommand)
      (hlater : later.Distinct schema ∧ store.asked <+: later.asked) :
      (later.perform command).Distinct schema ∧
        store.asked <+: (later.perform command).asked := by
    obtain ⟨hdistinct, hprefix⟩ := hlater
    have hwellFormed := wellFormed_perform later command hdistinct.toWellFormed
    rcases asked_perform hdistinct.current.2 command with hsame | ⟨query, hnew, hasked⟩
    · exact ⟨⟨hwellFormed, hsame ▸ hdistinct.nodup⟩, hsame ▸ hprefix⟩
    · refine ⟨⟨hwellFormed, ?_⟩, ?_⟩
      · rw [hasked]
        exact List.concat_eq_append ▸ hdistinct.nodup.concat hnew
      · rw [hasked]
        exact hprefix.trans (List.prefix_append _ _)
  exact run_preserves hstep ⟨h, List.prefix_refl _⟩ commands

/-- What can be resolved is made live, under a handle that leads to it. -/
lemma Distinct.createQuery {schema : Schema} (h : store.Distinct schema)
    (hresolve : spec.resolve schema = .ok query) :
    ∃ id next, store.createQuery spec = .ok (id, next) ∧ next.Distinct schema ∧
      next.asked[id.index]? = some query ∧ store.asked <+: next.asked := by
  have hschema : spec.resolve store.schema = .ok query := by
    rw [Store.schema, h.current.1, hresolve]
  obtain ⟨id, next, hcreate⟩ := exists_createQuery hschema
  have hnext : store.run [.createQuery spec] = next := by
    rw [run_cons, run_nil, perform, hcreate, except_map_ok, orSame_ok]
  obtain ⟨hdistinct, hprefix⟩ := h.run [.createQuery spec]
  obtain ⟨query', hresolve', hid, -⟩ := asked_createQuery hcreate
  obtain rfl : query = query' := Except.ok.inj (hschema.symm.trans hresolve')
  exact ⟨id, next, hcreate, hnext ▸ hdistinct, hid, hnext ▸ hprefix⟩

/-! ## The main statement -/

/-- **Queries are identified by what they mean.**  A specification is resolved exactly when its
names are declared and nothing is both included and excluded.  Two that are resolved are made live
whenever that is asked for, and get the same handle exactly when they mean the same. -/
theorem queries_identified (schema : Schema) (historyDepth : Nat) (spec spec' : QuerySpec)
    (before between : List StoreCommand) :
    ((∃ query, spec.resolve schema = .ok query) ↔ spec.Resolvable schema) ∧
      (spec.Resolvable schema → spec'.Resolvable schema →
        ∃ id first,
          ((Store.empty schema historyDepth).run before).createQuery spec = .ok (id, first) ∧
          ∃ id' second, (first.run between).createQuery spec' = .ok (id', second) ∧
            (id = id' ↔ spec.SameMeaning schema spec')) := by
  refine ⟨QuerySpec.exists_resolve_iff, fun h h' => ?_⟩
  obtain ⟨query, hresolve⟩ := QuerySpec.exists_resolve_iff.mpr h
  obtain ⟨query', hresolve'⟩ := QuerySpec.exists_resolve_iff.mpr h'
  have hstore := ((distinct_empty schema historyDepth).run before).1
  obtain ⟨id, first, hcreate, hfirst, hid, -⟩ := hstore.createQuery hresolve
  obtain ⟨hlater, hstays⟩ := hfirst.run between
  obtain ⟨id', second, hcreate', hsecond, hid', hstays'⟩ := hlater.createQuery hresolve'
  refine ⟨id, first, hcreate, id', second, hcreate', ?_⟩
  have hmeans := QuerySpec.means_of_resolve hresolve
  -- the first handle still leads to its query, and live queries are distinct, so the handles are
  -- equal just when the queries are
  have hkept : second.asked[id.index]? = some query := by
    obtain ⟨hlt, hget⟩ := List.getElem?_eq_some_iff.mp hid
    rw [List.prefix_iff_getElem?.mp (hstays.trans hstays') _ hlt, hget]
  rw [← hmeans.eq_iff (QuerySpec.means_of_resolve hresolve')]
  constructor
  · rintro rfl
    exact Option.some.inj (hkept.symm.trans hid')
  · rintro rfl
    have hlt : id.index < second.asked.length := (List.getElem?_eq_some_iff.mp hkept).1
    have hindex : id.index = id'.index :=
      (List.getElem?_inj hlt hsecond.nodup).mp (hkept.trans hid'.symm)
    cases id
    cases id'
    exact congrArg QueryId.mk hindex

/-- Order and repetition do not count.  Two queries of one name are told apart: those of the second
part are both called `+a,-b`. -/
theorem queries_identified_misleading :
    let store := Store.empty ⟨misleadingDefs, by decide, by decide⟩ 0
    (∃ id first, store.createQuery { includes := ["a", "b", "a"] } = .ok (id, first) ∧
      ∃ id' second, first.createQuery { includes := ["b", "a"] } = .ok (id', second) ∧
        id = id') ∧
      ∃ id first, store.createQuery { includes := ["a"], excludes := ["b"] } = .ok (id, first) ∧
        ∃ id' second, first.createQuery { includes := ["a,-b"] } = .ok (id', second) ∧
          id ≠ id' := by
  intro store
  constructor
  · obtain ⟨id, first, hcreate, id', second, hcreate', hiff⟩ :=
      (queries_identified store.schema 0 { includes := ["a", "b", "a"] } { includes := ["b", "a"] }
        [] []).2 (QuerySpec.exists_resolve_iff.mp ⟨_, rfl⟩)
        (QuerySpec.exists_resolve_iff.mp ⟨_, rfl⟩)
    refine ⟨id, first, hcreate, id', second, hcreate', hiff.mpr ⟨fun c => ?_, fun c => ?_, ?_⟩⟩
    · simp only [QuerySpec.Includes, List.mem_cons, List.not_mem_nil, or_false]
      exact exists_congr fun name => and_congr_left fun _ => by tauto
    · exact Iff.rfl
    · exact fun c => Iff.rfl
  · obtain ⟨id, first, hcreate, id', second, hcreate', hiff⟩ :=
      (queries_identified store.schema 0 { includes := ["a"], excludes := ["b"] }
        { includes := ["a,-b"] } [] []).2 (QuerySpec.exists_resolve_iff.mp ⟨_, rfl⟩)
        (QuerySpec.exists_resolve_iff.mp ⟨_, rfl⟩)
    refine ⟨id, first, hcreate, id', second, hcreate', fun hid => ?_⟩
    obtain ⟨name, hname, -⟩ := ((hiff.mp hid).excludes ⟨1, by decide⟩).mp ⟨"b", by simp, rfl⟩
    cases hname

end Store

end SceneEngine
