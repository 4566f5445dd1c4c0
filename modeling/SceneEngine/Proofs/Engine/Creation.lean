import SceneEngine.Proofs.Engine.Tracking
import SceneEngine.Proofs.Store.QueryIdentity

/-!
# The store of a new engine

A new engine has the query of the compiling system, one consumer of it and no entities
(`Store.serving`), so there is nothing to keep track of (`Upkeep.awaits_serving`).  Over the
standard components the system has what it needs (`exists_upkeep`).

The store of a new engine is the result of two commands, one that makes the query live and one that
makes the consumer (`Upkeep.serving_eq_run`).  So everything that holds of stores after commands
holds of it, and only what is particular is proved here: the query is resolved to the two components
of the system (`asks_of_resolve`), and no entity is a member of it, so that the consumer has nothing
to hand out (`Upkeep.pendingOf_serving`).

What the system needs of the schema are two facts about the material: any number of entities may
have it, and no new entity does.  The standard components say both
(`Schema.HasStandard.flags_material`), and a schema that declares more components behind them says
the same.  Where no engine is concerned, as for trees that arrive at a plain store, the schema need
only have these components (`Schema.HasStandard`).
-/

namespace SceneEngine

/-! ## New entities -/

/-- A new entity lacks components that are not seeded, whatever else the schema seeds. -/
lemma Schema.get?_createEntity {schema : Schema} {c : ComponentId}
    (h : ∀ d, schema.def? c = some d → d.seeded = false) (id : EntityId) :
    (schema.createEntity id).get? c = none := by
  -- a new entity is built up definition by definition, and none of them sets this component
  refine List.foldlRecOn (motive := fun entity : Entity => entity.get? c = none)
    schema.components _ rfl fun entity hentity d _ => ?_
  split
  next found hfound =>
    split
    next hseeded =>
      rw [Entity.get?_set]
      split
      next heq =>
        subst heq
        rw [h found hfound] at hseeded
        cases hseeded
      next => exact hentity
    next => exact hentity
  next => exact hentity

lemma Schema.id_createEntity (schema : Schema) (id : EntityId) :
    (schema.createEntity id).id = id := by
  refine List.foldlRecOn (motive := fun entity : Entity => entity.id = id)
    schema.components _ rfl fun entity hentity d _ => ?_
  split
  · split <;> exact hentity
  · exact hentity

/-- What a new entity has is seeded. -/
lemma Schema.exists_seeded {schema : Schema} {id : EntityId} {c : ComponentId}
    (h : (schema.createEntity id).has c = true) :
    ∃ d, schema.def? c = some d ∧ d.seeded = true := by
  by_contra hnone
  have hget : (schema.createEntity id).get? c = none := Schema.get?_createEntity
    (fun d hd => Bool.eq_false_iff.mpr fun hseeded => hnone ⟨d, hd, hseeded⟩) id
  rw [Entity.has_eq_isSome, hget] at h
  cases h

/-! ## The first store -/

/-- The query of the system, once its names are resolved; its key is the material name.  The query
includes two names, excludes none and is keyed by the first of them. -/
lemma asks_of_resolve {upkeep : Upkeep} {query : Query}
    (h : ShaderTrees.spec.resolve upkeep.schema = .ok query) :
    upkeep.Asks query ∧ query.key? = some upkeep.name := by
  have hname : upkeep.schema.lookup Components.materialName = .ok upkeep.name := by
    rw [Schema.lookup, upkeep.name_eq]
  have htree : upkeep.schema.lookup Components.shaderTree = .ok upkeep.trees.tree := by
    rw [Schema.lookup, upkeep.tree_eq]
  have hincludes : ShaderTrees.spec.includes.mapM upkeep.schema.lookup =
      .ok [upkeep.name, upkeep.trees.tree] := by
    simp [ShaderTrees.spec, hname, htree, pure, Except.pure]
  have hkey : ShaderTrees.spec.keyedBy?.mapM upkeep.schema.lookup = .ok (some upkeep.name) := by
    simp [ShaderTrees.spec, hname]
  obtain ⟨includes, excludes, key?, hincludes', hexcludes, hkey', -, rfl⟩ :=
    QuerySpec.resolve_eq_ok_iff.mp h
  obtain rfl := Except.ok.inj (hincludes.symm.trans hincludes')
  obtain rfl := Except.ok.inj (hkey.symm.trans hkey')
  obtain rfl : [] = excludes := Except.ok.inj hexcludes
  refine ⟨⟨fun c => ?_, fun c => ComponentSet.contains_empty⟩, rfl⟩
  rw [ComponentSet.contains_ofList, List.mem_cons, List.mem_singleton]

lemma ShaderTrees.create_inversion {store next : Store} {trees : ShaderTrees}
    (h : ShaderTrees.create store = .ok (trees, next)) :
    store.createQuery ShaderTrees.spec = .ok (trees.query, next) ∧
      next.schema.id? Components.shaderTree = some trees.tree ∧
      next.schema.id? Components.material = some trees.material := by
  obtain ⟨⟨id, next'⟩, hquery, h⟩ := bind_eq_ok_iff.mp h
  obtain ⟨tree, htree, h⟩ := bind_eq_ok_iff.mp h
  obtain ⟨material, hmaterial, h⟩ := bind_eq_ok_iff.mp h
  obtain ⟨rfl, rfl⟩ := Prod.mk.inj (Except.ok.inj h)
  exact ⟨hquery, Store.componentId_eq_ok_iff.mp htree, Store.componentId_eq_ok_iff.mp hmaterial⟩

/-- The query is the first one that an empty store makes live, so its number is zero and the store
has no other. -/
lemma ShaderTrees.create_eq {schema : Schema} {historyDepth : Nat} {trees : ShaderTrees}
    {store : Store}
    (h : ShaderTrees.create (Store.empty schema historyDepth) = .ok (trees, store)) :
    ∃ query, ShaderTrees.spec.resolve schema = .ok query ∧ trees.query = ⟨0⟩ ∧
      store = { Store.empty schema historyDepth with
        queries := [.start query (StoreState.empty schema)] } ∧
      schema.id? Components.shaderTree = some trees.tree ∧
      schema.id? Components.material = some trees.material := by
  obtain ⟨hquery, htree, hmaterial⟩ := create_inversion h
  obtain ⟨query, hresolve, ⟨-, live, hlive, -⟩ | ⟨-, hid, rfl⟩⟩ := Store.createQuery_cases hquery
  · cases hlive
  · exact ⟨query, hresolve, hid, rfl, htree, hmaterial⟩

/-- The store of a new engine: it has a query and a consumer of it, and no entities.  The consumer
has been offered all members of the query, of which there are none. -/
def Store.serving (schema : Schema) (historyDepth : Nat) (query : Query) : Store :=
  { Store.empty schema historyDepth with
    queries := [.start query (StoreState.empty schema)]
    consumers := [(⟨0⟩, Store.enterAll (.start query (StoreState.empty schema)) {})] }

namespace Upkeep

variable {upkeep : Upkeep} {historyDepth : Nat} {query : Query}

/-- Two commands make this store, so it is a store that commands have led to. -/
lemma serving_eq_run (hresolve : ShaderTrees.spec.resolve upkeep.schema = .ok query) :
    Store.serving upkeep.schema historyDepth query =
      (Store.empty upkeep.schema historyDepth).run
        [.createQuery ShaderTrees.spec, .createConsumer ⟨0⟩] := by
  have hresolved : (ShaderTrees.spec.resolve
      (Store.empty upkeep.schema historyDepth).schema).mapError StoreError.query = .ok query := by
    change (ShaderTrees.spec.resolve upkeep.schema).mapError StoreError.query = _
    rw [hresolve]
    rfl
  rw [Store.run_cons, Store.perform, Store.createQuery, hresolved]
  rfl

/-- No entity is a member yet, so there is nothing to hand out. -/
lemma pendingOf_serving (hconsumer : upkeep.consumer = ⟨0⟩) (id : EntityId) :
    (Store.serving upkeep.schema historyDepth query).pendingOf upkeep.consumer id = {} := by
  have hserves : (Store.serving upkeep.schema historyDepth query).Serves ⟨0⟩
      (⟨0⟩, Store.enterAll (.start query (StoreState.empty upkeep.schema)) {})
      (.start query (StoreState.empty upkeep.schema)) := ⟨rfl, rfl⟩
  have hmember : id ∉ (LiveQuery.start query (StoreState.empty upkeep.schema)).members := by
    rw [LiveQuery.upToDate_start query (StoreState.wellFormed_empty upkeep.schema) id,
      Query.selects_iff]
    rintro ⟨entity, hentity, -⟩
    cases hentity
  rw [hconsumer, hserves.pendingOf_eq, Store.pendingOf_enterAll, if_neg hmember]
  rfl

lemma installed_serving (hconsumer : upkeep.consumer = ⟨0⟩)
    (hresolve : ShaderTrees.spec.resolve upkeep.schema = .ok query) :
    upkeep.Installed (Store.serving upkeep.schema historyDepth query) where
  toAccountable := serving_eq_run hresolve ▸ Store.accountable_run _ _ _
  exclusive := StoreState.exclusive_empty upkeep.schema
  asks := by
    refine ⟨.start query (StoreState.empty upkeep.schema), by rw [hconsumer]; rfl, ?_⟩
    rw [(LiveQuery.start_eq query _).1]
    exact (asks_of_resolve hresolve).1

/-- A store with the query of the system and a consumer of it, and without entities, has nothing to
keep track of. -/
lemma awaits_serving {known : Shared Json → Prop} {mark : Nat} (hconsumer : upkeep.consumer = ⟨0⟩)
    (hresolve : ShaderTrees.spec.resolve upkeep.schema = .ok query) :
    upkeep.Awaits false known mark (Store.serving upkeep.schema historyDepth query) where
  toInstalled := installed_serving hconsumer hresolve
  documents := fun _ _ hentity => by cases hentity
  materials := fun _ _ hentity => by cases hentity
  traces := fun id => by
    rw [pendingOf_serving hconsumer]
    exact {
      isNew := fun hnew => by cases hnew
      changed := fun htree => by simp at htree
      returned := fun hmember => by cases hmember
      current := fun _ hentity => by cases hentity
      stripped := fun _ hentity => by cases hentity
      bare := fun _ hentity => by cases hentity }
  bare := fun _ _ _ hentity => by cases hentity

end Upkeep

/-! ## The standard components -/

/-- Of the standard components every new entity has the type, and one entity only the camera. -/
lemma flags_of_standardComponents (supply : Supply) :
    ∀ d ∈ (standardComponents.run supply).1,
      (d.seeded = true ↔ d.name = Components.type) ∧
        (d.singleton = true ↔ d.name = Components.camera) := by
  intro d hd
  have hd : d ∈ [_, _, _, _, _, _, _, _, _, _, _] := hd
  simp only [List.mem_cons, List.not_mem_nil, or_false] at hd
  rcases hd with rfl | rfl | rfl | rfl | rfl | rfl | rfl | rfl | rfl | rfl | rfl <;>
    exact ⟨by dsimp only; decide, by dsimp only; decide⟩

namespace Schema

variable {schema : Schema} {supply : Supply} {c : ComponentId}
  (hschema : Schema.build (standardComponents.run supply).1 = .ok schema)

include hschema

lemma flags_of_standard {d : ComponentDef} (hd : schema.def? c = some d) :
    (d.seeded = true ↔ schema.name c = Components.type) ∧
      (d.singleton = true ↔ schema.name c = Components.camera) := by
  have hname : schema.name c = d.name := by rw [Schema.name, hd, Option.map_some, Option.getD_some]
  rw [hname]
  exact flags_of_standardComponents supply d
    (defs_of_build hschema ▸ List.mem_of_getElem? hd)

lemma isSingleton_of_standard (hname : schema.name c ≠ Components.camera) :
    schema.isSingleton c = false := by
  rw [isSingleton]
  cases hd : schema.def? c with
  | none => rfl
  | some d =>
    rw [Option.map_some, Option.getD_some, ← Bool.not_eq_true]
    exact mt (flags_of_standard hschema hd).2.mp hname

end Schema

/-- A schema that declares the standard components, and perhaps more.  The values that new entities
start with may be shared under any marks. -/
def Schema.HasStandard (schema : Schema) : Prop :=
  ∃ supply : Supply, ∀ d ∈ (standardComponents.run supply).1, d ∈ schema.defs

namespace Schema

variable {schema : Schema} {supply : Supply} {c : ComponentId} {d : ComponentDef}

lemma hasStandard_of_build
    (hschema : Schema.build (standardComponents.run supply).1 = .ok schema) : schema.HasStandard :=
  ⟨supply, fun d hd => by rwa [defs_of_build hschema]⟩

/-- No new entity has the material, and any number of entities may. -/
lemma HasStandard.flags_material (h : schema.HasStandard)
    (hc : schema.id? Components.material = some c) (hd : schema.def? c = some d) :
    d.seeded = false ∧ d.singleton = false := by
  obtain ⟨supply, hall⟩ := h
  have hmaterial := hall { name := Components.material, default := .null }
    (List.mem_of_getElem? (i := 4) rfl)
  have hname : d.name = Components.material := by
    rw [← (of_id?_eq_some hc).2, Schema.name, hd, Option.map_some, Option.getD_some]
  obtain rfl := List.inj_on_of_nodup_map schema.nodup (List.mem_of_getElem? hd) hmaterial hname
  exact ⟨rfl, rfl⟩

end Schema

/-- Over the standard components the compiling system has what it needs.  The query, the tree and
the material are those that it was created with; the consumer and the depth programs are free. -/
lemma exists_upkeep {schema : Schema} {trees : ShaderTrees} {query : Query}
    (hschema : schema.HasStandard) (hresolve : ShaderTrees.spec.resolve schema = .ok query)
    (htree : schema.id? Components.shaderTree = some trees.tree)
    (hmaterial : schema.id? Components.material = some trees.material) (consumer : ConsumerId)
    (withDepth : Bool) :
    ∃ upkeep : Upkeep, upkeep.schema = schema ∧ upkeep.trees = trees ∧
      upkeep.consumer = consumer ∧ upkeep.withDepth = withDepth := by
  obtain ⟨includes, hincludes, -⟩ := bind_eq_ok_iff.mp hresolve
  obtain ⟨name, -, hname, -⟩ := List.forall₂_cons_left_iff.mp (mapM_eq_ok_iff.mp hincludes)
  have hname : schema.id? Components.materialName = some name := by
    rw [Schema.lookup] at hname
    split at hname
    next found hfound => exact hfound.trans (congrArg some (Except.ok.inj hname))
    next => cases hname
  have hshared : schema.isSingleton trees.material = false := by
    rw [Schema.isSingleton]
    cases hd : schema.def? trees.material with
    | none => rfl
    | some d => exact (hschema.flags_material hmaterial hd).2
  exact ⟨{
    schema, trees, name, consumer, withDepth
    name_eq := hname
    tree_eq := htree
    material_eq := hmaterial
    shared := hshared
    unseeded := fun id => Schema.get?_createEntity
      (fun d hd => (hschema.flags_material hmaterial hd).1) id },
    rfl, rfl, rfl, rfl⟩

end SceneEngine
