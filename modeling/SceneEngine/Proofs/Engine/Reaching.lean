import SceneEngine.Proofs.Engine.LastTree

/-!
# Whom a tree reaches

A tree that arrives is meant for every entity of its name (`Store.Reaches`).  It is given to those
that the query of shader trees finds, and they have a tree already.  So an entity that has the name
and no tree is left as it is, and if all entities of the name are like that, one more is made
(`Upkeep.reaches_of_apply`).  The tree reaches every entity of its name just when each of them has a
tree (`ShaderTrees.reaches_iff`).

## What reaching means

`Store.Reaches` is stated for any property of entities, so that the same words serve for what a tree
is meant for (`Store.Carries`, having the name) and for what it does (`Store.CarriesTree`, having
the name and a tree).  It says who gets the tree and is listed, when an entity is made and what it
has then, that those of which the property held keep it, and that nothing else in the store changes.

## What storing does

A tree that is stored goes to the entities that are found, or to a new one.  Both are one fact,
`Upkeep.Files`: under the listed identifiers the store has the old value, or a new one with the
name, with the tree set in it (`Upkeep.filed`), and under all others what it had.  That the tree
reaches the entities with the name and a tree follows from this fact alone (`Upkeep.Files.reaches`).

The two properties then differ for entities that have the name and no tree, and
`Store.Reaches.reaches_carries_iff` works out that this is all there is between them.

The last section has an entity of stone, once with a tree, which gets another one, and once without,
which gets none and is doubled instead (`ShaderTrees.not_forall_reaches`).
-/

namespace SceneEngine

open Engine (lampTree)

variable {σ : Type}

/-! ## Entities of a name -/

namespace Store

/-- An entity has a material name.  Whether it has anything else does not matter, so this is whom a
tree of the name is meant for. -/
def Carries (name : String) (store : Store) (id : EntityId) : Prop :=
  store.materialName? id = some name

/-- An entity has a material name and a tree. -/
structure CarriesTree (name : String) (store : Store) (id : EntityId) : Prop where
  carries : store.Carries name id
  has_tree : (store.getComponent? id Components.shaderTree).isSome = true

/-- An entity is registered that was not registered before: the one that storing a tree may have
made. -/
def Gains (before after : Store) (id : EntityId) : Prop :=
  before.get? id = none ∧ (after.get? id).isSome = true

/-- A tree reaches the entities of which something holds, and is listed for them.  If it held of
none there is a new entity, of which it holds now. -/
structure Reaches (holds : Store → EntityId → Prop) (tree : Json) (before after : Store)
    (ids : List EntityId) : Prop where
  schema_eq : after.schema = before.schema
  /-- Each of them has the tree, and is listed. -/
  reached : ∀ id, holds after id → after.shaderTree? id = some tree ∧ id ∈ ids
  /-- An entity is made just when there was none. -/
  created_iff : (∃ id, before.Gains after id) ↔ ∀ id, ¬holds before id
  /-- At most one entity is made. -/
  one_created : ∀ id id', before.Gains after id → before.Gains after id' → id = id'
  /-- The new entity has a name and the tree, and what every new entity has. -/
  created : ∀ id, before.Gains after id → holds after id ∧
    ∀ component, component ≠ Components.materialName → component ≠ Components.shaderTree →
      after.getComponent? id component =
        before.schema.valueOf? (before.schema.createEntity id) component
  /-- None of them stops being one. -/
  kept : ∀ id, holds before id → holds after id
  /-- No other entity changes. -/
  others : ∀ id entity, before.get? id = some entity → ¬holds before id →
    after.get? id = some entity
  /-- No other component changes. -/
  components : ∀ id, (before.get? id).isSome = true → (after.get? id).isSome = true ∧
    ∀ component, component ≠ Components.shaderTree →
      after.getComponent? id component = before.getComponent? id component

end Store

/-- What a scene makes next is new: no registered document has its mark, and the identifier that is
drawn after it is not in use. -/
structure Scene.MakesNew (scene : Scene σ) : Prop where
  mark : ∀ id entity c (tree : Shared Json), scene.store.get? id = some entity →
    entity.get? c = some (.json tree) → tree.mark ≠ scene.supply.next
  id : scene.store.get? (.drawn (scene.supply.next + 1)) = none

/-- Only the registered values have to be looked through. -/
lemma Scene.makesNew_iff {scene : Scene σ} : scene.MakesNew ↔
    (∀ record ∈ scene.store.current.entities.values, ∀ slot ∈ record.entity.slots,
      slot.2.sameAs (.json ⟨scene.supply.next, .null⟩) = false) ∧
    scene.store.get? (.drawn (scene.supply.next + 1)) = none := by
  constructor
  · rintro ⟨hmark, hid⟩
    refine ⟨fun record hrecord slot hslot => ?_, hid⟩
    obtain ⟨id, hrecord⟩ := OrderedMap.mem_values_iff.mp hrecord
    have hentity : scene.store.get? id = some record.entity := by
      rw [Store.get?, StoreState.get?, hrecord, Option.map_some]
    -- only documents have to be looked at, and of them only the mark
    cases hvalue : slot.2 with
    | json tree =>
      exact beq_false_of_ne
        (hmark id record.entity slot.1 tree hentity (hvalue ▸ Entity.get?_eq_some_iff.mpr hslot))
    | _ => rfl
  · rintro ⟨hslots, hid⟩
    refine ⟨fun id entity c tree hentity htree hmark => ?_, hid⟩
    obtain ⟨record, hrecord, rfl⟩ := Option.map_eq_some_iff.mp hentity
    have hsame := hslots record (OrderedMap.mem_values_iff.mpr ⟨id, hrecord⟩) _
      (Entity.get?_eq_some_iff.mp htree)
    exact ne_of_beq_false hsame hmark

instance (scene : Scene σ) : Decidable scene.MakesNew := decidable_of_iff _ Scene.makesNew_iff.symm

/-! ## What is stored -/

namespace ShaderTrees

variable {trees : ShaderTrees} {scene scene' : Scene σ} {name : String} {tree : Json}
  {ids : List EntityId}

/-- What it takes to store a tree: a new entity if its name finds none, and otherwise those that it
finds.  The mark of the tree is drawn first, in both cases. -/
lemma apply_cases (h : (trees.apply name tree).run scene = (.ok ids, scene')) :
    (scene.store.lookup trees.query (.text name) = .ok [] ∧
      ids = [.drawn (scene.supply.next + 1)] ∧
      scene.store.quickEntity (.drawn (scene.supply.next + 1))
        [(Components.materialName, .text ⟨scene.supply.next + 2, name⟩),
          (Components.shaderTree, .json ⟨scene.supply.next, tree⟩)] = .ok scene'.store) ∨
    (scene.store.lookup trees.query (.text name) = .ok ids ∧ ids ≠ [] ∧
      (trees.replaceTrees (.json ⟨scene.supply.next, tree⟩) ids).run
        { scene with supply := ⟨scene.supply.next + 1⟩ } = (.ok (), scene')) := by
  rw [apply, Act.run_bind, Act.run_share, Act.after_share, Act.run_bind, Act.run_store,
    Act.after_store] at h
  dsimp only at h
  split at h
  next => cases h
  next hlookup =>
    refine .inl ⟨hlookup, ?_⟩
    rw [Act.run_bind, Act.run_drawId, Act.after_drawId, Act.run_bind, Act.run_share,
      Act.after_share, Act.run_bind, Act.run_store, Act.after_store] at h
    dsimp only at h
    split at h
    next => cases h
    next store hstore =>
      cases h
      exact ⟨rfl, hstore⟩
  next found hne hlookup =>
    rw [Act.run_bind] at h
    split at h
    next hreplaced =>
      cases h
      exact .inr ⟨hlookup, hne, Prod.ext hreplaced rfl⟩
    next => cases h

end ShaderTrees

namespace Upkeep

variable {upkeep : Upkeep} {scene scene' : Scene σ} {before after : Store} {name : String}
  {tree : Json} {shared : Shared Json} {named : Shared String} {ids : List EntityId}
  {id : EntityId} {entity : Entity}

/-- Registering an entity with a tree under a new mark makes it the value of the entity. -/
lemma get?_register_tree (hs : before.current.WellFormed)
    {next : StoreState × Commit} (h : before.current.register entity = .ok next)
    (htree : entity.get? upkeep.trees.tree = some (.json shared))
    (hmarks : ∀ old, (before.get? entity.id).bind (·.get? upkeep.trees.tree) = some (.json old) →
      old.mark ≠ shared.mark) (id : EntityId) :
    (before.commit next).get? id = if id = entity.id then some entity else before.get? id :=
  Store.get?_commit_of_register hs h (contains_changed_of_mark hs h htree hmarks) id

/-- Entities that are given a tree have it, and nothing else is changed.  The mark of the tree is
new to all of them, so that no write is passed over as being no change. -/
lemma get?_replaceTrees (hs : scene.store.WellFormed upkeep.schema) (hnodup : ids.Nodup)
    (hmarks : ∀ id ∈ ids, ∀ old, (scene.store.get? id).bind (·.get? upkeep.trees.tree) =
      some (.json old) → old.mark ≠ shared.mark)
    (h : (upkeep.trees.replaceTrees (.json shared) ids).run scene = (.ok (), scene')) :
    scene'.store.schema = upkeep.schema ∧ ∀ id, scene'.store.get? id =
      if id ∈ ids then (scene.store.get? id).map (·.set upkeep.trees.tree (.json shared))
      else scene.store.get? id := by
  -- on the entities that get the tree, each of which is listed once
  induction ids generalizing scene with
  | nil =>
    cases h
    exact ⟨hs.current.1, fun id => (if_neg List.not_mem_nil).symm⟩
  | cons first ids ih =>
    obtain ⟨hfirst, hrest⟩ := List.nodup_cons.mp hnodup
    obtain ⟨hmark, hothers⟩ := List.forall_mem_cons.mp hmarks
    rw [ShaderTrees.replaceTrees, Act.run_bind, Act.run_store, Act.after_store] at h
    dsimp only at h
    split at h
    next hnone =>
      obtain ⟨hschema, hget⟩ := ih hs hrest hothers h
      refine ⟨hschema, fun id => ?_⟩
      rw [hget]
      -- an entity that is not registered gets nothing, and the rest is as before
      by_cases hid : id = first
      · subst hid
        simp [hnone]
      · simp [hid]
    next entity hentity =>
      obtain rfl : entity.id = first := hs.current.2.id_eq hentity
      split at h
      next => cases h
      next store commit hstore =>
        obtain ⟨next, hregister, hcommit⟩ := bind_eq_ok_iff.mp hstore
        obtain ⟨rfl, rfl⟩ := Prod.mk.inj (Except.ok.inj hcommit)
        have hwritten : ∀ id, (scene.store.commit next).get? id = if id = entity.id then
            some (entity.set upkeep.trees.tree (.json shared)) else scene.store.get? id :=
          get?_register_tree hs.current.2 hregister (by rw [Entity.get?_set, if_pos rfl]) hmark
        have hnext : (scene.store.commit next).WellFormed upkeep.schema :=
          Store.perform_register hregister ▸ Store.wellFormed_perform _ _ hs
        have hothers' : ∀ id ∈ ids, ∀ old, ((scene.store.commit next).get? id).bind
            (·.get? upkeep.trees.tree) = some (.json old) → old.mark ≠ shared.mark := by
          intro id hid
          rw [hwritten, if_neg (ne_of_mem_of_not_mem hid hfirst)]
          exact hothers id hid
        rw [Act.run_bind, Act.after_setStore] at h
        obtain ⟨hschema, hget⟩ :=
          @ih { scene with store := scene.store.commit next } hnext hrest hothers' h
        refine ⟨hschema, fun id => ?_⟩
        rw [hget, hwritten]
        by_cases hid : id = entity.id
        · subst hid
          simp [hfirst, hentity]
        · simp [hid]

/-! ## What that comes to -/

/-- The entities of a name that have a tree are those that the query finds. -/
lemma carriesTree_iff (hschema : before.schema = upkeep.schema) :
    before.CarriesTree name id ↔ ∃ entity, before.get? id = some entity ∧
      upkeep.concerns entity = true ∧ upkeep.name? entity = some name := by
  have hcarries : before.Carries name id ↔ (before.get? id).bind upkeep.name? = some name := by
    rw [Store.Carries, Store.materialName?_eq hschema]
  have htree : before.getComponent? id Components.shaderTree =
      (before.get? id).bind (·.get? upkeep.trees.tree) := by
    rw [Store.getComponent?, hschema, upkeep.tree_eq]
    rfl
  constructor
  · rintro ⟨hname, hhas⟩
    obtain ⟨entity, hentity, hname⟩ := Option.bind_eq_some_iff.mp (hcarries.mp hname)
    obtain ⟨text, htext, -⟩ := Option.bind_eq_some_iff.mp hname
    rw [htree, hentity, Option.bind_some] at hhas
    refine ⟨entity, hentity, ?_, hname⟩
    rw [concerns, Entity.has_of_get? htext, Entity.has_eq_isSome, hhas]
    rfl
  · rintro ⟨entity, hentity, hconcerned, hname⟩
    rw [concerns, Bool.and_eq_true] at hconcerned
    refine ⟨hcarries.mpr (by rw [hentity]; exact hname), ?_⟩
    rw [htree, hentity, Option.bind_some, ← Entity.has_eq_isSome]
    exact hconcerned.2

variable (upkeep) in
/-- The value of an entity once a tree is stored in it; an entity that is not registered starts with
a name. -/
def filed (named : Shared String) (shared : Shared Json) (before : Store) (id : EntityId) :
    Entity :=
  ((before.get? id).getD ((upkeep.schema.createEntity id).set upkeep.name (.text named))).set
    upkeep.trees.tree (.json shared)

lemma document?_filed :
    upkeep.document? (upkeep.filed named shared before id) = some shared.content := by
  rw [document?, filed, Entity.get?_set, if_pos rfl]
  rfl

lemma name?_filed (h : ∀ entity, before.get? id = some entity →
      upkeep.name? entity = some named.content) :
    upkeep.name? (upkeep.filed named shared before id) = some named.content := by
  rw [name?, filed, Entity.get?_set, if_neg upkeep.name_ne_tree]
  cases hentity : before.get? id with
  | some entity => exact h entity hentity
  | none =>
    rw [Option.getD_none, Entity.get?_set, if_pos rfl]
    rfl

/-- A stored tree is in no other component. -/
lemma valueOf?_filed {component : String} (h : component ≠ Components.shaderTree) :
    upkeep.schema.valueOf? (upkeep.filed named shared before id) component =
      upkeep.schema.valueOf? ((before.get? id).getD
        ((upkeep.schema.createEntity id).set upkeep.name (.text named))) component := by
  rw [Schema.valueOf?, Schema.valueOf?]
  cases hc : upkeep.schema.id? component with
  | none => rfl
  | some c =>
    rw [Option.bind_some, Option.bind_some, filed, Entity.get?_set,
      if_neg (Schema.ne_of_id? hc upkeep.tree_eq h)]

/-- A component of an entity is read off its value. -/
lemma getComponent?_eq (hschema : before.schema = upkeep.schema) (id : EntityId)
    (component : String) : before.getComponent? id component =
      (before.get? id).bind (upkeep.schema.valueOf? · component) := by
  rw [Store.getComponent?, hschema]
  cases hc : upkeep.schema.id? component <;> cases before.get? id <;> simp [Schema.valueOf?, hc]

variable (upkeep) in
/-- A tree is stored in the entities of a name that have a tree, or in a new entity if there are
none.  This says what a store has afterwards under every identifier. -/
structure Files (named : Shared String) (shared : Shared Json) (before after : Store)
    (ids : List EntityId) : Prop where
  schema_before : before.schema = upkeep.schema
  schema_after : after.schema = upkeep.schema
  /-- What is stored under the listed identifiers, and what stays under the others. -/
  get?_eq : ∀ id, after.get? id =
    if id ∈ ids then some (upkeep.filed named shared before id) else before.get? id
  /-- The listed identifiers are those of the name that have a tree, or a new one. -/
  chosen : (ids ≠ [] ∧ ∀ id, id ∈ ids ↔ before.CarriesTree named.content id) ∨
    ∃ id, ids = [id] ∧ before.get? id = none ∧ ∀ id, ¬before.CarriesTree named.content id

namespace Files

lemma mem_of_carriesTree (h : upkeep.Files named shared before after ids)
    (hid : before.CarriesTree named.content id) : id ∈ ids := by
  rcases h.chosen with ⟨-, hmem⟩ | ⟨-, -, -, hnone⟩
  · exact (hmem id).mpr hid
  · exact absurd hid (hnone id)

lemma carriesTree_of_mem (h : upkeep.Files named shared before after ids) (hid : id ∈ ids)
    (hentity : before.get? id = some entity) : before.CarriesTree named.content id := by
  rcases h.chosen with ⟨-, hmem⟩ | ⟨new, rfl, hnew, -⟩
  · exact (hmem id).mp hid
  · rw [List.mem_singleton.mp hid, hnew] at hentity
    cases hentity

/-- Where the tree is stored, there is also the name. -/
lemma carriesTree_after (h : upkeep.Files named shared before after ids) (hid : id ∈ ids) :
    after.CarriesTree named.content id := by
  have hname : upkeep.name? (upkeep.filed named shared before id) = some named.content := by
    refine name?_filed fun entity hentity => ?_
    obtain ⟨entity', hentity', -, hname⟩ :=
      (carriesTree_iff h.schema_before).mp (h.carriesTree_of_mem hid hentity)
    obtain rfl := Option.some.inj (hentity.symm.trans hentity')
    exact hname
  exact (carriesTree_iff h.schema_after).mpr
    ⟨_, by rw [h.get?_eq, if_pos hid], concerns_of hname document?_filed, hname⟩

lemma gains_iff (h : upkeep.Files named shared before after ids) :
    before.Gains after id ↔ id ∈ ids ∧ before.get? id = none := by
  rw [Store.Gains, h.get?_eq, and_comm]
  refine and_congr_left fun hnone => ?_
  split
  next hid => exact iff_of_true rfl hid
  next hid => exact iff_of_false (by simp [hnone]) hid

/-- There is a new entity just when none had the name and a tree, and then only one. -/
lemma gains_cases (h : upkeep.Files named shared before after ids) :
    (∃ id, before.CarriesTree named.content id ∧ ∀ id, ¬before.Gains after id) ∨
      (∀ id, ¬before.CarriesTree named.content id) ∧
        ∃ new, ∀ id, before.Gains after id ↔ id = new := by
  simp only [h.gains_iff]
  rcases h.chosen with ⟨hne, hmem⟩ | ⟨new, rfl, hnew, hnone⟩
  · obtain ⟨id, hid⟩ := List.exists_mem_of_ne_nil ids hne
    refine .inl ⟨id, (hmem id).mp hid, fun id' ⟨hid', hnone⟩ => ?_⟩
    obtain ⟨entity, hentity, -⟩ := (carriesTree_iff h.schema_before).mp ((hmem id').mp hid')
    cases hnone.symm.trans hentity
  · refine .inr ⟨hnone, new, fun id => ⟨fun hid => List.mem_singleton.mp hid.1, ?_⟩⟩
    rintro rfl
    exact ⟨List.mem_singleton_self _, hnew⟩

/-- No component but the tree gets another value, except the name of a new entity. -/
lemma getComponent?_after (h : upkeep.Files named shared before after ids) {component : String}
    (hcomponent : component ≠ Components.shaderTree) (hid : id ∈ ids) :
    after.getComponent? id component = upkeep.schema.valueOf? ((before.get? id).getD
      ((upkeep.schema.createEntity id).set upkeep.name (.text named))) component := by
  rw [getComponent?_eq h.schema_after, h.get?_eq, if_pos hid, Option.bind_some,
    valueOf?_filed hcomponent]

/-- The tree reaches the entities that have the name and a tree.  Everything in `Store.Reaches` is
read off what the store has under each identifier. -/
lemma reaches (h : upkeep.Files named shared before after ids) :
    Store.Reaches (Store.CarriesTree named.content) shared.content before after ids where
  schema_eq := h.schema_after.trans h.schema_before.symm
  reached := by
    intro id hafter
    have hid : id ∈ ids := by
      by_contra hid
      rw [carriesTree_iff h.schema_after, h.get?_eq, if_neg hid,
        ← carriesTree_iff h.schema_before] at hafter
      exact hid (h.mem_of_carriesTree hafter)
    refine ⟨?_, hid⟩
    rw [Store.shaderTree?_eq h.schema_after, h.get?_eq, if_pos hid]
    exact document?_filed
  created_iff := by
    rcases h.gains_cases with ⟨id, hid, hnone⟩ | ⟨hnone, new, hnew⟩
    · exact iff_of_false (fun ⟨id', hid'⟩ => hnone id' hid') fun hnone => hnone id hid
    · exact iff_of_true ⟨new, (hnew new).mpr rfl⟩ hnone
  one_created := by
    intro id id' hid hid'
    rcases h.gains_cases with ⟨-, -, hnone⟩ | ⟨-, new, hnew⟩
    · exact absurd hid (hnone id)
    · exact ((hnew id).mp hid).trans ((hnew id').mp hid').symm
  created := by
    intro id hgains
    obtain ⟨hid, hnone⟩ := h.gains_iff.mp hgains
    refine ⟨h.carriesTree_after hid, fun component hname htree => ?_⟩
    rw [h.getComponent?_after htree hid, hnone, Option.getD_none, h.schema_before,
      Schema.valueOf?, Schema.valueOf?]
    cases hc : upkeep.schema.id? component with
    | none => rfl
    | some c =>
      rw [Option.bind_some, Option.bind_some, Entity.get?_set,
        if_neg (Schema.ne_of_id? hc upkeep.name_eq hname)]
  kept := fun id hid => h.carriesTree_after (h.mem_of_carriesTree hid)
  others := by
    intro id entity hentity hnot
    rw [h.get?_eq, if_neg fun hid => hnot (h.carriesTree_of_mem hid hentity), hentity]
  components := by
    intro id hsome
    obtain ⟨entity, hentity⟩ := Option.isSome_iff_exists.mp hsome
    by_cases hid : id ∈ ids
    · refine ⟨by rw [h.get?_eq, if_pos hid]; rfl, fun component hcomponent => ?_⟩
      rw [h.getComponent?_after hcomponent hid, getComponent?_eq h.schema_before, hentity]
      rfl
    · have hsame : after.get? id = before.get? id := by rw [h.get?_eq, if_neg hid]
      refine ⟨hsame ▸ hsome, fun component _ => ?_⟩
      rw [getComponent?_eq h.schema_after, hsame, getComponent?_eq h.schema_before]

end Files

/-! ## Trees that arrive -/

/-- A new entity is registered with a name and a tree. -/
lemma Finds.files_of_quickEntity {store : Store} (h : upkeep.Finds before)
    (hnone : ∀ id, ¬before.CarriesTree named.content id) (hnew : before.get? id = none)
    (hquick : before.quickEntity id [(Components.materialName, .text named),
      (Components.shaderTree, .json shared)] = .ok store) :
    upkeep.Files named shared before store [id] := by
  have hschema : before.schema = upkeep.schema := h.current.1
  have hstore : before.perform (.quickEntity id [(Components.materialName, .text named),
      (Components.shaderTree, .json shared)]) = store := by
    rw [Store.perform, hquick, Store.orSame_ok]
  obtain ⟨value, hvalue, hquick⟩ := bind_eq_ok_iff.mp hquick
  obtain ⟨⟨store', commit⟩, hregistered, hsame⟩ := bind_eq_ok_iff.mp hquick
  obtain ⟨next, hregister, hcommit⟩ := bind_eq_ok_iff.mp hregistered
  obtain ⟨rfl, rfl⟩ := Prod.mk.inj (Except.ok.inj hcommit)
  have hsame : before.commit next = store := Except.ok.inj hsame
  obtain rfl : upkeep.filed named shared before id = value := by
    rw [setComponents_eq hschema] at hvalue
    rw [filed, hnew, Option.getD_none, ← hschema]
    exact Except.ok.inj hvalue
  have hid : (upkeep.filed named shared before id).id = id := by
    rw [filed, hnew, Option.getD_none]
    exact Schema.id_createEntity upkeep.schema id
  refine ⟨hschema, hstore ▸ (h.perform _).current.1, fun id' => ?_, .inr ⟨id, rfl, hnew, hnone⟩⟩
  rw [← hsame, get?_register_tree h.current.2 hregister (by rw [filed, Entity.get?_set, if_pos rfl])
    (fun old hold => by rw [hid, hnew] at hold; cases hold), hid]
  simp only [List.mem_singleton]
  split
  next heq => rw [heq]
  next => rfl

/-- The entities that have a name and a tree are given another tree. -/
lemma Finds.files_of_replaceTrees (h : upkeep.Finds scene.store) (hne : ids ≠ [])
    (hnodup : ids.Nodup) (hids : ∀ id, id ∈ ids ↔ scene.store.CarriesTree named.content id)
    (hmarks : ∀ id entity old, scene.store.get? id = some entity →
      entity.get? upkeep.trees.tree = some (.json old) → old.mark ≠ shared.mark)
    (hreplace : (upkeep.trees.replaceTrees (.json shared) ids).run scene = (.ok (), scene')) :
    upkeep.Files named shared scene.store scene'.store ids := by
  obtain ⟨hschema, hget⟩ := get?_replaceTrees h.toConsistent.toWellFormed hnodup
    (fun id _ old hold => by
      obtain ⟨entity, hentity, hold⟩ := Option.bind_eq_some_iff.mp hold
      exact hmarks id entity old hentity hold) hreplace
  refine ⟨h.current.1, hschema, fun id => ?_, .inl ⟨hne, hids⟩⟩
  rw [hget]
  split
  next hid =>
    obtain ⟨entity, hentity, -⟩ := (carriesTree_iff h.current.1).mp ((hids id).mp hid)
    rw [filed, hentity]
    rfl
  next => rfl

/-- What a tree does that arrives and is stored. -/
lemma Finds.reaches_of_apply (h : upkeep.Finds scene.store) (hnew : scene.MakesNew)
    (happly : (upkeep.trees.apply name tree).run scene = (.ok ids, scene')) :
    Store.Reaches (Store.CarriesTree name) tree scene.store scene'.store ids := by
  obtain ⟨found, hlookup, hnodup, hfound⟩ := h.lookup_eq name
  have hfound : ∀ id, id ∈ found ↔ scene.store.CarriesTree name id := fun id => by
    rw [hfound, carriesTree_iff h.current.1]
  suffices upkeep.Files ⟨scene.supply.next + 2, name⟩ ⟨scene.supply.next, tree⟩ scene.store
    scene'.store ids from this.reaches
  rcases ShaderTrees.apply_cases happly with ⟨hnone, rfl, hquick⟩ | ⟨hsome, hne, hreplace⟩
  · obtain rfl : found = [] := Except.ok.inj (hlookup.symm.trans hnone)
    exact h.files_of_quickEntity (fun id hid => List.not_mem_nil ((hfound id).mpr hid)) hnew.id
      hquick
  · obtain rfl : found = ids := Except.ok.inj (hlookup.symm.trans hsome)
    have hlater : upkeep.Finds { scene with supply := ⟨scene.supply.next + 1⟩ }.store := h
    exact hlater.files_of_replaceTrees hne hnodup hfound
      (fun id entity old => hnew.mark id entity _ old) hreplace

/-- Where the query of shader trees was made live, it finds entities by name from then on. -/
lemma exists_finds {schema : Schema} {historyDepth : Nat} {earlier : List StoreCommand}
    {trees : ShaderTrees} {start : Store} (hschema : schema.HasStandard)
    (hcreate : ShaderTrees.create ((Store.empty schema historyDepth).run earlier) =
      .ok (trees, start)) (later : List StoreCommand) :
    ∃ upkeep : Upkeep, upkeep.trees = trees ∧ upkeep.Finds (start.run later) := by
  have hindexed := Store.indexed_run schema historyDepth earlier
  generalize (Store.empty schema historyDepth).run earlier = store at hcreate hindexed
  obtain ⟨hquery, htree, hmaterial⟩ := ShaderTrees.create_inversion hcreate
  obtain ⟨query, hresolve, hlive⟩ := Store.createQuery_cases hquery
  have hstart : store.perform (.createQuery ShaderTrees.spec) = start := by
    rw [Store.perform, hquery]
    rfl
  have hindexed' := hstart ▸ Store.indexed_perform store (.createQuery ShaderTrees.spec) hindexed
  have hsame : store.schema = schema := hindexed.current.1
  have hsame' : start.schema = schema := hindexed'.current.1
  rw [hsame] at hresolve
  rw [hsame'] at htree hmaterial
  -- who drains the query, and whether depth programs are compiled, does not matter here
  obtain ⟨upkeep, rfl, rfl, -⟩ := exists_upkeep hschema hresolve htree hmaterial ⟨0⟩ false
  obtain ⟨hasks, hkey⟩ := asks_of_resolve hresolve
  have hfinds : upkeep.Finds start := by
    refine ⟨hindexed', ?_⟩
    rcases hlive with ⟨rfl, live, hlive, rfl⟩ | ⟨-, hid, hstart⟩
    · exact ⟨live, hlive, hasks, hkey⟩
    · refine ⟨.start query store.current, ?_, ?_⟩
      · rw [hid, hstart, Store.query_eq_ok_iff]
        simp
      · rw [(LiveQuery.start_eq query _).1]
        exact ⟨hasks, hkey⟩
  exact ⟨upkeep, rfl, Store.run_preserves (fun _ command h => h.perform command) hfinds later⟩

end Upkeep

/-! ## All entities of a name -/

namespace Store

variable {before after : Store} {name : String} {tree : Json} {ids : List EntityId} {id : EntityId}

/-- Only what is registered has a name. -/
lemma Carries.isSome_get? (h : before.Carries name id) : (before.get? id).isSome = true := by
  obtain ⟨value, hvalue, -⟩ := Option.bind_eq_some_iff.mp h
  obtain ⟨c, -, hvalue⟩ := Option.bind_eq_some_iff.mp hvalue
  obtain ⟨entity, hentity, -⟩ := Option.bind_eq_some_iff.mp hvalue
  rw [hentity]
  rfl

/-- An entity that is left as it is has the components that it had. -/
lemma Reaches.getComponent?_of_not {holds : Store → EntityId → Prop}
    (h : Reaches holds tree before after ids) (hid : (before.get? id).isSome = true)
    (hnot : ¬holds before id) (component : String) :
    after.getComponent? id component = before.getComponent? id component := by
  obtain ⟨entity, hentity⟩ := Option.isSome_iff_exists.mp hid
  rw [getComponent?, h.schema_eq, h.others id entity hentity hnot, ← hentity, getComponent?]

/-- Names stay. -/
lemma Reaches.carries_iff {holds : Store → EntityId → Prop}
    (h : Reaches holds tree before after ids) (hid : (before.get? id).isSome = true) :
    after.Carries name id ↔ before.Carries name id := by
  rw [Carries, materialName?, (h.components id hid).2 _ (by decide), Carries, materialName?]

/-- A tree that reaches the entities that have a name and a tree reaches all of the name just when
all of them have a tree. -/
lemma Reaches.reaches_carries_iff (h : Reaches (CarriesTree name) tree before after ids) :
    Reaches (Carries name) tree before after ids ↔
      ∀ id, before.Carries name id → before.CarriesTree name id := by
  constructor
  · intro hall id hid
    by_contra hnot
    have hsome := hid.isSome_get?
    obtain ⟨hreached, -⟩ := hall.reached id ((h.carries_iff hsome).mpr hid)
    rw [shaderTree?, h.getComponent?_of_not hsome hnot] at hreached
    obtain ⟨value, hvalue, -⟩ := Option.bind_eq_some_iff.mp hreached
    exact hnot ⟨hid, by rw [hvalue]; rfl⟩
  · intro hall
    have hbefore : ∀ id, ¬before.Carries name id ↔ ¬before.CarriesTree name id :=
      fun id => not_congr ⟨hall id, CarriesTree.carries⟩
    have hafter : ∀ id, after.Carries name id → after.CarriesTree name id := by
      intro id hid
      cases hregistered : before.get? id with
      | none => exact (h.created id ⟨hregistered, hid.isSome_get?⟩).1
      | some entity =>
        exact h.kept id (hall id ((h.carries_iff (by rw [hregistered]; rfl)).mp hid))
    exact {
      schema_eq := h.schema_eq
      reached := fun id hid => h.reached id (hafter id hid)
      created_iff := h.created_iff.trans (forall_congr' fun id => (hbefore id).symm)
      one_created := h.one_created
      created := fun id hid => (h.created id hid).imp_left CarriesTree.carries
      kept := fun id hid => (h.kept id (hall id hid)).carries
      others := fun id entity hentity hnot => h.others id entity hentity ((hbefore id).mp hnot)
      components := h.components }

end Store

namespace ShaderTrees

/-- **Whom a tree reaches.**  In a store where shader trees were made, a tree that arrives and is
stored reaches every entity of its name just when each of them has a tree.  In any case it reaches
those that have one: the others are left as they are, and if no entity has both there is a new
one. -/
theorem reaches_iff {schema : Schema} (hschema : schema.HasStandard) {historyDepth : Nat}
    {earlier later : List StoreCommand} {trees : ShaderTrees} {start : Store}
    (hcreate : ShaderTrees.create ((Store.empty schema historyDepth).run earlier) =
      .ok (trees, start))
    {scene scene' : Scene σ} (hstore : scene.store = start.run later) (hnew : scene.MakesNew)
    {name : String} {tree : Json} {ids : List EntityId}
    (happly : (trees.apply name tree).run scene = (.ok ids, scene')) :
    (Store.Reaches (Store.Carries name) tree scene.store scene'.store ids ↔
      ∀ id, scene.store.Carries name id → scene.store.CarriesTree name id) ∧
    Store.Reaches (Store.CarriesTree name) tree scene.store scene'.store ids := by
  obtain ⟨upkeep, rfl, hfinds⟩ := Upkeep.exists_finds hschema hcreate later
  have hreaches := (hstore ▸ hfinds : upkeep.Finds scene.store).reaches_of_apply hnew happly
  exact ⟨hreaches.reaches_carries_iff, hreaches⟩

/-- The standard components, and no others. -/
def plainSchema : Schema where
  defs := (standardComponents.run .fresh).1
  length_le := by decide
  nodup := by decide

/-- A scene in which an entity was made out of components. -/
def sceneOf (start : Store) (components : List (String × ComponentValue)) : Scene Unit where
  store := start.run [.quickEntity ⟨1⟩ components]
  supply := ⟨2⟩
  log := []
  app := ()

/-- The name of stone. -/
def stoneName : String × ComponentValue := (Components.materialName, .text ⟨0, "stone"⟩)

/-- A tree that is none. -/
def stoneTree : String × ComponentValue := (Components.shaderTree, .json ⟨1, .null⟩)

/-- An entity of stone that has a tree gets another one. -/
theorem reaches_iff_stone : ∃ (trees : ShaderTrees) (start : Store) (ids : List EntityId)
    (scene' : Scene Unit),
    ShaderTrees.create ((Store.empty plainSchema 0).run []) = .ok (trees, start) ∧
      (sceneOf start [stoneName, stoneTree]).MakesNew ∧
      (sceneOf start [stoneName, stoneTree]).store.Carries "stone" ⟨1⟩ ∧
      (trees.apply "stone" lampTree).run (sceneOf start [stoneName, stoneTree]) =
        (.ok ids, scene') ∧
      Store.Reaches (Store.Carries "stone") lampTree
        (sceneOf start [stoneName, stoneTree]).store scene'.store ids := by
  have hstone : ((ShaderTrees.create ((Store.empty plainSchema 0).run [])).toOption.any fun made =>
      let scene := sceneOf made.2 [stoneName, stoneTree]
      decide (scene.MakesNew ∧ scene.store.current.entities.keys = [⟨1⟩] ∧
        scene.store.materialName? ⟨1⟩ = some "stone" ∧
        (scene.store.getComponent? ⟨1⟩ Components.shaderTree).isSome = true ∧
        ((made.1.apply "stone" lampTree).run scene).1.toOption.isSome = true)) = true := by
    decide +kernel
  obtain ⟨⟨trees, start⟩, hcreate, hstone⟩ := (Option.any_eq_true _ _).mp hstone
  obtain ⟨hnew, hkeys, hname, htree, happly⟩ := of_decide_eq_true hstone
  obtain ⟨ids, happly⟩ := Option.isSome_iff_exists.mp happly
  have hcreate := toOption_eq_some_iff.mp hcreate
  have happly : (trees.apply "stone" lampTree).run (sceneOf start [stoneName, stoneTree]) =
      (.ok ids, (trees.apply "stone" lampTree).after (sceneOf start [stoneName, stoneTree])) :=
    Prod.ext (toOption_eq_some_iff.mp happly) rfl
  refine ⟨trees, start, ids, _, hcreate, hnew, hname, happly, ?_⟩
  refine (reaches_iff ⟨.fresh, fun _ hd => hd⟩ hcreate rfl hnew happly).1.mpr fun id hid => ?_
  obtain ⟨entity, hentity⟩ := Option.isSome_iff_exists.mp hid.isSome_get?
  obtain ⟨record, hrecord, -⟩ := Option.map_eq_some_iff.mp hentity
  have hmem := OrderedMap.mem_keys_iff.mpr ⟨record, hrecord⟩
  rw [hkeys, List.mem_singleton] at hmem
  subst hmem
  exact ⟨hid, htree⟩

/-- An entity of stone that has no tree gets none. -/
theorem not_forall_reaches : ¬∀ (schema : Schema) (historyDepth : Nat)
    (earlier later : List StoreCommand) (trees : ShaderTrees) (start : Store)
    (scene scene' : Scene Unit) (name : String) (tree : Json) (ids : List EntityId),
    schema.HasStandard →
    ShaderTrees.create ((Store.empty schema historyDepth).run earlier) = .ok (trees, start) →
    scene.store = start.run later → scene.MakesNew →
    (trees.apply name tree).run scene = (.ok ids, scene') →
      Store.Reaches (Store.Carries name) tree scene.store scene'.store ids := by
  intro h
  have hstone : ((ShaderTrees.create ((Store.empty plainSchema 0).run [])).toOption.any fun made =>
      let scene := sceneOf made.2 [stoneName]
      let applied := (made.1.apply "stone" lampTree).run scene
      decide (scene.MakesNew ∧ applied.1.toOption.isSome = true ∧
        applied.2.store.materialName? ⟨1⟩ = some "stone" ∧
        (applied.2.store.shaderTree? ⟨1⟩).isNone = true)) = true := by
    decide +kernel
  obtain ⟨⟨trees, start⟩, hcreate, hstone⟩ := (Option.any_eq_true _ _).mp hstone
  obtain ⟨hnew, happly, hname, htree⟩ := of_decide_eq_true hstone
  obtain ⟨ids, happly⟩ := Option.isSome_iff_exists.mp happly
  have hreaches := h plainSchema 0 [] _ trees start _ _ "stone" lampTree ids
    ⟨.fresh, fun _ hd => hd⟩ (toOption_eq_some_iff.mp hcreate) rfl hnew
    (Prod.ext (toOption_eq_some_iff.mp happly) rfl)
  obtain ⟨hreached, -⟩ := hreaches.reached ⟨1⟩ hname
  rw [hreached] at htree
  cases htree

end ShaderTrees

end SceneEngine
