import SceneEngine.Proofs.Engine.Compiling

/-!
# Between the runs

Between the runs of the compiling system entities are edited and messages arrive.  Nothing of this
writes materials, so the store keeps track of what is to be done (`Upkeep.Attends.edited`,
`Upkeep.preserves_apply`).  Before the first run the consumer is reset (`Upkeep.Awaits.reset`).

What may be done from outside is the reflexive and transitive closure of two kinds of steps
(`Scene.Edited`): an entity operation that the store admits, and any change of a scene that leaves
its store alone and does not go back in its supply of marks.  The supply matters because a document
is recognized by its mark.  As long as marks are never given out again, a document that is made
later is not one of those that are registered, and a registered one that is given back is the same.

A tree that arrives comes with a new mark.  It is written to the entities that have its name, or to
a new entity if there is none, and for both there is an equation that says which commands these are
(`ShaderTrees.after_apply_of_known`, `ShaderTrees.after_apply_of_unknown`).  The commands are
harmless for the same reason in both cases: the material of the entity stays, or the entity is bare,
and the tree counts as changed as its mark is new.

A reset of the consumer would break the invariant in general, since it forgets which trees have
changed.  Before the first run it does not: no entity has a material, all members become new, and so
all of them are compiled (`Upkeep.Awaits.reset`).
-/

namespace SceneEngine

/-! ## What is done from outside -/

/-- What can be done to a scene from outside, one step after another: entity operations that leave
materials alone, with documents that were made before, and whatever leaves the store alone.  Marks
are never given out again, so the supply of a scene only goes on. -/
inductive Scene.Edited {σ : Type} (scene : Scene σ) : Scene σ → Prop
  | refl : Edited scene scene
  | operates {scene' : Scene σ} {command : StoreCommand} (h : Edited scene scene')
    (hadmits : scene'.store.Admits (fun tree => tree.mark < scene'.supply.next) command) :
    Edited scene { scene' with store := scene'.store.perform command }
  | surrounds {scene' scene'' : Scene σ} (h : Edited scene scene')
    (hstore : scene''.store = scene'.store) (hsupply : scene'.supply.next ≤ scene''.supply.next) :
    Edited scene scene''

/-- An act that does only what can be done from outside. -/
def Act.Edits {σ α : Type} (act : Act σ α) : Prop :=
  ∀ scene, Scene.Edited scene (act.after scene)

/-- An act that leaves the store alone.  It may draw from the supply, but gives nothing back. -/
def Act.SparesStore {σ α : Type} (act : Act σ α) : Prop :=
  ∀ scene, (act.after scene).store = scene.store ∧
    scene.supply.next ≤ (act.after scene).supply.next

namespace ShaderTrees

variable {σ : Type} {trees : ShaderTrees} {scene : Scene σ} {name : String} {id : EntityId}
  {entity : Entity}

/-! ## What a tree that arrives does -/

lemma after_replaceTrees_singleton (hentity : scene.store.get? id = some entity)
    (tree : ComponentValue) :
    (trees.replaceTrees tree [id]).after scene =
      { scene with store := scene.store.perform (.register (entity.set trees.tree tree)) } := by
  rw [replaceTrees, Act.after_bind, Act.run_store, Act.after_store, hentity, Store.perform]
  dsimp only
  cases scene.store.register (entity.set trees.tree tree) <;> rfl

lemma after_apply_of_error {e : StoreError}
    (h : scene.store.lookup trees.query (.text name) = .error e) (tree : Json) :
    (trees.apply name tree).after scene =
      { scene with supply := ⟨scene.supply.next + 1⟩ } := by
  rw [apply, Act.after_bind, Act.after_share, Act.after_bind, Act.run_store, h]
  rfl

/-- For a name that is not there a new entity is made.  It comes with three new objects: the tree,
the identifier and the name.  That is why the identifier is drawn one place behind the mark of the
tree. -/
lemma after_apply_of_unknown (h : scene.store.lookup trees.query (.text name) = .ok [])
    (tree : Json) :
    (trees.apply name tree).after scene =
      { scene with
        store := scene.store.perform (.quickEntity (.drawn (scene.supply.next + 1))
          [(Components.materialName, .text ⟨scene.supply.next + 2, name⟩),
            (Components.shaderTree, .json ⟨scene.supply.next, tree⟩)])
        supply := ⟨scene.supply.next + 3⟩ } := by
  rw [apply, Act.after_bind, Act.run_share, Act.after_share, Act.after_bind, Act.run_store,
    Act.after_store, h]
  dsimp only
  rw [Act.after_bind, Act.run_drawId, Act.after_drawId, Act.after_bind, Act.run_share,
    Act.after_share, Act.after_bind, Act.run_store, Act.after_store, Store.perform]
  dsimp only
  cases scene.store.quickEntity _ _ <;> rfl

/-- For a name that is there its entities get the tree, all of them the same one. -/
lemma after_apply_of_known {ids : List EntityId}
    (h : scene.store.lookup trees.query (.text name) = .ok ids) (hids : ids ≠ []) (tree : Json) :
    (trees.apply name tree).after scene =
      (trees.replaceTrees (.json ⟨scene.supply.next, tree⟩) ids).after
        { scene with supply := ⟨scene.supply.next + 1⟩ } := by
  rw [apply, Act.after_bind, Act.run_share, Act.after_share, Act.after_bind, Act.run_store,
    Act.after_store, h]
  cases ids with
  | nil => exact absurd rfl hids
  | cons id ids =>
    dsimp only
    rw [Act.after_bind]
    split <;> rfl

end ShaderTrees

namespace Upkeep

variable {σ : Type} {upkeep : Upkeep} {scene scene' : Scene σ} {known : Shared Json → Prop}
  {mark : Nat} {started : Bool} {shared : Shared Json}

variable (upkeep) in
/-- The store of a scene keeps track, and whatever it holds was made before: the next mark is that
of no registered document and of no registered material. -/
def Attends (started : Bool) (scene : Scene σ) : Prop :=
  upkeep.Awaits started (fun tree => tree.mark < scene.supply.next) scene.supply.next scene.store

lemma Awaits.mono {known' : Shared Json → Prop} {mark' : Nat} {store : Store}
    (h : upkeep.Awaits started known mark store) (hknown : ∀ tree, known tree → known' tree)
    (hmark : mark ≤ mark') : upkeep.Awaits started known' mark' store :=
  ⟨h.toTracks.mono hknown hmark, h.bare⟩

lemma Attends.surround (h : upkeep.Attends started scene) (hstore : scene'.store = scene.store)
    (hsupply : scene.supply.next ≤ scene'.supply.next) : upkeep.Attends started scene' := by
  rw [Attends, hstore]
  exact h.mono (fun _ htree => Nat.lt_of_lt_of_le htree hsupply) hsupply

lemma Attends.edited (h : upkeep.Attends started scene) (hedited : scene.Edited scene') :
    upkeep.Attends started scene' := by
  induction hedited with
  | refl => exact h
  | operates _ hadmits ih =>
    have hperformed := Awaits.perform ih (harmless_of_admits ih.toTracks hadmits)
    exact hperformed
  | surrounds _ hstore hsupply ih => exact ih.surround hstore hsupply

lemma preserves_attends {α : Type} {act : Act σ α} (hact : act.Edits) :
    act.Preserves (upkeep.Attends started) :=
  fun scene h => h.edited (hact scene)

lemma preserves_report (entries : Log) :
    (Act.report entries : Act σ Unit).Preserves (upkeep.Attends started) :=
  fun _ h => h.surround rfl (Nat.le_refl _)

/-! ## The first frame -/

/-- A reset makes all entities of the query new, and touches none.  Removals that were not handed
out stay in the records. -/
lemma Installed.reset {store : Store} (h : upkeep.Installed store) :
    ∃ next, store.resetConsumer upkeep.consumer = .ok next ∧
      store.perform (.resetConsumer upkeep.consumer) = next ∧ next.current = store.current ∧
      ∀ id, next.pendingOf upkeep.consumer id =
        { store.pendingOf upkeep.consumer id with
          isNew := (store.get? id).any upkeep.concerns
          changed := ∅ } := by
  obtain ⟨live, hquery, -⟩ := h.asks
  obtain ⟨entry, hserves⟩ := Store.exists_serves hquery
  have hreset := hserves.resetConsumer_eq
  have hperform : store.perform (.resetConsumer upkeep.consumer) =
      store.setConsumer upkeep.consumer entry.1 (Store.enterAll live entry.2.forget) := by
    rw [Store.perform, hreset, Store.orSame_ok]
  refine ⟨_, hreset, hperform, rfl, fun id => ?_⟩
  rw [← hperform, (Store.pendingOf_reset h.toAccountable upkeep.consumer id).1, h.isMember_eq]

/-- Before the first run no entity has a material, so a reset tells the system all there is to
do. -/
lemma Awaits.reset {store : Store} (h : upkeep.Awaits false known mark store) :
    ∃ next, store.resetConsumer upkeep.consumer = .ok next ∧
      upkeep.Awaits true known mark next := by
  obtain ⟨next, hreset, hperform, hcurrent, hpending⟩ := h.toInstalled.reset
  have hget : ∀ id, next.get? id = store.get? id := fun id => by
    rw [Store.get?, hcurrent, Store.get?]
  refine ⟨next, hreset, ⟨hperform ▸ h.toInstalled.perform _, ⟨?_, ?_⟩, fun id => ?_⟩,
    fun hstarted => by cases hstarted⟩
  · exact fun id entity hentity => h.documents id entity (hget id ▸ hentity)
  · exact fun id entity hentity => h.materials id entity (hget id ▸ hentity)
  · have hbare : ∀ entity, store.get? id = some entity →
        entity.get? upkeep.trees.material = none := h.bare rfl id
    rw [hpending, hget]
    exact {
      isNew := fun hnew => hnew
      changed := fun htree => by simp at htree
      returned := fun hmember _ => hmember
      current := fun entity hentity hconcerned => .inl <| by
        rw [hentity, Option.any_some, hconcerned]
      stripped := fun entity hentity _ => .inr (hbare entity hentity)
      bare := fun entity hentity _ _ => hbare entity hentity }

/-! ## Messages -/

/-- A tree may be written whose mark is new, or that of the tree itself.  The second happens when
several entities get one tree. -/
lemma harmless_register_tree {store : Store} (h : upkeep.Tracks known mark store)
    (hknown : known shared) (hmarks : ∀ tree, known tree → tree.mark = shared.mark → tree = shared)
    {id : EntityId} {entity : Entity} (hentity : store.get? id = some entity) :
    upkeep.Harmless known store (.register (entity.set upkeep.trees.tree (.json shared))) where
  drain := fun heq => by cases heq
  reset := fun heq => by cases heq
  spares := by
    intro next record? hproposal hadvance
    have hget : store.get? (entity.set upkeep.trees.tree (.json shared)).id = some entity := by
      rw [← hentity, ← h.current.2.id_eq hentity]
      rfl
    refine spares_of_register h.current.2 (toOption_eq_some_iff.mp hproposal) hadvance.effective
      (.inl ?_) (fun old new hold hnew hmark => ?_) fun tree htree => ?_
    · rw [Entity.get?_set, if_neg upkeep.material_ne_tree, hget, Option.bind_some]
    · rw [hget, Option.bind_some] at hold
      rw [Entity.get?_set, if_pos rfl] at hnew
      obtain rfl := ComponentValue.json.inj (Option.some.inj hnew)
      exact (hmarks old (h.documents id entity hentity old hold) hmark.symm).symm
    · rw [Entity.get?_set, if_pos rfl] at htree
      exact ComponentValue.json.inj (Option.some.inj htree) ▸ hknown

/-- Entities that get a tree keep their materials. -/
lemma Awaits.replaceTrees (h : upkeep.Awaits started known mark scene.store)
    (hknown : known shared) (hmarks : ∀ tree, known tree → tree.mark = shared.mark → tree = shared)
    (ids : List EntityId) :
    let scene' := (upkeep.trees.replaceTrees (.json shared) ids).after scene
    upkeep.Awaits started known mark scene'.store ∧ scene'.supply = scene.supply := by
  -- on the entities that get the tree: one that is gone is passed over, and one that refuses it
  -- ends the work
  induction ids generalizing scene with
  | nil => exact ⟨h, rfl⟩
  | cons id ids ih =>
    rw [ShaderTrees.replaceTrees, Act.after_bind, Act.run_store, Act.after_store]
    dsimp only
    split
    next => exact ih h
    next entity hentity =>
      have hharmless := harmless_register_tree h.toTracks hknown hmarks hentity
      have hperformed := h.perform hharmless
      split
      next => exact ⟨h, rfl⟩
      next store commit hstore =>
        have hnext : scene.store.perform
            (.register (entity.set upkeep.trees.tree (.json shared))) = store := by
          rw [Store.perform, hstore]
          rfl
        rw [hnext] at hperformed
        have hscene : upkeep.Awaits started known mark { scene with store }.store := hperformed
        rw [Act.after_bind, Act.after_setStore]
        exact ih hscene

/-- A new entity for a tree is given its name and the tree. -/
lemma setComponents_eq {store : Store} (hschema : store.schema = upkeep.schema) (entity : Entity)
    (named tree : ComponentValue) :
    store.setComponents entity
        [(Components.materialName, named), (Components.shaderTree, tree)] =
      .ok ((entity.set upkeep.name named).set upkeep.trees.tree tree) := by
  have hname : store.componentId Components.materialName = .ok upkeep.name := by
    rw [Store.componentId_eq_ok_iff, hschema, upkeep.name_eq]
  have htree : store.componentId Components.shaderTree = .ok upkeep.trees.tree := by
    rw [Store.componentId_eq_ok_iff, hschema, upkeep.tree_eq]
  simp [Store.setComponents, hname, htree, pure, Except.pure]

/-- A new entity with a name and a tree takes no material with it, whether or not something was
registered under its identifier before. -/
lemma harmless_quickEntity_tree {store : Store} {known' : Shared Json → Prop}
    (h : upkeep.Tracks known mark store) (hfresh : ∀ tree, known tree → tree.mark ≠ shared.mark)
    (hknown : known' shared) (id : EntityId) (named : ComponentValue) :
    upkeep.Harmless known' store (.quickEntity id
      [(Components.materialName, named), (Components.shaderTree, .json shared)]) where
  drain := fun heq => by cases heq
  reset := fun heq => by cases heq
  spares := by
    intro next record? hproposal hadvance
    obtain ⟨value, hvalue, hregister⟩ := Option.bind_eq_some_iff.mp hproposal
    have hschema : store.schema = upkeep.schema := h.current.1
    have hcomponents := setComponents_eq hschema (store.schema.createEntity id) named (.json shared)
    obtain rfl := Except.ok.inj (hcomponents.symm.trans (toOption_eq_some_iff.mp hvalue))
    have hregister := toOption_eq_some_iff.mp hregister
    generalize hvalue' : ((store.schema.createEntity id).set upkeep.name named).set
      upkeep.trees.tree (.json shared) = value at hregister
    have hdocument : value.get? upkeep.trees.tree = some (.json shared) := by
      rw [← hvalue', Entity.get?_set, if_pos rfl]
    have hbare : value.get? upkeep.trees.material = none := by
      rw [← hvalue', Entity.get?_set, if_neg upkeep.material_ne_tree, Entity.get?_set,
        if_neg upkeep.material_ne_name, hschema, upkeep.unseeded]
    have hmarks : ∀ old, (store.get? value.id).bind (·.get? upkeep.trees.tree) =
        some (.json old) → old.mark ≠ shared.mark := by
      intro old hold
      obtain ⟨entity, hentity, hold⟩ := Option.bind_eq_some_iff.mp hold
      exact hfresh old (h.documents _ entity hentity old hold)
    have hchanged := contains_changed_of_mark h.current.2 hregister hdocument hmarks
    refine spares_of_register h.current.2 hregister hadvance.effective (.inr ⟨hbare, hchanged⟩)
      (fun old new hold hnew hmark => ?_) fun tree htree => ?_
    · rw [hdocument] at hnew
      obtain rfl := ComponentValue.json.inj (Option.some.inj hnew)
      exact absurd hmark.symm (hmarks old hold)
    · rw [hdocument] at htree
      exact ComponentValue.json.inj (Option.some.inj htree) ▸ hknown

/-- A tree that arrives is stored under a new mark, and the store keeps track of what is to be done
about it. -/
lemma preserves_apply (name : String) (tree : Json) :
    (upkeep.trees.apply name tree : Act σ _).Preserves (upkeep.Attends started) := by
  intro scene h
  -- the tree with its mark, which no registered tree has
  let shared : Shared Json := ⟨scene.supply.next, tree⟩
  cases hlookup : scene.store.lookup upkeep.trees.query (.text name) with
  | error e =>
    rw [ShaderTrees.after_apply_of_error hlookup]
    exact h.surround rfl (Nat.le_succ _)
  | ok ids =>
    by_cases hids : ids = []
    · subst hids
      rw [ShaderTrees.after_apply_of_unknown hlookup]
      have hlater : upkeep.Attends started { scene with supply := ⟨scene.supply.next + 3⟩ } :=
        h.surround rfl (Nat.le_add_right _ 3)
      have hknown : shared.mark < scene.supply.next + 3 := Nat.lt_add_of_pos_right (by decide)
      exact Awaits.perform hlater (harmless_quickEntity_tree h.toTracks
        (fun tree htree => Nat.ne_of_lt htree) hknown _ _)
    · rw [ShaderTrees.after_apply_of_known hlookup hids]
      have hstored : upkeep.Awaits started
          (fun tree => tree.mark < scene.supply.next ∨ tree = shared) (scene.supply.next + 1)
          { scene with supply := ⟨scene.supply.next + 1⟩ }.store :=
        Awaits.mono h (fun _ => .inl) (Nat.le_succ _)
      obtain ⟨hreplaced, hsupply⟩ := hstored.replaceTrees (.inr rfl)
        (fun tree htree heq => htree.resolve_left (by rw [heq]; exact Nat.lt_irrefl _)) ids
      rw [Attends, hsupply]
      refine hreplaced.mono (fun tree htree => ?_) (Nat.le_refl _)
      rcases htree with htree | rfl
      · exact Nat.lt_succ_of_lt htree
      · exact Nat.lt_succ_self _

end Upkeep

end SceneEngine
