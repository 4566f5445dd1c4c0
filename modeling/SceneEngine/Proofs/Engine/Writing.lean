import SceneEngine.Proofs.Engine.Acts
import SceneEngine.Proofs.Engine.Tracking

/-!
# Writing materials

While the compiling system runs, nothing but materials is written, and a write is never refused
(`Upkeep.Works.rewrite`).  A call of the system takes the material of one entity away
(`Upkeep.Running.dropMaterial`) or puts it right (`Upkeep.Running.compile`), and touches no other.

## What holds during a run

At the start of a run the consumer is drained, so that its records are empty.  Every material that
is written then makes a record again, since the consumer hears of the commits of its own system too.
`Upkeep.Settled` says what these records can be: the entity is not new and has not left, and its
tree counts as changed only if it is no document.  With documents dated as before this makes
`Upkeep.Works`, the invariant of a store during a run; `Upkeep.Running` is the same for a scene,
whose supply of marks has gone on since the run began.

The one odd case is a tree that is no document.  It has no identity and counts as changed whenever
its entity is written, so a record of it can never be avoided; but there is nothing to compile then
either (`Upkeep.Settled.after`).

## What a write does

Two values of an entity that differ in nothing but the material agree (`Upkeep.Agree`), and two
stores do if all their entities do (`Upkeep.StoresAgree`).  All that a compile depends on, the name
and the document, is the same for values that agree, so what an entity should have is not changed by
writing what others should have.  Whoever is compiled is `Upkeep.Dressed` afterwards: its material
is what its document compiles to under its own name, which is more than `Upkeep.Current` asks for.
-/

namespace SceneEngine

open Shading (Material ShaderCompiler)

/-! ## Entities that get or lose a material -/

namespace Upkeep

variable {upkeep : Upkeep} {store : Store} {known : Shared Json → Prop} {mark : Nat}
  {old middle new entity : Entity} {p : Pending} {entity? : Option Entity}

variable (upkeep) in
/-- What the consumer holds about an entity while the system runs: nothing but changes, and a change
of the tree only if the tree is no document. -/
structure Settled (p : Pending) (entity? : Option Entity) : Prop where
  isNew : p.isNew = false
  removed : p.removed? = none
  changed : p.changed.contains upkeep.trees.tree = true →
    ∃ entity, entity? = some entity ∧ upkeep.concerns entity = true ∧
      upkeep.document? entity = none

variable (upkeep) in
/-- A store while the system runs: it is installed and dated as between the runs, but the records
say that nothing is left to be done. -/
structure Works (known : Shared Json → Prop) (mark : Nat) (store : Store) : Prop
    extends upkeep.Installed store, upkeep.Dated known mark store where
  settled : ∀ id, upkeep.Settled (store.pendingOf upkeep.consumer id) (store.get? id)

variable (upkeep) in
/-- Two values of an entity that differ in nothing but the material.  They have the same name and
the same document, and concern the system alike. -/
structure Agree (old new : Entity) : Prop where
  id_eq : new.id = old.id
  get?_eq : ∀ c, c ≠ upkeep.trees.material → new.get? c = old.get? c

namespace Agree

lemma refl (old : Entity) : upkeep.Agree old old := ⟨rfl, fun _ _ => rfl⟩

lemma trans (h : upkeep.Agree old middle) (h' : upkeep.Agree middle new) : upkeep.Agree old new :=
  ⟨h'.id_eq.trans h.id_eq, fun c hc => (h'.get?_eq c hc).trans (h.get?_eq c hc)⟩

lemma concerns_eq (h : upkeep.Agree old new) : upkeep.concerns new = upkeep.concerns old := by
  rw [concerns, concerns, Entity.has_eq_isSome, Entity.has_eq_isSome, Entity.has_eq_isSome,
    Entity.has_eq_isSome, h.get?_eq _ upkeep.material_ne_name.symm,
    h.get?_eq _ upkeep.material_ne_tree.symm]

lemma document?_eq (h : upkeep.Agree old new) : upkeep.document? new = upkeep.document? old := by
  rw [document?, document?, h.get?_eq _ upkeep.material_ne_tree.symm]

lemma name?_eq (h : upkeep.Agree old new) : upkeep.name? new = upkeep.name? old := by
  rw [name?, name?, h.get?_eq _ upkeep.material_ne_name.symm]

lemma erase (upkeep : Upkeep) (old : Entity) :
    upkeep.Agree old (old.erase upkeep.trees.material) :=
  ⟨rfl, fun c hc => by rw [Entity.get?_erase, if_neg hc]⟩

lemma set (upkeep : Upkeep) (old : Entity) (value : ComponentValue) :
    upkeep.Agree old (old.set upkeep.trees.material value) :=
  ⟨rfl, fun c hc => by rw [Entity.get?_set, if_neg hc]⟩

end Agree

variable (upkeep) in
/-- Two stores with the same registered entities, up to their materials.  Versions, records and
histories may differ. -/
def StoresAgree (store store' : Store) : Prop :=
  ∀ id, Option.Rel upkeep.Agree (store.get? id) (store'.get? id)

lemma StoresAgree.refl (upkeep : Upkeep) (store : Store) : upkeep.StoresAgree store store := by
  intro id
  cases store.get? id with
  | none => exact .none
  | some entity => exact .some (.refl entity)

lemma storesAgree_of_current {store' : Store} (h : store'.current = store.current) :
    upkeep.StoresAgree store store' := by
  intro id
  rw [Store.get?, Store.get?, h]
  exact StoresAgree.refl upkeep store id

lemma StoresAgree.trans {store' store'' : Store} (h : upkeep.StoresAgree store store')
    (h' : upkeep.StoresAgree store' store'') : upkeep.StoresAgree store store'' := by
  intro id
  have hfirst := h id
  have hsecond := h' id
  generalize store.get? id = first?, store'.get? id = second?, store''.get? id = third?
    at hfirst hsecond ⊢
  cases hfirst with
  | none =>
    cases hsecond
    exact .none
  | some hagree =>
    cases hsecond with
    | some hagree' => exact .some (hagree.trans hagree')

lemma StoresAgree.exists_old {store' : Store} {id : EntityId} (h : upkeep.StoresAgree store store')
    (hnew : store'.get? id = some new) :
    ∃ old, store.get? id = some old ∧ upkeep.Agree old new := by
  have hagree := h id
  rw [hnew] at hagree
  generalize store.get? id = old? at hagree ⊢
  cases hagree with
  | some hagree => exact ⟨_, rfl, hagree⟩

lemma StoresAgree.exists_new {store' : Store} {id : EntityId} (h : upkeep.StoresAgree store store')
    (hold : store.get? id = some old) :
    ∃ new, store'.get? id = some new ∧ upkeep.Agree old new := by
  have hagree := h id
  rw [hold] at hagree
  generalize store'.get? id = new? at hagree ⊢
  cases hagree with
  | some hagree => exact ⟨_, rfl, hagree⟩

/-- Rewriting the material of an entity gives a store that agrees. -/
lemma storesAgree_of_rewrite {store' : Store} {id : EntityId} (hold : store.get? id = some old)
    (hagree : upkeep.Agree old new)
    (hget : ∀ id', store'.get? id' = if id' = id then some new else store.get? id') :
    upkeep.StoresAgree store store' := by
  intro id'
  rw [hget]
  split
  next hid =>
    rw [hid, hold]
    exact .some hagree
  next => exact StoresAgree.refl upkeep store id'

variable (upkeep) in
/-- What the document of an entity compiles to under its name, if it does.  An entity whose name is
no text is compiled under the empty name. -/
def wantedMaterial? (entity : Entity) : Option Material :=
  (upkeep.document? entity).bind fun tree =>
    (Material.compile .standard ((upkeep.name? entity).getD "") tree upkeep.withDepth).toOption

lemma Agree.wantedMaterial?_eq (h : upkeep.Agree old new) :
    upkeep.wantedMaterial? new = upkeep.wantedMaterial? old := by
  rw [wantedMaterial?, wantedMaterial?, h.document?_eq, h.name?_eq]

variable (upkeep) in
/-- The material of an entity is what its document compiles to under its name, or there is none if
it does not compile. -/
def Dressed (entity : Entity) : Prop :=
  match upkeep.wantedMaterial? entity with
  | some material => ∃ mark,
    entity.get? upkeep.trees.material = some (.resource ⟨mark, .material material⟩)
  | none => entity.get? upkeep.trees.material = none

/-- A material under the right name is a material under some name. -/
lemma Dressed.current (h : upkeep.Dressed entity) (hconcerned : upkeep.concerns entity = true) :
    upkeep.Current entity := by
  rw [Current, Schema.HasCurrentMaterial, wantedShader?_eq, hconcerned, if_pos rfl,
    valueOf?_material]
  rw [Dressed, wantedMaterial?] at h
  cases hdocument : upkeep.document? entity with
  | none =>
    rw [hdocument] at h
    exact h
  | some tree =>
    rw [hdocument, Option.bind_some, Material.compile] at h
    rw [Option.bind_some]
    cases hshader : ShaderCompiler.standard.compileJson tree with
    | error e =>
      rw [hshader] at h
      exact h
    | ok shader =>
      rw [hshader] at h
      obtain ⟨mark, hslot⟩ := h
      exact ⟨mark, _, hslot⟩

/-- A tree that stays counts as changed only if it is no document. -/
lemma Settled.after {watched : ComponentSet} (h : upkeep.Settled p (some old))
    (hagree : upkeep.Agree old new)
    (hwatched : watched.contains upkeep.trees.tree =
      !ComponentValue.unchanged (old.get? upkeep.trees.tree) (new.get? upkeep.trees.tree)) :
    upkeep.Settled (p.after (upkeep.concerns old) (upkeep.concerns new) (some old) watched)
      (some new) := by
  -- a record that was there speaks of the same tree as before
  have hchanged : p.changed.contains upkeep.trees.tree = true →
      upkeep.concerns new = true ∧ upkeep.document? new = none := by
    intro htree
    obtain ⟨entity, hentity, hmember, hnone⟩ := h.changed htree
    obtain rfl := Option.some.inj hentity
    exact ⟨hagree.concerns_eq.trans hmember, hagree.document?_eq.trans hnone⟩
  rw [hagree.concerns_eq]
  cases hmember : upkeep.concerns old with
  | false => exact ⟨h.isNew, h.removed, fun htree => ⟨new, rfl, hchanged htree⟩⟩
  | true =>
    refine ⟨h.isNew, h.removed, fun htree => ⟨new, rfl, hagree.concerns_eq.trans hmember, ?_⟩⟩
    rw [Pending.after, ComponentSet.contains_union, Bool.or_eq_true] at htree
    -- the change is an old one, or it comes from this commit
    rcases htree with htree | htree
    · exact (hchanged htree).2
    · rw [hwatched, hagree.get?_eq _ upkeep.material_ne_tree.symm, Bool.not_eq_true'] at htree
      rw [hagree.document?_eq, document?]
      cases hold : old.get? upkeep.trees.tree with
      | none => rfl
      | some value =>
        rw [hold] at htree
        -- a document keeps its mark and so counts as unchanged; only other values do not
        cases value with
        | json tree => exact absurd htree (by simp [ComponentValue.unchanged,
            ComponentValue.sameAs, Shared.isSame])
        | _ => rfl

/-- Writing the material of a registered entity is never refused, and it changes nothing else. -/
lemma Works.rewrite (h : upkeep.Works known mark store) (hold : store.get? new.id = some old)
    (hagree : upkeep.Agree old new)
    (hdiffers : ComponentValue.unchanged (old.get? upkeep.trees.material)
      (new.get? upkeep.trees.material) = false)
    (hmark : ∀ resource, new.get? upkeep.trees.material = some (.resource resource) →
      resource.mark < mark) :
    upkeep.Works known mark (store.perform (.register new)) ∧
      ∀ id, (store.perform (.register new)).get? id =
        if id = new.id then some new else store.get? id := by
  have hs := h.current.2
  -- the only component that the entity may gain is the material, which is no singleton
  obtain ⟨next, hnext⟩ : ∃ next, store.current.register new = .ok next := by
    refine StoreState.exists_register hs h.exclusive fun c hc => ?_
    by_cases hmaterial : c = upkeep.trees.material
    · subst hmaterial
      rw [h.current.1]
      exact .inr ⟨(Schema.of_id?_eq_some upkeep.material_eq).1, upkeep.shared⟩
    · rw [Entity.has_eq_isSome, hagree.get?_eq c hmaterial, ← Entity.has_eq_isSome] at hc
      exact .inl ⟨old, hold, hc⟩
  have hslot : ∀ c, next.2.changed.contains c =
      !ComponentValue.unchanged (old.get? c) (new.get? c) := by
    intro c
    have hget : store.current.get? new.id = some old := hold
    rw [StoreState.contains_changed_of_register hs hnext, hget, Option.bind_some]
  have hadvance := StoreState.advances_of_register hs hnext
    ((hslot upkeep.trees.material).trans (by rw [hdiffers, Bool.not_false]))
  have hafter := StoreState.after_of_register hs hnext hadvance.effective
  obtain ⟨hid, hbefore, -⟩ := StoreState.commit_of_register hnext
  have hproposal : ∀ {next'}, store.proposal? (.register new) = some next' → next' = next :=
    fun h => Except.ok.inj ((toOption_eq_some_iff.mp h).symm.trans hnext)
  -- whatever holds of the new value and of all the old ones holds of the new store
  have hvalues : ∀ {P : Entity → Prop}, P new →
      (∀ id entity, store.get? id = some entity → P entity) →
      ∀ id entity, (store.perform (.register new)).get? id = some entity → P entity := by
    intro P hP hall
    refine Store.values_perform hs hall fun next' _ hnext' _ entity hentity => ?_
    rw [hproposal hnext', hafter] at hentity
    exact Option.some.inj hentity ▸ hP
  refine ⟨?_, fun id => ?_⟩
  · refine {
      toInstalled := h.toInstalled.perform _
      documents := hvalues ?_ h.documents
      materials := hvalues hmark h.materials
      settled := ?_ }
    · rw [hagree.get?_eq _ upkeep.material_ne_tree.symm]
      exact h.documents _ old hold
    · refine h.toInstalled.records_perform h.settled (fun hc => by cases hc)
        (fun hc => by cases hc) fun next' _ hnext' _ p watched hp hwatched => ?_
      obtain rfl := hproposal hnext'
      have hold' : next'.2.before? = some old := hbefore.trans hold
      rw [hold'] at hp ⊢
      rw [hafter, Option.any_some, Option.any_some]
      exact hp.after hagree (hwatched.trans (hslot _))
  · rw [Store.perform_register hnext, Store.get?_commit hadvance, hid, hafter]

lemma Works.mono {mark' : Nat} (h : upkeep.Works known mark store) (hle : mark ≤ mark') :
    upkeep.Works known mark' store :=
  { h with toDated := h.toDated.mono (fun _ htree => htree) hle }

end Upkeep

/-! ## What the system does to an entity -/

namespace ShaderTrees

variable {σ : Type} {trees : ShaderTrees} {id : EntityId}

lemma after_put (entity : Entity) (scene : Scene σ) : (put entity).after scene =
    { scene with store := scene.store.perform (.register entity) } := by
  rw [put, Act.after_bind, Act.run_store, Act.after_store, Store.perform]
  cases scene.store.register entity with
  | error e => rfl
  | ok next => rfl

lemma after_giveUp (failure : Failure) (scene : Scene σ) :
    (trees.giveUp id failure).after scene = (trees.dropMaterial id).after scene := by
  rw [giveUp, Act.after_bind]
  cases ((trees.dropMaterial id).run scene).1 <;> rfl

end ShaderTrees

namespace Upkeep

variable {σ : Type} {upkeep : Upkeep} {known : Shared Json → Prop} {mark : Nat} {scene : Scene σ}
  {id : EntityId}

variable (upkeep) in
/-- A scene while the system runs; `mark` is the next mark at the start of the run.  Marks are only
ever drawn, so what was made in the run has a mark from `mark` on. -/
structure Running (known : Shared Json → Prop) (mark : Nat) (scene : Scene σ) : Prop
    extends upkeep.Works known scene.supply.next scene.store where
  mark_le : mark ≤ scene.supply.next

/-- An entity loses its material, if it is registered and has one; nothing is written otherwise.  No
other entity changes. -/
lemma Running.dropMaterial (h : upkeep.Running known mark scene) (id : EntityId) :
    upkeep.Running known mark ((upkeep.trees.dropMaterial id).after scene) ∧
      ∀ id', ((upkeep.trees.dropMaterial id).after scene).store.get? id' =
        if id' = id then (scene.store.get? id).map (·.erase upkeep.trees.material)
        else scene.store.get? id' := by
  rw [ShaderTrees.dropMaterial, Act.after_bind, Act.run_store, Act.after_store]
  dsimp only
  split
  next hnone =>
    refine ⟨h, fun id' => ?_⟩
    split
    next hid => rw [hid, Act.after_pure, hnone, Option.map_none]
    next => rfl
  next entity hentity =>
    have hid : entity.id = id := h.current.2.id_eq hentity
    split
    next hhas =>
      rw [ShaderTrees.after_put]
      -- there is a material and then there is none, so the write is a change
      have hdiffers : ComponentValue.unchanged (entity.get? upkeep.trees.material)
          ((entity.erase upkeep.trees.material).get? upkeep.trees.material) = false := by
        rw [Entity.has_eq_isSome] at hhas
        obtain ⟨value, hvalue⟩ := Option.isSome_iff_exists.mp hhas
        rw [hvalue, Entity.get?_erase, if_pos rfl]
        rfl
      obtain ⟨hworks, hget⟩ := h.toWorks.rewrite (hid ▸ hentity) (.erase upkeep entity) hdiffers
        (fun resource hresource => by
          rw [Entity.get?_erase, if_pos rfl] at hresource
          cases hresource)
      refine ⟨⟨hworks, h.mark_le⟩, fun id' => ?_⟩
      rw [hget, hentity, Option.map_some]
      exact if_congr (by rw [← hid]; rfl) rfl rfl
    next hhas =>
      refine ⟨h, fun id' => ?_⟩
      split
      next hid =>
        rw [hid, Act.after_pure, hentity, Option.map_some,
          Entity.erase_of_not_has (Bool.not_eq_true _ ▸ hhas)]
      next => rfl

/-- An entity gets a new material, under a new mark.  The write is a change even if the material is
equal to the old one, since resources are compared by their marks. -/
lemma Running.place (h : upkeep.Running known mark scene) {id : EntityId} {current : Entity}
    (hcurrent : scene.store.get? id = some current) (material : Material) :
    let scene' := (Act.share (.material material) >>= fun resource =>
      ShaderTrees.put (current.set upkeep.trees.material (.resource resource))).after scene
    upkeep.Running known mark scene' ∧ ∀ id', scene'.store.get? id' =
      if id' = id then
        some (current.set upkeep.trees.material
          (.resource ⟨scene.supply.next, .material material⟩))
      else scene.store.get? id' := by
  intro scene'
  have hid : current.id = id := h.current.2.id_eq hcurrent
  generalize hnew : current.set upkeep.trees.material
    (.resource ⟨scene.supply.next, .material material⟩) = new
  have hscene : scene' = { scene with
      store := scene.store.perform (.register new)
      supply := ⟨scene.supply.next + 1⟩ } := by
    rw [← hnew]
    exact ShaderTrees.after_put _ _
  have hagree : upkeep.Agree current new := hnew ▸ .set upkeep current _
  have hslot : new.get? upkeep.trees.material =
      some (.resource ⟨scene.supply.next, .material material⟩) := by
    rw [← hnew, Entity.get?_set, if_pos rfl]
  -- the old material was made before
  have hdiffers : ComponentValue.unchanged (current.get? upkeep.trees.material)
      (new.get? upkeep.trees.material) = false := by
    rw [hslot]
    cases hold : current.get? upkeep.trees.material with
    | none => rfl
    | some value =>
      cases value with
      | resource old =>
        exact beq_false_of_ne (Nat.ne_of_lt (h.materials id current hcurrent old hold))
      | _ => rfl
  have hworks : upkeep.Works known (scene.supply.next + 1) scene.store :=
    h.toWorks.mono (Nat.le_succ _)
  have hid' : new.id = id := hagree.id_eq.trans hid
  obtain ⟨hworks', hget⟩ := hworks.rewrite (hid'.symm ▸ hcurrent) hagree hdiffers
    (fun resource hresource => by
      obtain rfl := ComponentValue.resource.inj (Option.some.inj (hslot.symm.trans hresource))
      exact Nat.lt_succ_self _)
  rw [hscene]
  exact ⟨⟨hworks', Nat.le_succ_of_le h.mark_le⟩, fun id' => by rw [hget, hid']⟩

/-- The name under which an entity is compiled is its material name, as it is registered at the
time. -/
lemma nameOf_eq {store : Store} {entity : Entity} (hschema : store.schema = upkeep.schema)
    (hentity : store.get? id = some entity) :
    ShaderTrees.nameOf store id = (upkeep.name? entity).getD "" := by
  rw [ShaderTrees.nameOf, Store.getComponent?, hschema, upkeep.name_eq, hentity]
  rfl

/-- An entity gets the material that it should have, or loses the one it has.  A compile that fails
is reported, and the material goes all the same. -/
lemma Running.compile (h : upkeep.Running known mark scene) (id : EntityId) :
    let scene' := (upkeep.trees.compile .standard upkeep.withDepth id).after scene
    upkeep.Running known mark scene' ∧ upkeep.StoresAgree scene.store scene'.store ∧
      (∀ id', id' ≠ id → scene'.store.get? id' = scene.store.get? id') ∧
      ∀ entity, scene'.store.get? id = some entity → upkeep.Dressed entity := by
  dsimp only
  rw [ShaderTrees.compile, Act.after_bind, Act.run_store, Act.after_store]
  dsimp only
  split
  -- an entity that is gone by now is passed over
  next hnone =>
    refine ⟨h, .refl upkeep _, fun _ _ => rfl, fun entity hentity => ?_⟩
    rw [Act.after_pure, hnone] at hentity
    cases hentity
  next current hcurrent =>
    rw [nameOf_eq h.current.1 hcurrent]
    have hrewrite : ∀ {scene' : Scene σ} {new : Entity}, upkeep.Running known mark scene' →
        upkeep.Agree current new → upkeep.Dressed new →
        (∀ id', scene'.store.get? id' = if id' = id then some new else scene.store.get? id') →
        upkeep.Running known mark scene' ∧ upkeep.StoresAgree scene.store scene'.store ∧
          (∀ id', id' ≠ id → scene'.store.get? id' = scene.store.get? id') ∧
          ∀ entity, scene'.store.get? id = some entity → upkeep.Dressed entity := by
      intro scene' new hrunning hagree hdressed hget
      refine ⟨hrunning, storesAgree_of_rewrite hcurrent hagree hget,
        fun id' hne => (hget id').trans (if_neg hne), fun entity hentity => ?_⟩
      rw [hget, if_pos rfl] at hentity
      exact Option.some.inj hentity ▸ hdressed
    have hdrop (hfails : upkeep.wantedMaterial? current = none) :=
      have hagree := Agree.erase upkeep current
      have hdressed : upkeep.Dressed (current.erase upkeep.trees.material) := by
        rw [Dressed, hagree.wantedMaterial?_eq, hfails, Entity.get?_erase, if_pos rfl]
      hrewrite (h.dropMaterial id).1 hagree hdressed fun id' => by
        rw [(h.dropMaterial id).2, hcurrent, Option.map_some]
    split
    next hnone =>
      rw [ShaderTrees.after_giveUp]
      exact hdrop (by rw [wantedMaterial?, document?, hnone, Option.bind_none])
    next tree htree =>
      have hwanted : upkeep.wantedMaterial? current =
          (Material.compile .standard ((upkeep.name? current).getD "") tree
            upkeep.withDepth).toOption := by
        rw [wantedMaterial?, document?, htree, Option.bind_some]
      split
      next e herror =>
        rw [ShaderTrees.after_giveUp]
        exact hdrop (by rw [hwanted, herror, toOption_error])
      next material hmaterial =>
        obtain ⟨hrunning, hget⟩ := h.place hcurrent material
        have hagree := Agree.set upkeep current
          (.resource ⟨scene.supply.next, .material material⟩)
        refine hrewrite hrunning hagree ?_ hget
        rw [Dressed, hagree.wantedMaterial?_eq, hwanted, hmaterial, toOption_ok]
        exact ⟨scene.supply.next, by rw [Entity.get?_set, if_pos rfl]⟩

end Upkeep

end SceneEngine
