import SceneEngine.Engine.Basic
import SceneEngine.Proofs.Store.Registering

/-!
# Upkeep of materials

An entity that has a material name and a document for its tree should have the compile of the
document for its material, and every other entity none (`Schema.HasCurrentMaterial`).  The compiling
system sees to that, but only when it runs.  This module says what is right between its runs, and
shows that it stays right with every commit that leaves materials alone.

## Why materials can be wrong

Between two runs a document may be replaced, an entity may get a name or lose it, and entities come
and go.  Then the material is that of an earlier document, or there is none, or one that should be
gone.  What makes up for it is the record that the consumer of the system holds about the entity: it
says that the entity is new, that its tree changed, or that it left.  `Upkeep.Traces` lists what
record and entity have to do with each other so that the next run puts the material right.

## The invariant

`Traces` speaks of one entity, its record and nothing else.  That makes it easy to keep: a commit is
about one entity, and `Pending.after` says what becomes of its record from whether the entity was a
member of the query before and is one afterwards.  These are four cases, `Traces.stayOut`,
`Traces.enter`, `Traces.leave` and `Traces.stay`, put together in `Traces.after`.  What a commit
must not do is said in `Upkeep.Spares`: it leaves the material as it is, or takes it away together
with a change of the tree.

`Upkeep` itself collects what the system works with: three components, the consumer, and whether
depth programs are compiled.  What it needs of the schema (the material can be given to any entity,
and no new entity has it) is part of the structure and not assumed again.

How a store uses this, with the query of the system and all of its entities, is in
`Proofs/Engine/Tracking`; the run itself is in `Proofs/Engine/Compiling`.
-/

namespace SceneEngine

open Shading (CompiledShader Material ShaderCompiler)

/-! ## Materials of entities -/

namespace Schema

/-- The value of a component of an entity, by name.  There is none if the schema has no component of
this name. -/
def valueOf? (schema : Schema) (entity : Entity) (name : String) : Option ComponentValue :=
  (schema.id? name).bind entity.get?

/-- The compile of the document of an entity, if it has a material name and a document that
compiles.  The name does not enter the program, only whether there is one. -/
def wantedShader? (schema : Schema) (entity : Entity) : Option CompiledShader := do
  let _ ← schema.valueOf? entity Components.materialName
  let tree ← (← schema.valueOf? entity Components.shaderTree).asJson?
  (ShaderCompiler.standard.compileJson tree).toOption

/-- The material of an entity is the compile of its document, under some name; an entity without
such a compile has none.  Which name it is compiled under is left open, since a new name alone
compiles nothing. -/
def HasCurrentMaterial (schema : Schema) (withDepth : Bool) (entity : Entity) : Prop :=
  match schema.wantedShader? entity with
  | some shader => ∃ mark name, schema.valueOf? entity Components.material =
      some (.resource ⟨mark, .material
        { name, shader, depth? := if withDepth then some shader.depthVariant else none }⟩)
  | none => schema.valueOf? entity Components.material = none

end Schema

/-! ## The compiling system -/

/-- The compiling system: the components it works with, the consumer it drains, and whether it
compiles depth programs.  The material can be given to any entity, and no new entity has it. -/
structure Upkeep where
  schema : Schema
  trees : ShaderTrees
  name : ComponentId
  consumer : ConsumerId
  withDepth : Bool
  name_eq : schema.id? Components.materialName = some name
  tree_eq : schema.id? Components.shaderTree = some trees.tree
  material_eq : schema.id? Components.material = some trees.material
  shared : schema.isSingleton trees.material = false
  unseeded : ∀ id, (schema.createEntity id).get? trees.material = none

namespace Upkeep

variable (upkeep : Upkeep) {entity entity' : Entity} {entity? : Option Entity}

lemma material_ne_tree : upkeep.trees.material ≠ upkeep.trees.tree :=
  Schema.ne_of_id? upkeep.material_eq upkeep.tree_eq (by decide)

lemma material_ne_name : upkeep.trees.material ≠ upkeep.name :=
  Schema.ne_of_id? upkeep.material_eq upkeep.name_eq (by decide)

lemma name_ne_tree : upkeep.name ≠ upkeep.trees.tree :=
  Schema.ne_of_id? upkeep.name_eq upkeep.tree_eq (by decide)

/-- Whether an entity has a material name and a tree, whatever their values are.  These are the
members of the query of the system. -/
def concerns (entity : Entity) : Bool := entity.has upkeep.name && entity.has upkeep.trees.tree

/-- The material name of an entity, if it is a text. -/
def name? (entity : Entity) : Option String :=
  (entity.get? upkeep.name).bind ComponentValue.asText?

/-- The tree of an entity, if it is a document. -/
def document? (entity : Entity) : Option Json :=
  (entity.get? upkeep.trees.tree).bind ComponentValue.asJson?

/-- The material of an entity is as it should be, for the components and the depth programs of this
system. -/
def Current (entity : Entity) : Prop :=
  upkeep.schema.HasCurrentMaterial upkeep.withDepth entity

lemma wantedShader?_eq : upkeep.schema.wantedShader? entity =
    if upkeep.concerns entity then
      (upkeep.document? entity).bind fun tree =>
        (ShaderCompiler.standard.compileJson tree).toOption
    else none := by
  have hconcerns : upkeep.concerns entity =
      ((entity.get? upkeep.name).isSome && (entity.get? upkeep.trees.tree).isSome) := by
    rw [concerns, Entity.has_eq_isSome, Entity.has_eq_isSome]
  rw [hconcerns]
  simp only [Schema.wantedShader?, Schema.valueOf?, upkeep.name_eq, upkeep.tree_eq,
    Option.bind_some, Option.bind_eq_bind, document?]
  -- the query asks for the two slots only, the compile for a text and a document in them
  cases entity.get? upkeep.name with
  | none => rfl
  | some name => cases entity.get? upkeep.trees.tree <;> rfl

lemma valueOf?_material :
    upkeep.schema.valueOf? entity Components.material = entity.get? upkeep.trees.material := by
  rw [Schema.valueOf?, upkeep.material_eq, Option.bind_some]

variable {upkeep}

/-- Whether the material is as it should be depends on the name, the document and the material. -/
lemma Current.congr (hconcerns : upkeep.concerns entity' = upkeep.concerns entity)
    (hdocument : upkeep.document? entity' = upkeep.document? entity)
    (hslot : entity'.get? upkeep.trees.material = entity.get? upkeep.trees.material)
    (h : upkeep.Current entity) : upkeep.Current entity' := by
  rw [Current, Schema.HasCurrentMaterial, upkeep.wantedShader?_eq, upkeep.valueOf?_material] at h ⊢
  rwa [hconcerns, hdocument, hslot]

/-- An entity that gets no material should have none. -/
lemma current_iff_of_not_concerns (h : upkeep.concerns entity = false) :
    upkeep.Current entity ↔ entity.get? upkeep.trees.material = none := by
  rw [Current, Schema.HasCurrentMaterial, upkeep.wantedShader?_eq, h, upkeep.valueOf?_material]
  rfl

/-! ## What is to be done -/

variable (upkeep) in
/-- What a consumer holds about an entity between the runs of the system.  An entity of the query
that has the wrong material is new or has a new tree; one outside the query that has a material has
been handed over as removed.  This is what every commit keeps and what the next run starts from. -/
structure Traces (p : Pending) (entity? : Option Entity) : Prop where
  /-- Only a member of the query is new, -/
  isNew : p.isNew = true → entity?.any upkeep.concerns = true
  /-- and only of a member the tree counts as changed. -/
  changed : p.changed.contains upkeep.trees.tree = true → entity?.any upkeep.concerns = true
  /-- A member that left before is back as a new one, so that it is compiled again. -/
  returned : entity?.any upkeep.concerns = true → p.removed?.isSome = true → p.isNew = true
  /-- A member is compiled by the next run, or its material is right already. -/
  current : ∀ entity, entity? = some entity → upkeep.concerns entity = true →
    p.isNew = true ∨ p.changed.contains upkeep.trees.tree = true ∨ upkeep.Current entity
  /-- An entity outside the query loses its material in the next run, or has none. -/
  stripped : ∀ entity, entity? = some entity → upkeep.concerns entity = false →
    p.removed?.isSome = true ∨ entity.get? upkeep.trees.material = none
  /-- An entity that is new and never left has not been compiled yet. -/
  bare : ∀ entity, entity? = some entity → p.isNew = true → p.removed? = none →
    entity.get? upkeep.trees.material = none

variable (upkeep) in
/-- A commit leaves the material of its entity alone, unless it takes it away together with a change
of the tree; a tree that is not listed as changed is the same document; and the document afterwards
is known. -/
structure Spares (known : Shared Json → Prop) (commit : Commit) : Prop where
  /-- The material stays, or goes together with the old tree. -/
  slot : ∀ entity, commit.after? = some entity →
    entity.get? upkeep.trees.material = commit.before?.bind (·.get? upkeep.trees.material) ∨
      entity.get? upkeep.trees.material = none ∧ commit.changed.contains upkeep.trees.tree = true
  /-- Unless the tree counts as changed, it is the document that it was. -/
  document : ∀ entity, commit.after? = some entity →
    commit.changed.contains upkeep.trees.tree = false →
      upkeep.document? entity = commit.before?.bind upkeep.document?
  /-- Only known documents are registered. -/
  known : ∀ entity, commit.after? = some entity →
    ∀ tree, entity.get? upkeep.trees.tree = some (.json tree) → known tree

lemma Spares.bare {known : Shared Json → Prop} {commit : Commit} (h : upkeep.Spares known commit)
    (hbefore : commit.before?.bind (·.get? upkeep.trees.material) = none)
    (hafter : commit.after? = some entity) : entity.get? upkeep.trees.material = none := by
  rcases h.slot entity hafter with hslot | ⟨hslot, -⟩
  · rw [hslot, hbefore]
  · exact hslot

section Moves

variable {known : Shared Json → Prop} {p : Pending} {entity? : Option Entity} {commit : Commit}
  {watched : ComponentSet}

/-- About an entity outside the query there is nothing to compile, and it has a material only if
that is to be taken away.  An entity that is not registered is outside as well. -/
lemma Traces.of_outside (h : upkeep.Traces p entity?)
    (hwas : entity?.any upkeep.concerns = false) :
    p.isNew = false ∧ p.changed.contains upkeep.trees.tree = false ∧
      (p.removed? = none → entity?.bind (·.get? upkeep.trees.material) = none) := by
  refine ⟨?_, ?_, fun hnone => ?_⟩
  · rw [← Bool.not_eq_true]
    exact fun hnew => by simpa [hwas] using h.isNew hnew
  · rw [← Bool.not_eq_true]
    exact fun hchanged => by simpa [hwas] using h.changed hchanged
  · cases entity? with
    | none => rfl
    | some entity => exact (h.stripped entity rfl hwas).resolve_left (by simp [hnone])

/-- An entity that is new and was never handed over has no material. -/
lemma Traces.bare_of_new (h : upkeep.Traces p entity?) (hnew : p.isNew = true)
    (hremoved : p.removed? = none) : entity?.bind (·.get? upkeep.trees.material) = none := by
  cases entity? with
  | none => rfl
  | some entity => exact h.bare entity rfl hnew hremoved

/-- An entity stays out of the query.  Its record stays as it is, and as the commit brings no
material, there is still none unless the record says that the entity left. -/
lemma Traces.stayOut (h : upkeep.Traces p commit.before?) (hspares : upkeep.Spares known commit)
    (hwas : commit.before?.any upkeep.concerns = false)
    (hnow : commit.after?.any upkeep.concerns = false) :
    upkeep.Traces (p.after false false commit.before? watched) commit.after? := by
  obtain ⟨hold, hsame, hbefore⟩ := h.of_outside hwas
  exact {
    isNew := fun hnew => by simp [Pending.after, hold] at hnew
    changed := fun hchanged => by simp [Pending.after, hsame] at hchanged
    returned := fun hmember => by simp [hnow] at hmember
    current := fun entity hentity hmember => by simp [hentity, hmember] at hnow
    stripped := fun entity hentity _ => by
      cases hremoved : p.removed? with
      | none => exact .inr (hspares.bare (hbefore hremoved) hentity)
      | some last => exact .inl (by simp [Pending.after, hremoved])
    bare := fun entity _ hnew => by simp [Pending.after, hold] at hnew }

/-- An entity enters the query.  It is new from then on, so the next run compiles it, whatever its
material is. -/
lemma Traces.enter (h : upkeep.Traces p commit.before?) (hspares : upkeep.Spares known commit)
    (hwas : commit.before?.any upkeep.concerns = false)
    (hnow : commit.after?.any upkeep.concerns = true) :
    upkeep.Traces (p.after false true commit.before? watched) commit.after? where
  isNew := fun _ => hnow
  changed := fun _ => hnow
  returned := fun _ _ => rfl
  current := fun _ _ _ => .inl rfl
  stripped := fun entity hentity hmember => by simp [hentity, hmember] at hnow
  bare := fun entity hentity _ hremoved =>
    hspares.bare ((h.of_outside hwas).2.2 hremoved) hentity

/-- An entity leaves the query.  If it was new, the consumer forgets it, and it never had a
material; otherwise the record says that it left. -/
lemma Traces.leave (h : upkeep.Traces p commit.before?) (hspares : upkeep.Spares known commit)
    (hwas : commit.before?.any upkeep.concerns = true)
    (hnow : commit.after?.any upkeep.concerns = false) :
    upkeep.Traces (p.after true false commit.before? watched) commit.after? := by
  obtain ⟨before, hbefore, -⟩ := (Option.any_eq_true _ _).mp hwas
  exact {
    isNew := fun hnew => by cases hold : p.isNew <;> simp [Pending.after, hold] at hnew
    changed := fun hchanged => by cases hold : p.isNew <;> simp [Pending.after, hold] at hchanged
    returned := fun hmember => by simp [hnow] at hmember
    current := fun entity hentity hmember => by simp [hentity, hmember] at hnow
    stripped := fun entity hentity _ => by
      -- a record that only said new is dropped, which is right only if there was no material yet
      cases hold : p.isNew with
      | false => exact .inl (by simp [Pending.after, hold, hbefore])
      | true =>
        cases hremoved : p.removed? with
        | none => exact .inr (hspares.bare (h.bare_of_new hold hremoved) hentity)
        | some last => exact .inl (by simp [Pending.after, hold, hremoved])
    bare := fun entity _ hnew => by cases hold : p.isNew <;> simp [Pending.after, hold] at hnew }

/-- An entity stays in the query.  If its tree changed, the record says so; otherwise the document
is the same, and so is the material that it should have. -/
lemma Traces.stay (h : upkeep.Traces p commit.before?) (hspares : upkeep.Spares known commit)
    (hwatched : watched.contains upkeep.trees.tree = commit.changed.contains upkeep.trees.tree)
    (hwas : commit.before?.any upkeep.concerns = true)
    (hnow : commit.after?.any upkeep.concerns = true) :
    upkeep.Traces (p.after true true commit.before? watched) commit.after? where
  isNew := fun _ => hnow
  changed := fun _ => hnow
  returned := fun _ => h.returned hwas
  current := fun entity hentity hmember => by
    obtain ⟨before, hbefore, hconcerned⟩ := (Option.any_eq_true _ _).mp hwas
    rcases h.current before hbefore hconcerned with hnew | hchanged | hcurrent
    · exact .inl hnew
    · exact .inr (.inl (by simp [Pending.after, hchanged]))
    -- the tree is watched, so a change of it gets into the record
    · cases hchanged : commit.changed.contains upkeep.trees.tree with
      | true => exact .inr (.inl (by simp [Pending.after, hwatched, hchanged]))
      | false =>
        have hdocument := hspares.document entity hentity hchanged
        have hslot := (hspares.slot entity hentity).resolve_right (by simp [hchanged])
        rw [hbefore, Option.bind_some] at hdocument hslot
        exact .inr (.inr (hcurrent.congr (hmember.trans hconcerned.symm) hdocument hslot))
  stripped := fun entity hentity hmember => by simp [hentity, hmember] at hnow
  bare := fun entity hentity hnew hremoved =>
    hspares.bare (h.bare_of_new hnew hremoved) hentity

/-- Commits that leave materials alone keep track of what is to be done, whether their entity was in
the query before and whether it is in it afterwards. -/
lemma Traces.after (h : upkeep.Traces p commit.before?) (hspares : upkeep.Spares known commit)
    (hwatched : watched.contains upkeep.trees.tree = commit.changed.contains upkeep.trees.tree) :
    upkeep.Traces (p.after (commit.before?.any upkeep.concerns) (commit.after?.any upkeep.concerns)
      commit.before? watched) commit.after? := by
  cases hwas : commit.before?.any upkeep.concerns with
  | false =>
    cases hnow : commit.after?.any upkeep.concerns with
    | false => exact h.stayOut hspares hwas hnow
    | true => exact h.enter hspares hwas hnow
  | true =>
    cases hnow : commit.after?.any upkeep.concerns with
    | false => exact h.leave hspares hwas hnow
    | true => exact h.stay hspares hwatched hwas hnow

end Moves

end Upkeep

end SceneEngine
