import SceneEngine.Proofs.Engine.Writing

/-!
# Runs of the compiling system

A run drains the consumer once and makes the calls that the delta asks for: it takes materials away
from what left the query, and compiles what is new or has a new tree.  What the calls do to an
entity depends on the calls for that entity alone.  A store that keeps track of what is to be done
comes out of a run with every material as it should be (`Upkeep.Tracks.run`), and a run that follows
at once writes nothing (`Upkeep.Works.current_run`).

## The agenda

The calls of a run are those for what left, and behind them the arrivals (`Delta.agenda_eq`).  Of
the hooks that an arrival calls the system has one, so an arrival compiles its entity or does
nothing (`Upkeep.after_invoke`), and which entities are compiled can be read off the delta
(`Upkeep.exists_compiled?`), and off the records that were drained
(`Upkeep.exists_compiled?_of_drain`).

## The two halves

Both halves are inductions along the list of calls with the invariant of a run (`Upkeep.Running`).
The first takes the material from each entity that left, and says exactly what the others have
(`Upkeep.Running.remove`).  The second is stated for any property that a compiled entity has
(`Upkeep.Running.compileAll`): if at every point each entity has the property or is still to be
compiled, then in the end all have it.  It serves for `Upkeep.Current` here, and for
`Upkeep.Dressed` where trees are collected by name.

## Why this is enough

An entity that left and came back stands in both halves.  Its material is taken away first and made
again afterwards, since its record says that it is new; this is the clause `Upkeep.Traces.returned`.
An entity that left for good has no material, and whatever else has a wrong one is in the second
half by `Upkeep.Traces.current`.
-/

namespace SceneEngine

/-! ## The system -/

/-- The calls of the agenda behind those for what left.  An entity that is both new and changed gets
the call for updates as well, but the call for new or updated entities only once. -/
def Delta.arrivals (delta : Delta) : List Invocation :=
  (delta.new.flatMap fun e => [.forNew e, .newOrUpdated e none]) ++
    delta.updated.flatMap fun u =>
      if delta.new.any (·.id == u.entity.id) then [.forUpdated u]
      else [.forUpdated u, .newOrUpdated u.entity (some u.changed)]

lemma Delta.agenda_eq (delta : Delta) :
    delta.agenda = delta.removed.map .removed ++ delta.arrivals :=
  List.append_assoc _ _ _

namespace System

variable {σ : Type} (system : System σ) (time : Float)

lemma after_invokeAll_cons (call : Invocation) (calls : List Invocation) (scene : Scene σ) :
    (system.invokeAll time (call :: calls)).after scene =
      (system.invokeAll time calls).after ((system.invoke time call).after scene) := by
  rw [invokeAll, Act.after_bind, Act.after_bind]
  cases ((system.invoke time call).run scene).1 <;> rfl

lemma after_invokeAll_append (calls calls' : List Invocation) (scene : Scene σ) :
    (system.invokeAll time (calls ++ calls')).after scene =
      (system.invokeAll time calls').after ((system.invokeAll time calls).after scene) := by
  induction calls generalizing scene with
  | nil => rfl
  | cons call calls ih =>
    rw [List.cons_append, after_invokeAll_cons, ih, after_invokeAll_cons]

end System

namespace Upkeep

variable {σ : Type} {upkeep : Upkeep} {known : Shared Json → Prop} {mark : Nat} {scene : Scene σ}
  {id : EntityId} {delta : Delta}

variable (upkeep) in
/-- The compiling system, as it is installed.  A change that does not include the tree is passed
over, and an entity that left loses its material. -/
def system : System σ :=
  { name := ShaderTrees.systemName
    consumer? := some upkeep.consumer
    newOrUpdated? := some fun entity changed? _ =>
      if changed?.any (!·.contains upkeep.trees.tree) then return .ok ()
      else upkeep.trees.compile .standard upkeep.withDepth entity.id
    removed? := some fun entity _ => upkeep.trees.dropMaterial entity.id }

variable (upkeep) in
/-- The entity that a call compiles.  A call for an update compiles only if the tree is among what
changed. -/
def compiled? : Invocation → Option EntityId
  | .newOrUpdated entity none => some entity.id
  | .newOrUpdated entity (some changed) =>
    if changed.contains upkeep.trees.tree then some entity.id else none
  | _ => none

/-- Behind the calls for what left, a call compiles its entity or does nothing. -/
lemma after_invoke {call : Invocation} (hcall : call ∈ delta.arrivals) (time : Float)
    (scene : Scene σ) :
    (upkeep.system.invoke time call).after scene =
      (upkeep.compiled? call).elim scene fun id =>
        (upkeep.trees.compile .standard upkeep.withDepth id).after scene := by
  -- of the kinds of calls only one has a hook in this system
  cases call with
  | removed entity =>
    simp only [Delta.arrivals, List.mem_append, List.mem_flatMap] at hcall
    rcases hcall with ⟨_, -, hcall⟩ | ⟨u, -, hcall⟩
    · simp at hcall
    · split at hcall <;> simp at hcall
  | forNew | forUpdated | each => rfl
  | newOrUpdated entity changed? =>
    cases changed? with
    | none => rfl
    | some changed =>
      rw [compiled?, System.invoke]
      simp only [System.hook?, system, Option.map_some, Option.any_some]
      by_cases hchanged : changed.contains upkeep.trees.tree = true <;> simp [hchanged]

/-- What is compiled is what is new and what has a new tree.  The two lists of the delta may share
entities, and then they are compiled once. -/
lemma exists_compiled? : (∃ call ∈ delta.arrivals, upkeep.compiled? call = some id) ↔
    (∃ entity ∈ delta.new, entity.id = id) ∨
      ∃ update ∈ delta.updated, update.entity.id = id ∧
        update.changed.contains upkeep.trees.tree = true := by
  simp only [Delta.arrivals, List.mem_append, List.mem_flatMap]
  constructor
  · rintro ⟨call, ⟨entity, hentity, hcall⟩ | ⟨update, hupdate, hcall⟩, hcompiled⟩
    · left
      refine ⟨entity, hentity, ?_⟩
      simp only [List.mem_cons, List.not_mem_nil, or_false] at hcall
      rcases hcall with rfl | rfl
      · cases hcompiled
      · exact Option.some.inj hcompiled
    · right
      refine ⟨update, hupdate, ?_⟩
      split at hcall
      · obtain rfl := List.mem_singleton.mp hcall
        cases hcompiled
      · simp only [List.mem_cons, List.not_mem_nil, or_false] at hcall
        rcases hcall with rfl | rfl
        · cases hcompiled
        · rw [compiled?] at hcompiled
          split at hcompiled
          next hchanged => exact ⟨Option.some.inj hcompiled, hchanged⟩
          next => cases hcompiled
  · rintro (⟨entity, hentity, rfl⟩ | ⟨update, hupdate, rfl, hchanged⟩)
    · exact ⟨.newOrUpdated entity none, .inl ⟨entity, hentity, by simp⟩, rfl⟩
    · cases hnew : delta.new.any (·.id == update.entity.id) with
      | true =>
        -- an entity that is both new and changed is compiled as new
        obtain ⟨entity, hentity, hid⟩ := List.any_eq_true.mp hnew
        exact ⟨.newOrUpdated entity none, .inl ⟨entity, hentity, by simp⟩,
          congrArg some (beq_iff_eq.mp hid)⟩
      | false =>
        refine ⟨.newOrUpdated update.entity (some update.changed),
          .inr ⟨update, hupdate, by simp [hnew]⟩, ?_⟩
        rw [compiled?, if_pos hchanged]

/-! ## The two halves of a run -/

/-- What left loses its material, and nothing else changes.  Whether an entity is a member of the
query does not depend on its material, so membership stays as it was. -/
lemma Running.remove (h : upkeep.Running known mark scene) (removed : List Entity) (time : Float) :
    let scene' := (upkeep.system.invokeAll time (removed.map .removed)).after scene
    upkeep.Running known mark scene' ∧
      (∀ id, (scene'.store.get? id).any upkeep.concerns =
        (scene.store.get? id).any upkeep.concerns) ∧
      (∀ id ∈ removed.map Entity.id, ∀ entity, scene'.store.get? id = some entity →
        entity.get? upkeep.trees.material = none) ∧
      ∀ id ∉ removed.map Entity.id, scene'.store.get? id = scene.store.get? id := by
  -- on the list of what left; that an entity stands in it only once is not needed
  induction removed generalizing scene with
  | nil => exact ⟨h, fun _ => rfl, fun id hid => absurd hid List.not_mem_nil, fun _ _ => rfl⟩
  | cons entity removed ih =>
    intro scene'
    have hscene' : scene' = (upkeep.system.invokeAll time (removed.map .removed)).after
        ((upkeep.trees.dropMaterial entity.id).after scene) :=
      System.after_invokeAll_cons upkeep.system time (.removed entity) _ scene
    obtain ⟨hfirst, hget⟩ := h.dropMaterial entity.id
    obtain ⟨hrunning, hconcerns, hdropped, hothers⟩ := ih hfirst
    rw [← hscene'] at hrunning hconcerns hdropped hothers
    refine ⟨hrunning, fun id => ?_, fun id hid value hvalue => ?_, fun id hid => ?_⟩
    · rw [hconcerns, hget]
      split
      next hid =>
        rw [hid]
        cases scene.store.get? entity.id with
        | none => rfl
        | some old => exact (Agree.erase upkeep old).concerns_eq
      next => rfl
    -- it loses its material now or later
    · by_cases hlater : id ∈ removed.map Entity.id
      · exact hdropped id hlater value hvalue
      · obtain rfl := (List.mem_cons.mp hid).resolve_right hlater
        rw [hothers _ hlater, hget, if_pos rfl] at hvalue
        obtain ⟨old, -, rfl⟩ := Option.map_eq_some_iff.mp hvalue
        rw [Entity.get?_erase, if_pos rfl]
    · rw [List.map_cons, List.mem_cons, not_or] at hid
      rw [hothers id hid.2, hget, if_neg hid.1]

/-- When every entity that falls short of something is compiled, and nothing but entities of the
query is, none falls short of it in the end, if being compiled is enough.  Nothing but materials
changes. -/
lemma Running.compileAll (h : upkeep.Running known mark scene) {calls : List Invocation}
    (hcalls : ∀ call ∈ calls, call ∈ delta.arrivals) (time : Float) {P : Entity → Prop}
    (hP : ∀ entity, upkeep.Dressed entity → upkeep.concerns entity = true → P entity)
    (hconcerned : ∀ call ∈ calls, ∀ id, upkeep.compiled? call = some id →
      ∀ entity, scene.store.get? id = some entity → upkeep.concerns entity = true)
    (htodo : ∀ id entity, scene.store.get? id = some entity →
      P entity ∨ ∃ call ∈ calls, upkeep.compiled? call = some id) :
    let scene' := (upkeep.system.invokeAll time calls).after scene
    upkeep.Running known mark scene' ∧ upkeep.StoresAgree scene.store scene'.store ∧
      ∀ id entity, scene'.store.get? id = some entity → P entity := by
  -- on the calls still to be made, with `htodo` as the invariant
  induction calls generalizing scene with
  | nil =>
    refine ⟨h, .refl upkeep _, fun id entity hentity => (htodo id entity hentity).resolve_right ?_⟩
    rintro ⟨call, hcall, -⟩
    exact List.not_mem_nil hcall
  | cons call calls ih =>
    rw [List.forall_mem_cons] at hcalls hconcerned
    rw [System.after_invokeAll_cons, after_invoke hcalls.1]
    -- an entity that is not compiled now is compiled later
    have hlater : ∀ id, upkeep.compiled? call ≠ some id →
        (∃ call' ∈ call :: calls, upkeep.compiled? call' = some id) →
        ∃ call' ∈ calls, upkeep.compiled? call' = some id := by
      rintro id hne ⟨call', hcall', hid⟩
      refine ⟨call', (List.mem_cons.mp hcall').resolve_left ?_, hid⟩
      rintro rfl
      exact hne hid
    cases hcompiled : upkeep.compiled? call with
    | none =>
      exact ih h hcalls.2 hconcerned.2 fun id entity hentity =>
        (htodo id entity hentity).imp_right (hlater id (by simp [hcompiled]))
    | some own =>
      rw [Option.elim_some]
      obtain ⟨hrunning, hagree, hothers, hdressed⟩ := h.compile own
      generalize (upkeep.trees.compile .standard upkeep.withDepth own).after scene = next
        at hrunning hagree hothers hdressed ⊢
      have hconcerned' : ∀ call' ∈ calls, ∀ id, upkeep.compiled? call' = some id →
          ∀ entity, next.store.get? id = some entity → upkeep.concerns entity = true := by
        intro call' hcall' id hid entity hentity
        obtain ⟨old, hold, hsame⟩ := hagree.exists_old hentity
        rw [hsame.concerns_eq]
        exact hconcerned.2 call' hcall' id hid old hold
      -- the entity that was just compiled has the property now, and the others are as they were
      have htodo' : ∀ id entity, next.store.get? id = some entity →
          P entity ∨ ∃ call' ∈ calls, upkeep.compiled? call' = some id := by
        intro id entity hentity
        by_cases hid : id = own
        · subst hid
          obtain ⟨old, hold, hsame⟩ := hagree.exists_old hentity
          refine .inl (hP entity (hdressed entity hentity) ?_)
          rw [hsame.concerns_eq]
          exact hconcerned.1 id hcompiled old hold
        · rw [hothers id hid] at hentity
          refine (htodo id entity hentity).imp_right (hlater id ?_)
          rw [hcompiled]
          exact fun heq => hid (Option.some.inj heq).symm
      obtain ⟨hrest, hagree', hall⟩ := ih hrunning hcalls.2 hconcerned' htodo'
      exact ⟨hrest, hagree.trans hagree', hall⟩

/-! ## Runs -/

/-- The drain at the start of a run takes everything out of the records, and touches no entity. -/
lemma Installed.drain {store : Store} (h : upkeep.Installed store) :
    ∃ delta next, store.drain upkeep.consumer = .ok (delta, next) ∧ upkeep.Installed next ∧
      next.current = store.current ∧ ∀ id, next.pendingOf upkeep.consumer id = {} := by
  obtain ⟨live, hquery, -⟩ := h.asks
  obtain ⟨entry, hserves⟩ := Store.exists_serves hquery
  have hdrain := hserves.drain_eq
  have hperform : store.perform (.drain upkeep.consumer) =
      store.setConsumer upkeep.consumer entry.1 {} := by
    rw [Store.perform, hdrain, except_map_ok, Store.orSame_ok]
  refine ⟨_, _, hdrain, hperform ▸ h.perform _, rfl, fun id => ?_⟩
  rw [← hperform]
  exact (Store.pendingOf_drain h.toAccountable upkeep.consumer id).1

/-- The drain leaves a scene on which the hooks can work: its records are empty, and so are settled.
-/
lemma exists_start (h : upkeep.Installed scene.store)
    (hdated : upkeep.Dated known scene.supply.next scene.store) :
    ∃ delta next, scene.store.drain upkeep.consumer = .ok (delta, next) ∧
      next.current = scene.store.current ∧
      upkeep.Running known scene.supply.next { scene with store := next } := by
  obtain ⟨delta, next, hdrain, hinstalled, hsame, hempty⟩ := h.drain
  have hget : ∀ id, next.get? id = scene.store.get? id := fun id => by
    rw [Store.get?, hsame, Store.get?]
  exact ⟨delta, next, hdrain, hsame, {
    toInstalled := hinstalled
    documents := fun id entity hentity => hdated.documents id entity (hget id ▸ hentity)
    materials := fun id entity hentity => hdated.materials id entity (hget id ▸ hentity)
    settled := fun id => by
      rw [hempty]
      exact ⟨rfl, rfl, fun htree => by simp at htree⟩
    mark_le := Nat.le_refl _ }⟩

/-- A run makes the calls of the agenda; then it writes to the log what failed. -/
lemma after_run {next : Store} (hdrain : scene.store.drain upkeep.consumer = .ok (delta, next))
    (time : Float) : ∃ log, (upkeep.system.run time).after scene =
      { (upkeep.system.invokeAll time delta.agenda).after { scene with store := next } with
        log } := by
  rw [System.run, Act.after_bind]
  change ∃ log, Act.after (Act.store >>= _) scene = _
  rw [Act.after_bind, Act.run_store, hdrain]
  exact ⟨_, rfl⟩

/-- What a run compiles are the entities whose records say that they are new or have a new tree. -/
lemma exists_compiled?_of_drain {store next : Store} (h : upkeep.Installed store)
    (hdrain : store.drain upkeep.consumer = .ok (delta, next)) (id : EntityId) :
    (∃ call ∈ delta.arrivals, upkeep.compiled? call = some id) ↔
      ∃ entity, store.get? id = some entity ∧
        ((store.pendingOf upkeep.consumer id).isNew = true ∨
          (store.pendingOf upkeep.consumer id).changed.contains upkeep.trees.tree = true) := by
  obtain ⟨-, hnew, hupdated⟩ := Store.mem_drain h.toAccountable hdrain
  rw [exists_compiled?]
  constructor
  · rintro (⟨entity, hentity, rfl⟩ | ⟨update, hupdate, rfl, htree⟩)
    · obtain ⟨hisNew, hentity⟩ := (hnew entity).mp hentity
      exact ⟨entity, hentity, .inl hisNew⟩
    · obtain ⟨-, hentity, hchanged⟩ := (hupdated update).mp hupdate
      exact ⟨update.entity, hentity, .inr (hchanged ▸ htree)⟩
  · rintro ⟨entity, hentity, hrecord⟩
    obtain rfl := h.current.2.id_eq hentity
    rcases hrecord with hisNew | htree
    · exact .inl ⟨entity, (hnew entity).mpr ⟨hisNew, hentity⟩, rfl⟩
    · refine .inr ⟨⟨entity, _⟩, (hupdated _).mpr ⟨?_, hentity, rfl⟩, rfl, htree⟩
      rw [← Bool.not_eq_true, ComponentSet.isEmpty_iff]
      intro hchanged
      rw [hchanged, ComponentSet.contains_empty] at htree
      cases htree

/-- **A run puts materials right.**  When a run comes to an end, every registered entity has the
material that it should have. -/
theorem Tracks.run (h : upkeep.Tracks known scene.supply.next scene.store) (time : Float) :
    let scene' := (upkeep.system.run time).after scene
    upkeep.Running known scene.supply.next scene' ∧
      ∀ id entity, scene'.store.get? id = some entity → upkeep.Current entity := by
  intro scene'
  obtain ⟨delta, next, hdrain, hsame, hstart⟩ := exists_start h.toInstalled h.toDated
  have hget : ∀ id, next.get? id = scene.store.get? id := fun id => by
    rw [Store.get?, hsame, Store.get?]
  obtain ⟨hremoved, -, -⟩ := Store.mem_drain h.toAccountable hdrain
  have hcompiled := exists_compiled?_of_drain h.toInstalled hdrain
  obtain ⟨hfirst, hconcerns, hdropped, hothers⟩ := hstart.remove delta.removed time
  have hmember : ∀ id entity,
      ((upkeep.system.invokeAll time (delta.removed.map .removed)).after
        { scene with store := next }).store.get? id = some entity →
      (scene.store.get? id).any upkeep.concerns = upkeep.concerns entity := by
    intro id entity hentity
    rw [← hget, ← hconcerns id, hentity, Option.any_some]
  have honly : ∀ call ∈ delta.arrivals, ∀ id, upkeep.compiled? call = some id → ∀ entity,
      ((upkeep.system.invokeAll time (delta.removed.map .removed)).after
        { scene with store := next }).store.get? id = some entity →
      upkeep.concerns entity = true := by
    intro call hcall id hid entity hentity
    obtain ⟨old, hold, hrecord⟩ := (hcompiled id).mp ⟨call, hcall, hid⟩
    rw [← hmember id entity hentity]
    exact hrecord.elim (h.traces id).isNew (h.traces id).changed
  have htodo : ∀ id entity,
      ((upkeep.system.invokeAll time (delta.removed.map .removed)).after
        { scene with store := next }).store.get? id = some entity →
      upkeep.Current entity ∨ ∃ call ∈ delta.arrivals, upkeep.compiled? call = some id := by
    intro id entity hentity
    by_cases hleft : id ∈ delta.removed.map Entity.id
    · have hbare := hdropped id hleft entity hentity
      cases hconcerned : upkeep.concerns entity with
      | false => exact .inl ((current_iff_of_not_concerns hconcerned).mpr hbare)
      | true =>
        have hwas := (hmember id entity hentity).trans hconcerned
        obtain ⟨old, hold, -⟩ := (Option.any_eq_true _ _).mp hwas
        refine .inr ((hcompiled id).mpr ⟨old, hold, .inl ?_⟩)
        exact (h.traces id).returned hwas ((hremoved id).mp hleft)
    -- it is as it was before the run, and its record says what is wrong with it
    · rw [hothers id hleft, hget] at hentity
      cases hconcerned : upkeep.concerns entity with
      | false =>
        left
        rw [current_iff_of_not_concerns hconcerned]
        exact ((h.traces id).stripped entity hentity hconcerned).resolve_left
          fun hsome => hleft ((hremoved id).mpr hsome)
      | true =>
        rcases (h.traces id).current entity hentity hconcerned with hisNew | htree | hcurrent
        · exact .inr ((hcompiled id).mpr ⟨entity, hentity, .inl hisNew⟩)
        · exact .inr ((hcompiled id).mpr ⟨entity, hentity, .inr htree⟩)
        · exact .inl hcurrent
  obtain ⟨hrunning, -, hcurrent⟩ := hfirst.compileAll (fun _ hcall => hcall) time
    (fun _ hdressed hconcerned => hdressed.current hconcerned) honly htodo
  obtain ⟨log, hlog⟩ := after_run hdrain time
  have hscene' : scene' = _ := hlog
  rw [Delta.agenda_eq, System.after_invokeAll_append] at hscene'
  rw [hscene']
  exact ⟨⟨hrunning.toWorks, hrunning.mark_le⟩, hcurrent⟩

/-- What a run leaves behind is a store that keeps track, with nothing left to be done. -/
lemma Running.tracks (h : upkeep.Running known mark scene)
    (hcurrent : ∀ id entity, scene.store.get? id = some entity → upkeep.Current entity) :
    upkeep.Tracks known scene.supply.next scene.store where
  toInstalled := h.toInstalled
  toDated := h.toDated
  traces := fun id => by
    obtain ⟨hisNew, hremoved, hchanged⟩ := h.settled id
    refine {
      isNew := fun hnew => absurd hnew (by simp [hisNew])
      changed := fun htree => ?_
      returned := fun _ hleft => absurd hleft (by simp [hremoved])
      current := fun entity hentity _ => .inr (.inr (hcurrent id entity hentity))
      stripped := fun entity hentity hconcerned =>
        .inr ((current_iff_of_not_concerns hconcerned).mp (hcurrent id entity hentity))
      bare := fun _ _ hnew => absurd hnew (by simp [hisNew]) }
    obtain ⟨entity, hentity, hconcerned, -⟩ := hchanged htree
    rw [hentity, Option.any_some, hconcerned]

/-- An entity without a document that is as it should be stays as it is.  Compiling it fails and
takes away a material that it does not have. -/
lemma after_compile_of_no_document {entity : Entity} (hentity : scene.store.get? id = some entity)
    (hdocument : upkeep.document? entity = none) (hcurrent : upkeep.Current entity) :
    (upkeep.trees.compile .standard upkeep.withDepth id).after scene = scene := by
  have hbare : entity.get? upkeep.trees.material = none := by
    rw [Current, Schema.HasCurrentMaterial, wantedShader?_eq, hdocument, Option.bind_none, ite_self,
      valueOf?_material] at hcurrent
    exact hcurrent
  have hdocument' : (entity.get? upkeep.trees.tree).bind ComponentValue.asJson? = none := hdocument
  rw [ShaderTrees.compile, Act.after_bind, Act.run_store, Act.after_store]
  dsimp only
  rw [hentity]
  dsimp only
  rw [hdocument']
  dsimp only
  rw [ShaderTrees.after_giveUp, ShaderTrees.dropMaterial, Act.after_bind, Act.run_store,
    Act.after_store]
  dsimp only
  rw [hentity]
  dsimp only
  rw [if_neg (by rw [Entity.get?_eq_none_iff.mp hbare]; exact Bool.false_ne_true), Act.after_pure]

/-- **A run that finds materials right writes nothing.**  Its calls are for entities whose tree is
no document, and for these there is no material to be taken away. -/
theorem Works.current_run {mark : Nat} (h : upkeep.Works known mark scene.store)
    (hcurrent : ∀ id entity, scene.store.get? id = some entity → upkeep.Current entity)
    (time : Float) :
    ((upkeep.system.run time).after scene).store.current = scene.store.current := by
  obtain ⟨delta, next, hdrain, -, hsame, -⟩ := h.toInstalled.drain
  obtain ⟨hremoved, -, -⟩ := Store.mem_drain h.toAccountable hdrain
  have hleft : delta.removed = [] := by
    refine List.eq_nil_iff_forall_not_mem.mpr fun entity hentity => ?_
    have hsome := (hremoved entity.id).mp (List.mem_map_of_mem hentity)
    rw [(h.settled entity.id).removed] at hsome
    cases hsome
  have hcalls : ∀ calls : List Invocation, (∀ call ∈ calls, call ∈ delta.arrivals) →
      (upkeep.system.invokeAll time calls).after { scene with store := next } =
        { scene with store := next } := by
    intro calls hall
    induction calls with
    | nil => rfl
    | cons call calls ih =>
      rw [List.forall_mem_cons] at hall
      rw [System.after_invokeAll_cons, after_invoke hall.1]
      cases hcompiled : upkeep.compiled? call with
      | none => exact ih hall.2
      | some id =>
        -- only a tree that is no document counts as changed
        obtain ⟨entity, hentity, hrecord⟩ :=
          (exists_compiled?_of_drain h.toInstalled hdrain id).mp ⟨call, hall.1, hcompiled⟩
        have htree := hrecord.resolve_left (by simp [(h.settled id).isNew])
        obtain ⟨entity', hentity', -, hdocument⟩ := (h.settled id).changed htree
        obtain rfl := Option.some.inj (hentity.symm.trans hentity')
        have hnext : next.get? id = some entity := by rw [Store.get?, hsame]; exact hentity
        have hfixed : (upkeep.trees.compile .standard upkeep.withDepth id).after
            { scene with store := next } = { scene with store := next } :=
          after_compile_of_no_document hnext hdocument (hcurrent id entity hentity)
        rw [Option.elim_some, hfixed]
        exact ih hall.2
  obtain ⟨log, hlog⟩ := after_run hdrain time
  rw [hlog, Delta.agenda_eq, hleft, List.map_nil, List.nil_append, hcalls _ fun _ hcall => hcall]
  exact hsame

end Upkeep

end SceneEngine
