import SceneEngine.Proofs.Engine.Creation
import SceneEngine.Proofs.Engine.Messages

/-!
# Materials after frames

However an engine is used, its store keeps track of what the compiling system has to do
(`Engine.Maintained`).  So after every frame each entity has the material that it should have
(`Engine.materials_current`).

## Engines in use

`Engine.InUse` says what may happen to an engine over the standard components that runs no system
but its own.  Between frames the scene is edited in any way that leaves materials alone
(`Scene.Edited`), the inbox is replaced by any other, and listeners, input and renderer are any that
do no more than such edits, the renderer nothing to the store at all.  Frames may follow at any
time, and their results do not matter.

## One frame

A frame samples the input, applies the messages of the inbox, runs the systems and draws.  The first
two keep the invariant between runs (`Upkeep.Attends`, by `Proofs/Engine/Messages`), the run ends
with every material as it should be (`Upkeep.Tracks.run`), and what it leaves behind is the
invariant again (`Engine.Settled`).  The first frame of an engine begins with a reset of the
consumer, which is harmless since no entity has a material yet.

A frame that follows at once finds nothing to do: no message has arrived, and the records that are
left ask for nothing but trees that are no documents, which are not compiled.  So the state of the
store stays as it is, version included (`Engine.Settled.current_frame`).

The last section runs an engine to which one message was sent, so that the theorem speaks of an
entity that really has a material.
-/

namespace SceneEngine

open LiveLink (Message Router)

/-! ## Engines -/

/-- An engine over the standard components that runs no system but its own.  Between frames the
scene is edited, messages arrive, and it is settled who listens to them and what samples the
input. -/
inductive Engine.InUse {σ : Type} (schema : Schema) : Engine σ → Prop
  | created {config : EngineConfig} {supply supply' : Supply} {app : σ} {engine : Engine σ}
    (hschema : Schema.build (standardComponents.run supply).1 = .ok schema)
    (hcreate : Engine.create config schema supply' app = .ok engine) : InUse schema engine
  | edited {engine : Engine σ} {scene : Scene σ} (h : InUse schema engine)
    (hscene : engine.scene.Edited scene) : InUse schema { engine with scene }
  | receives {engine : Engine σ} (h : InUse schema engine) (inbox : LiveLink.Inbox) :
    InUse schema { engine with inbox }
  | listens {engine : Engine σ} {router : Router (Act σ)} (h : InUse schema engine)
    (hrouter : ∀ listener ∈ router.listeners, ∀ message, (listener.2 message).Edits) :
    InUse schema { engine with router }
  | samples {engine : Engine σ} {input? : Option (Float → Act σ Outcome)}
    (h : InUse schema engine) (hinput : ∀ input ∈ input?, ∀ delta, (input delta).Edits) :
    InUse schema { engine with input? }
  | framed {engine : Engine σ} (h : InUse schema engine) (delta : Float) {render : Renderer σ}
    (hrender : ∀ state info, (render state info).SparesStore) :
    InUse schema (engine.frame delta render).2

namespace Engine

variable {σ : Type} {engine : Engine σ} {upkeep : Upkeep} {schema : Schema} {render : Renderer σ}

/-- What holds of an engine in use, between its frames: it runs the compiling system and no other,
its listeners and its input do no more than edits, and the store of its scene keeps track of what is
to be done. -/
structure Maintained (engine : Engine σ) (upkeep : Upkeep) : Prop where
  withDepth : engine.config.shader.depthVariant = upkeep.withDepth
  trees : engine.shaderTrees = upkeep.trees
  pipeline : engine.pipeline = ⟨[upkeep.system]⟩
  input : ∀ input ∈ engine.input?, ∀ delta, (input delta).Edits
  listeners : ∀ listener ∈ engine.router.listeners, ∀ message, (listener.2 message).Edits
  scene : upkeep.Attends engine.initialized engine.scene

/-! ## Frames -/

lemma preserves_sampleInput (h : engine.Maintained upkeep) (delta : Float) {started : Bool} :
    (engine.sampleInput delta).Preserves (upkeep.Attends started) := by
  rw [sampleInput]
  split
  next => exact Act.preserves_pure _
  next input hinput =>
    refine (Upkeep.preserves_attends (h.input input hinput delta)).bind fun outcome => ?_
    split
    · exact Upkeep.preserves_report _
    · exact Act.preserves_pure _

lemma preserves_applyMessage (h : engine.Maintained upkeep) (message : Message)
    {started : Bool} : (engine.applyMessage message).Preserves (upkeep.Attends started) := by
  have hdispatch : Act.Preserves (do let _ ← engine.router.dispatch message)
      (upkeep.Attends started) :=
    (Act.preserves_dispatch message fun listener hlistener =>
      Upkeep.preserves_attends (h.listeners listener hlistener message)).bind
        fun _ => Act.preserves_pure _
  rw [applyMessage]
  split
  next =>
    rw [h.trees]
    refine (Upkeep.preserves_apply _ _).bind fun outcome => ?_
    split
    · exact (Upkeep.preserves_report _).bind fun _ => hdispatch
    · exact hdispatch
  next => exact hdispatch

/-- The scene of a frame when the systems run: the input is sampled, what the inbox has to say is
written to the log, and the messages are applied one after another. -/
def prepared (engine : Engine σ) (delta : Float) : Scene σ :=
  (engine.inbox.take.1.forM engine.applyMessage).after
    ((Act.report engine.inbox.take.2.2).after ((engine.sampleInput delta).after engine.scene))

/-- A frame prepares the scene, runs the systems and draws; otherwise the engine stays as it is.
The renderer is told the state of the store and what there is to know about the frame, which does
not matter here. -/
lemma runFrame_eq (engine : Engine σ) (delta : Float) (render : Renderer σ) :
    ∃ state info frameCount, (engine.runFrame delta render).2 =
      { engine with
        inbox := engine.inbox.take.2.1
        scene := (render state info).after
          ((engine.pipeline.tick delta).after (engine.prepared delta))
        elapsed := engine.elapsed + delta
        frameCount } := by
  rw [runFrame]
  dsimp only [doing, perform, applyMessages]
  split
  · exact ⟨_, _, _, rfl⟩
  · exact ⟨_, _, _, rfl⟩

lemma after_tick {system : System σ} (delta : Float) (scene : Scene σ) :
    (Pipeline.tick ⟨[system]⟩ delta).after scene = (system.run delta).after scene := rfl

/-- Initializing an engine resets the only consumer of its systems.  A system that drains nothing is
passed over. -/
lemma init_of_reset {consumer : ConsumerId} {next : Store}
    (hconsumers : engine.pipeline.systems.filterMap System.consumer? = [consumer])
    (hreset : engine.scene.store.resetConsumer consumer = .ok next) :
    engine.init = (.ok (), { engine with
      scene := { engine.scene with store := next }
      initialized := true }) := by
  have hresetAll : Pipeline.resetAll (engine.pipeline.systems.filterMap System.consumer?)
      engine.scene.store = (.ok (), next) := by
    rw [hconsumers, Pipeline.resetAll, hreset]
    rfl
  have hrun : engine.pipeline.init.run engine.scene =
      (.ok (), { engine.scene with store := next }) := by
    rw [Pipeline.init]
    change ((Pipeline.resetAll (engine.pipeline.systems.filterMap System.consumer?)
      engine.scene.store).1, { engine.scene with store := (Pipeline.resetAll
        (engine.pipeline.systems.filterMap System.consumer?) engine.scene.store).2 }) = _
    rw [hresetAll]
  rw [init, perform, hrun]

/-- The first frame makes everything new to the system, so that all entities are compiled. -/
lemma init_eq (h : engine.Maintained upkeep) (hinitialized : engine.initialized = false) :
    ∃ engine', engine.init = (.ok (), engine') ∧ engine'.Maintained upkeep ∧
      engine'.initialized = true := by
  have hscene := h.scene
  rw [hinitialized] at hscene
  obtain ⟨next, hreset, hawaits⟩ := Upkeep.Awaits.reset hscene
  have hconsumers : engine.pipeline.systems.filterMap System.consumer? = [upkeep.consumer] := by
    rw [h.pipeline]
    rfl
  exact ⟨_, init_of_reset hconsumers hreset,
    ⟨h.withDepth, h.trees, h.pipeline, h.input, h.listeners, hawaits⟩, rfl⟩

lemma attends_prepared (h : engine.Maintained upkeep) (delta : Float) :
    upkeep.Attends engine.initialized (engine.prepared delta) :=
  Act.preserves_forM (fun message _ => preserves_applyMessage h message) _
    (Upkeep.preserves_report _ _ (preserves_sampleInput h delta _ h.scene))

/-- What a frame leaves behind: every entity has the material that it should have, and the consumer
has nothing to hand out that would be acted on. -/
structure Settled (engine : Engine σ) (upkeep : Upkeep) : Prop
    extends engine.Maintained upkeep where
  initialized : engine.initialized = true
  current : ∀ id entity, engine.scene.store.get? id = some entity → upkeep.Current entity
  works : ∃ known mark, upkeep.Works known mark engine.scene.store

/-- A frame of an initialized engine leaves a settled engine behind.  The renderer comes after the
systems and does not touch the store. -/
lemma settled_runFrame (h : engine.Maintained upkeep) (hinitialized : engine.initialized = true)
    (delta : Float) (hrender : ∀ state info, (render state info).SparesStore) :
    (engine.runFrame delta render).2.Settled upkeep := by
  have hprepared := attends_prepared h delta
  rw [hinitialized] at hprepared
  obtain ⟨hrunning, hcurrent⟩ := hprepared.toTracks.run delta
  have hattends : upkeep.Attends true ((upkeep.system.run delta).after (engine.prepared delta)) :=
    ⟨(hrunning.tracks hcurrent).mono
      (fun _ htree => Nat.lt_of_lt_of_le htree hrunning.mark_le) (Nat.le_refl _),
      fun hstarted => by cases hstarted⟩
  obtain ⟨state, info, frameCount, hframe⟩ := engine.runFrame_eq delta render
  rw [h.pipeline, after_tick] at hframe
  obtain ⟨hstore, hsupply⟩ := hrender state info
    ((upkeep.system.run delta).after (engine.prepared delta))
  rw [hframe]
  refine ⟨⟨h.withDepth, h.trees, rfl, h.input, h.listeners, ?_⟩, hinitialized, ?_, ?_⟩
  · rw [hinitialized]
    exact hattends.surround hstore hsupply
  · rw [hstore]
    exact hcurrent
  · rw [hstore]
    exact ⟨_, _, hrunning.toWorks⟩

/-- A frame leaves a settled engine behind, whether or not it has to initialize the engine first. -/
lemma settled_frame (h : engine.Maintained upkeep) (delta : Float)
    (hrender : ∀ state info, (render state info).SparesStore) :
    (engine.frame delta render).2.Settled upkeep := by
  rw [frame]
  cases hinitialized : engine.initialized with
  | true => exact settled_runFrame h hinitialized delta hrender
  | false =>
    obtain ⟨engine', hinit, hmaintained, hinitialized'⟩ := init_eq h hinitialized
    rw [hinit]
    exact settled_runFrame hmaintained hinitialized' delta hrender

/-- A frame of a settled engine without messages and input writes nothing. -/
lemma Settled.current_frame (h : engine.Settled upkeep) (delta : Float)
    (hrender : ∀ state info, (render state info).SparesStore)
    (hinput : ∀ input ∈ engine.input?, (input delta).SparesStore)
    (hmessages : engine.inbox.take.1 = []) :
    (engine.frame delta render).2.scene.store.current = engine.scene.store.current := by
  obtain ⟨known, mark, hworks⟩ := h.works
  have hsampled : ((engine.sampleInput delta).after engine.scene).store = engine.scene.store := by
    rw [sampleInput]
    split
    next => rfl
    next input hsome =>
      rw [Act.after_bind]
      have hstore := (hinput input hsome engine.scene).1
      split <;> exact hstore
  have hprepared : (engine.prepared delta).store = engine.scene.store := by
    rw [prepared, hmessages]
    exact hsampled
  obtain ⟨state, info, frameCount, hframe⟩ := engine.runFrame_eq delta render
  rw [h.pipeline, after_tick] at hframe
  rw [frame, if_pos h.initialized, hframe]
  dsimp only
  rw [(hrender state info _).1, Upkeep.Works.current_run (hprepared.symm ▸ hworks)
    (hprepared.symm ▸ h.current) delta, hprepared]

/-! ## Engines in use -/

/-- A new engine over the standard components runs the compiling system, and nothing else. -/
lemma exists_upkeep_of_create {config : EngineConfig} {supply supply' : Supply} {app : σ}
    {engine : Engine σ} (hschema : Schema.build (standardComponents.run supply).1 = .ok schema)
    (hcreate : Engine.create config schema supply' app = .ok engine) :
    ∃ (upkeep : Upkeep) (query : Query), upkeep.schema = schema ∧
      ShaderTrees.spec.resolve upkeep.schema = .ok query ∧ upkeep.consumer = ⟨0⟩ ∧
      upkeep.trees.query = ⟨0⟩ ∧ config.shader.depthVariant = upkeep.withDepth ∧
      engine = {
        config
        scene := {
          store := .serving upkeep.schema config.store.historyDepth query
          supply := supply'
          log := []
          app }
        pipeline := ⟨[upkeep.system]⟩
        inbox := {}
        router := {}
        shaderTrees := upkeep.trees
        input? := none
        initialized := false
        frameCount := 0
        elapsed := 0 } := by
  obtain ⟨⟨trees, store⟩, htrees, hcreate⟩ := bind_eq_ok_iff.mp hcreate
  obtain ⟨⟨system, next⟩, hsystem, hcreate⟩ := bind_eq_ok_iff.mp hcreate
  obtain rfl := Except.ok.inj hcreate
  obtain ⟨query, hresolve, hquery, rfl, htree, hmaterial⟩ := ShaderTrees.create_eq htrees
  obtain ⟨upkeep, rfl, rfl, hconsumer, hwithDepth⟩ :=
    exists_upkeep (Schema.hasStandard_of_build hschema) hresolve htree hmaterial ⟨0⟩
      config.shader.depthVariant
  have hstart : upkeep.trees.system { Store.empty upkeep.schema config.store.historyDepth with
        queries := [.start query (StoreState.empty upkeep.schema)] } .standard
        config.shader.depthVariant =
      .ok ((upkeep.system : System σ),
        .serving upkeep.schema config.store.historyDepth query) := by
    rw [ShaderTrees.system, hquery, Upkeep.system, hconsumer, hwithDepth]
    rfl
  obtain ⟨rfl, rfl⟩ := Prod.mk.inj (Except.ok.inj (hstart.symm.trans hsystem))
  exact ⟨upkeep, query, rfl, hresolve, hconsumer, hquery, hwithDepth.symm, rfl⟩

lemma exists_maintained_of_create {config : EngineConfig} {supply supply' : Supply} {app : σ}
    {engine : Engine σ} (hschema : Schema.build (standardComponents.run supply).1 = .ok schema)
    (hcreate : Engine.create config schema supply' app = .ok engine) :
    ∃ upkeep : Upkeep, upkeep.schema = schema ∧ engine.Maintained upkeep := by
  obtain ⟨upkeep, query, hsame, hresolve, hconsumer, -, hwithDepth, rfl⟩ :=
    exists_upkeep_of_create hschema hcreate
  exact ⟨upkeep, hsame, {
    withDepth := hwithDepth
    trees := rfl
    pipeline := rfl
    input := fun _ hinput => by cases hinput
    listeners := fun _ hlistener => by cases hlistener
    scene := Upkeep.awaits_serving hconsumer hresolve }⟩

/-- Whatever happens to an engine in use, its store keeps track of what the system has to do. -/
lemma InUse.exists_maintained {engine : Engine σ} (h : InUse schema engine) :
    ∃ upkeep : Upkeep, upkeep.schema = schema ∧ engine.Maintained upkeep := by
  -- what happens between frames changes one part of the engine each, and the other parts keep what
  -- they had
  induction h with
  | created hschema hcreate => exact exists_maintained_of_create hschema hcreate
  | edited _ hscene ih =>
    obtain ⟨upkeep, hschema, h⟩ := ih
    exact ⟨upkeep, hschema, { h with scene := h.scene.edited hscene }⟩
  | receives _ inbox ih =>
    obtain ⟨upkeep, hschema, h⟩ := ih
    exact ⟨upkeep, hschema, { h with }⟩
  | listens _ hrouter ih =>
    obtain ⟨upkeep, hschema, h⟩ := ih
    exact ⟨upkeep, hschema, { h with listeners := hrouter }⟩
  | samples _ hinput ih =>
    obtain ⟨upkeep, hschema, h⟩ := ih
    exact ⟨upkeep, hschema, { h with input := hinput }⟩
  | framed _ delta hrender ih =>
    obtain ⟨upkeep, hschema, h⟩ := ih
    exact ⟨upkeep, hschema, (settled_frame h delta hrender).toMaintained⟩

/-- **Materials are current after every frame.**  An entity with a material name and a document that
compiles has the compile of the document for its material, and every other entity has none.  And a
frame that follows at once, without messages and input, leaves the state of the store as it is. -/
theorem materials_current {engine : Engine σ} (h : InUse schema engine) (delta : Float)
    {render : Renderer σ} (hrender : ∀ state info, (render state info).SparesStore) :
    let after := (engine.frame delta render).2
    (∀ id entity, after.scene.store.get? id = some entity →
      schema.HasCurrentMaterial after.config.shader.depthVariant entity) ∧
    ∀ (delta' : Float) (render' : Renderer σ),
      (∀ state info, (render' state info).SparesStore) →
      (∀ input ∈ after.input?, (input delta').SparesStore) → after.inbox.take.1 = [] →
      (after.frame delta' render').2.scene.store.current = after.scene.store.current := by
  obtain ⟨upkeep, rfl, hmaintained⟩ := h.exists_maintained
  have hsettled := settled_frame hmaintained delta hrender
  refine ⟨fun id entity hentity => ?_, fun delta' render' hrender' hinput hmessages => ?_⟩
  · rw [hsettled.withDepth]
    exact hsettled.current id entity hentity
  · exact hsettled.current_frame delta' hrender' hinput hmessages

/-! ## An engine to look at -/

/-- A tree that passes an attribute on. -/
def lampTree : Json :=
  .object [("nodes", .object [
    ("tint", .object [("type", .string "attribute"),
      ("properties", .object [("attribute_name", .string "shade")])]),
    ("end", .object [("type", .string "output_material"),
      ("inputs", .object [("surface", .object [("link",
        .object [("node", .string "tint"), ("socket", .string "color")])])])])])]

/-- Draws nothing. -/
def blindRenderer : Renderer Unit := fun _ _ => return .ok ()

/-- The standard schema and a new engine over it, to which the tree of a lamp was sent.  Both can
fail in principle, so there is an engine only if neither does. -/
def lampEngine? : Option (Schema × Engine Unit) :=
  (Schema.build (standardComponents.run .fresh).1).toOption.bind fun schema =>
    (Engine.create {} schema .fresh ()).toOption.map fun engine =>
      (schema, { engine with
        inbox := { arriving := ⟨[⟨.shaderTree, "lamp", lampTree⟩], true⟩ } })

theorem materials_current_lamp : ∃ (schema : Schema) (engine : Engine Unit),
    engine.InUse schema ∧
    (∃ id entity, (engine.frame 16 blindRenderer).2.scene.store.get? id = some entity ∧
      (schema.wantedShader? entity).isSome = true ∧
      schema.HasCurrentMaterial (engine.frame 16 blindRenderer).2.config.shader.depthVariant
        entity) ∧
    ((engine.frame 16 blindRenderer).2.frame 16 blindRenderer).2.scene.store.current =
      (engine.frame 16 blindRenderer).2.scene.store.current := by
  have hlamp : (lampEngine?.any fun start =>
      (start.2.frame 16 blindRenderer).2.scene.store.current.entities.keys.any (fun id =>
        ((start.2.frame 16 blindRenderer).2.scene.store.get? id).any fun entity =>
          (start.1.wantedShader? entity).isSome) &&
      (start.2.frame 16 blindRenderer).2.inbox.take.1.isEmpty &&
      (start.2.frame 16 blindRenderer).2.input?.isNone) = true := by
    decide +kernel
  obtain ⟨⟨schema, engine⟩, hstart, hlamp⟩ := (Option.any_eq_true _ _).mp hlamp
  obtain ⟨schema', hschema, hengine⟩ := Option.bind_eq_some_iff.mp hstart
  obtain ⟨start, hcreate, hsame⟩ := Option.map_eq_some_iff.mp hengine
  obtain ⟨rfl, rfl⟩ := Prod.mk.inj hsame
  have huse : InUse schema' { start with
      inbox := { arriving := ⟨[⟨.shaderTree, "lamp", lampTree⟩], true⟩ } } :=
    (InUse.created (toOption_eq_some_iff.mp hschema) (toOption_eq_some_iff.mp hcreate)).receives _
  have hblind : ∀ state info, (blindRenderer state info).SparesStore :=
    fun _ _ _ => ⟨rfl, Nat.le_refl _⟩
  obtain ⟨hcurrent, hquiet⟩ := materials_current huse 16 hblind
  rw [Bool.and_eq_true, Bool.and_eq_true] at hlamp
  obtain ⟨⟨hlit, hmessages⟩, hinput⟩ := hlamp
  obtain ⟨id, -, hid⟩ := List.any_eq_true.mp hlit
  obtain ⟨entity, hentity, hwanted⟩ := (Option.any_eq_true _ _).mp hid
  refine ⟨_, _, huse, ⟨id, entity, hentity, hwanted, hcurrent id entity hentity⟩, ?_⟩
  refine hquiet 16 blindRenderer hblind (fun input hsome => ?_) (List.isEmpty_iff.mp hmessages)
  rw [Option.isNone_iff_eq_none.mp hinput] at hsome
  cases hsome

end Engine

end SceneEngine
