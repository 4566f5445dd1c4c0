import SceneEngine.Proofs.Engine.Collecting
import SceneEngine.Proofs.Engine.Frames
import SceneEngine.Proofs.LiveLink.InboxDelivery

/-!
# The last tree of a name

An engine whose store is changed by nothing but the messages that it takes and its compiling system
(`Engine.Fed`) has, after every frame, one entity for each name under which a tree was taken, with
the tree that was taken last, and for the material of the name what this tree compiles to
(`Engine.last_tree_wins`).

## Engines that are fed by messages

`Engine.Fed` records the messages that the frames of an engine have taken, in the order in which
they were taken.  Anything may be done to the inbox in between: messages are sent, gates are made,
opened and abandoned, and what a gate holds back is taken by a later frame or by none.  Listeners,
input, renderer and further systems are any that leave the store alone (`Act.SparesStore`,
`System.LeavesStore`).

A message for a new name makes an entity under an identifier that is drawn.  That no such identifier
is in use is a condition on the frame (`Engine.FrameDrawsFresh`).  It is decidable, since which
messages make an entity can be found out by applying them one after another.

## The invariant

Between frames the scene of the engine has collected the trees of all messages that were taken
(`Upkeep.Collected`, in `Proofs/Engine/Collecting`), and the engine runs the compiling system before
all others (`Engine.Collecting`).  A frame applies its messages, which adds them to the list, and
then runs the systems, after which every entity has the material of its tree (`Upkeep.Dressed`).
The theorem is this, read off the store through the names that an application uses:
`Store.materialName?`, `Store.shaderTree?` and `Engine.material?`.
-/

namespace SceneEngine

open LiveLink (InboxCommand Message Router latestTree?)
open Shading (Material)

variable {σ : Type}

/-! ## What leaves the store alone -/

/-- A system that does not touch the store and has no consumer there.  It may still draw
identifiers, write to the log and change the state of the application. -/
structure System.LeavesStore (system : System σ) : Prop where
  consumer : system.consumer? = none
  run : ∀ delta, (system.run delta).SparesStore

lemma Act.SparesStore.bind {α β : Type} {act : Act σ α} {f : α → Act σ β}
    (hact : act.SparesStore) (hf : ∀ a, (f a).SparesStore) : Act.SparesStore (act >>= f) := by
  intro scene
  obtain ⟨hstore, hsupply⟩ := hact scene
  obtain ⟨hstore', hsupply'⟩ := hf (act.run scene).1 (act.after scene)
  exact ⟨hstore'.trans hstore, Nat.le_trans hsupply hsupply'⟩

lemma Act.sparesStore_pure {α : Type} (a : α) : Act.SparesStore (pure a : Act σ α) :=
  fun _ => ⟨rfl, Nat.le_refl _⟩

lemma Act.sparesStore_report (entries : Log) : Act.SparesStore (Act.report entries : Act σ Unit) :=
  fun _ => ⟨rfl, Nat.le_refl _⟩

lemma Pipeline.sparesStore_runAll {systems : List (System σ)} (delta : Float)
    (h : ∀ system ∈ systems, system.LeavesStore) : (runAll delta systems).SparesStore := by
  induction systems with
  | nil => exact Act.sparesStore_pure _
  | cons system systems ih =>
    rw [List.forall_mem_cons] at h
    exact (h.1.run delta).bind fun _ => (ih h.2).bind fun _ => Act.sparesStore_pure _

/-! ## Names and trees of entities -/

namespace Store

/-- The material name of an entity, if it is a text. -/
def materialName? (store : Store) (id : EntityId) : Option String :=
  (store.getComponent? id Components.materialName).bind ComponentValue.asText?

/-- The tree of an entity, if it is a document. -/
def shaderTree? (store : Store) (id : EntityId) : Option Json :=
  (store.getComponent? id Components.shaderTree).bind ComponentValue.asJson?

variable {store : Store} {upkeep : Upkeep}

lemma materialName?_eq (h : store.schema = upkeep.schema) (id : EntityId) :
    store.materialName? id = (store.get? id).bind upkeep.name? := by
  rw [materialName?, getComponent?, h, upkeep.name_eq]
  cases store.get? id <;> rfl

lemma shaderTree?_eq (h : store.schema = upkeep.schema) (id : EntityId) :
    store.shaderTree? id = (store.get? id).bind upkeep.document? := by
  rw [shaderTree?, getComponent?, h, upkeep.tree_eq]
  cases store.get? id <;> rfl

end Store

/-! ## Engines that are fed by messages -/

namespace Engine

/-- While messages are applied to a scene, no new entity gets an identifier that is in use.  Only a
tree for a name that is not there makes an entity, and its identifier is drawn after the mark of the
tree. -/
def DrawsFresh (engine : Engine σ) : List Message → Scene σ → Prop
  | [], _ => True
  | message :: messages, scene =>
    (message.kind = .shaderTree →
      scene.store.lookup engine.shaderTrees.query (.text message.name) = .ok [] →
      scene.store.get? (scene.supply.share message.data).2.draw.1 = none) ∧
    engine.DrawsFresh messages ((engine.applyMessage message).after scene)

instance decidableDrawsFresh (engine : Engine σ) :
    ∀ messages scene, Decidable (engine.DrawsFresh messages scene)
  | [], _ => isTrue trivial
  | message :: messages, scene =>
    have := decidableDrawsFresh engine messages ((engine.applyMessage message).after scene)
    inferInstanceAs (Decidable ((message.kind = .shaderTree →
      scene.store.lookup engine.shaderTrees.query (.text message.name) = .ok [] →
      scene.store.get? (scene.supply.share message.data).2.draw.1 = none) ∧
      engine.DrawsFresh messages ((engine.applyMessage message).after scene)))

/-- An engine once it is initialized.  A frame of an engine that is not initialized begins with
this. -/
def started (engine : Engine σ) : Engine σ := if engine.initialized then engine else engine.init.2

/-- The scene of a frame when the input is sampled and the messages are taken. -/
def sampled (engine : Engine σ) (delta : Float) : Scene σ :=
  (Act.report engine.inbox.take.2.2).after ((engine.sampleInput delta).after engine.scene)

/-- No new entity of a frame gets an identifier that is in use, when the messages of the inbox are
applied behind the input. -/
def FrameDrawsFresh (engine : Engine σ) (delta : Float) : Prop :=
  engine.started.DrawsFresh engine.inbox.take.1 (engine.started.sampled delta)

instance (engine : Engine σ) (delta : Float) : Decidable (engine.FrameDrawsFresh delta) :=
  inferInstanceAs (Decidable (engine.started.DrawsFresh _ _))

/-- An engine over the standard components whose store is changed by nothing but the messages that
its frames have taken, and its compiling system.  Between frames messages are sent and gates hold
them back, and it is settled who listens to messages, what samples the input, and what further
systems run. -/
inductive Fed (schema : Schema) : List Message → Engine σ → Prop
  | created {config : EngineConfig} {supply supply' : Supply} {app : σ} {engine : Engine σ}
    (hschema : Schema.build (standardComponents.run supply).1 = .ok schema)
    (hcreate : Engine.create config schema supply' app = .ok engine) : Fed schema [] engine
  | links {taken : List Message} {engine : Engine σ} (h : Fed schema taken engine)
    (command : InboxCommand) :
    Fed schema taken { engine with inbox := (engine.inbox.perform command).2 }
  | listens {taken : List Message} {engine : Engine σ} {router : Router (Act σ)}
    (h : Fed schema taken engine)
    (hrouter : ∀ listener ∈ router.listeners, ∀ message, (listener.2 message).SparesStore) :
    Fed schema taken { engine with router }
  | samples {taken : List Message} {engine : Engine σ} {input? : Option (Float → Act σ Outcome)}
    (h : Fed schema taken engine)
    (hinput : ∀ input ∈ input?, ∀ delta, (input delta).SparesStore) :
    Fed schema taken { engine with input? }
  | extended {taken : List Message} {engine : Engine σ} {systems : Pipeline σ}
    (h : Fed schema taken engine) (hsystems : ∀ system ∈ systems.systems, system.LeavesStore) :
    Fed schema taken (engine.addSystems systems)
  | initialized {taken : List Message} {engine : Engine σ} (h : Fed schema taken engine) :
    Fed schema taken engine.init.2
  | framed {taken : List Message} {engine : Engine σ} (h : Fed schema taken engine) (delta : Float)
    {render : Renderer σ} (hrender : ∀ state info, (render state info).SparesStore)
    (hfresh : engine.FrameDrawsFresh delta) :
    Fed schema (taken ++ engine.inbox.take.1) (engine.frame delta render).2

/-- What holds of an engine that is fed by messages: the compiling system runs first, nothing else
touches the store, and the scene has collected the trees of all messages that were taken. -/
structure Collecting (engine : Engine σ) (upkeep : Upkeep) (taken : List Message) : Prop where
  grants : upkeep.Grants
  withDepth : engine.config.shader.depthVariant = upkeep.withDepth
  trees : engine.shaderTrees = upkeep.trees
  pipeline : ∃ others, engine.pipeline = ⟨upkeep.system :: others⟩ ∧
    ∀ system ∈ others, system.LeavesStore
  input : ∀ input ∈ engine.input?, ∀ delta, (input delta).SparesStore
  listeners : ∀ listener ∈ engine.router.listeners, ∀ message, (listener.2 message).SparesStore
  scene : upkeep.Collected taken engine.scene

variable {engine : Engine σ} {upkeep : Upkeep} {schema : Schema} {render : Renderer σ}
  {taken messages : List Message} {scene : Scene σ}

/-! ## Frames -/

lemma sparesStore_sampleInput (h : engine.Collecting upkeep taken) (delta : Float) :
    (engine.sampleInput delta).SparesStore := by
  rw [sampleInput]
  split
  next => exact Act.sparesStore_pure _
  next input hinput =>
    refine (h.input input hinput delta).bind fun outcome => ?_
    split
    · exact Act.sparesStore_report _
    · exact Act.sparesStore_pure _

/-- A message is applied, and the listeners do not touch the store.  A message of another kind goes
to the listeners only. -/
lemma collected_applyMessage (h : engine.Collecting upkeep taken)
    (hscene : upkeep.Collected messages scene) {message : Message}
    (hfresh : message.kind = .shaderTree →
      scene.store.lookup engine.shaderTrees.query (.text message.name) = .ok [] →
      scene.store.get? (scene.supply.share message.data).2.draw.1 = none) :
    upkeep.Collected (messages ++ [message]) ((engine.applyMessage message).after scene) := by
  have hdispatch : Act.Preserves (do let _ ← engine.router.dispatch message)
      (upkeep.Collected (messages ++ [message])) :=
    (Act.preserves_dispatch message fun listener hlistener =>
      Upkeep.preserves_collected (h.listeners listener hlistener message)).bind
        fun _ => Act.preserves_pure _
  rw [applyMessage]
  split
  next hkind =>
    rw [h.trees] at hfresh ⊢
    have happlied := hscene.apply h.grants hkind (hfresh hkind)
    rw [Act.after_bind]
    split
    · exact hdispatch _ (Upkeep.preserves_collected (Act.sparesStore_report _) _ happlied)
    · exact hdispatch _ happlied
  next hkind =>
    exact hdispatch _ { hscene with toHoldsLatest := hscene.toHoldsLatest.skip hkind }

lemma collected_forM (h : engine.Collecting upkeep taken) (incoming : List Message)
    (hscene : upkeep.Collected messages scene) (hfresh : engine.DrawsFresh incoming scene) :
    upkeep.Collected (messages ++ incoming)
      ((incoming.forM engine.applyMessage).after scene) := by
  induction incoming generalizing messages scene with
  | nil => rwa [List.append_nil]
  | cons message incoming ih =>
    have hnext := ih (collected_applyMessage h hscene hfresh.1) hfresh.2
    rwa [List.append_assoc, List.singleton_append] at hnext

/-- The systems dress every entity: the compiling system does, and those behind it leave the store
alone. -/
lemma collected_tick (h : engine.Collecting upkeep taken)
    (hscene : upkeep.Collected messages scene) (delta : Float) :
    let scene' := (engine.pipeline.tick delta).after scene
    upkeep.Collected messages scene' ∧
      ∀ id entity, scene'.store.get? id = some entity → upkeep.Dressed entity := by
  obtain ⟨others, hpipeline, hothers⟩ := h.pipeline
  obtain ⟨hcollected, hdressed⟩ := hscene.run delta
  have htick : (engine.pipeline.tick delta).after scene =
      (Pipeline.runAll delta others).after ((upkeep.system.run delta).after scene) := by
    rw [hpipeline]
    rfl
  obtain ⟨hstore, hsupply⟩ := Pipeline.sparesStore_runAll delta hothers
    ((upkeep.system.run delta).after scene)
  dsimp only
  rw [htick]
  exact ⟨hcollected.surround hstore hsupply, hstore ▸ hdressed⟩

lemma collecting_runFrame (h : engine.Collecting upkeep taken) (delta : Float)
    (hrender : ∀ state info, (render state info).SparesStore)
    (hfresh : engine.DrawsFresh engine.inbox.take.1 (engine.sampled delta)) :
    let after := (engine.runFrame delta render).2
    after.Collecting upkeep (taken ++ engine.inbox.take.1) ∧
      ∀ id entity, after.scene.store.get? id = some entity → upkeep.Dressed entity := by
  -- in the order of the frame: input, messages, systems, rendering
  have hsampled : upkeep.Collected taken (engine.sampled delta) :=
    Upkeep.preserves_collected (Act.sparesStore_report _) _
      (Upkeep.preserves_collected (sparesStore_sampleInput h delta) _ h.scene)
  have hprepared : upkeep.Collected (taken ++ engine.inbox.take.1) (engine.prepared delta) :=
    collected_forM h _ hsampled hfresh
  obtain ⟨hcollected, hdressed⟩ := collected_tick h hprepared delta
  obtain ⟨state, info, frameCount, hframe⟩ := engine.runFrame_eq delta render
  obtain ⟨hstore, hsupply⟩ := hrender state info
    ((engine.pipeline.tick delta).after (engine.prepared delta))
  dsimp only
  rw [hframe]
  exact ⟨⟨h.grants, h.withDepth, h.trees, h.pipeline, h.input, h.listeners,
    hcollected.surround hstore hsupply⟩, hstore ▸ hdressed⟩

/-- Initializing an engine succeeds, and makes it compile everything.  The reset of the consumer
marks all members as new, and takes none of them away. -/
lemma exists_init (h : engine.Collecting upkeep taken) : ∃ next,
    engine.init = (.ok (), { engine with
      scene := { engine.scene with store := next }
      initialized := true }) ∧
    Collecting { engine with
      scene := { engine.scene with store := next }
      initialized := true } upkeep taken := by
  obtain ⟨others, hpipeline, hothers⟩ := h.pipeline
  obtain ⟨next, hreset, hcollected⟩ := h.scene.reset
  -- the compiling system is the only one with a consumer to reset
  have hnone : others.filterMap System.consumer? = [] :=
    List.filterMap_eq_nil_iff.mpr fun system hsystem => (hothers system hsystem).consumer
  have hconsumers : engine.pipeline.systems.filterMap System.consumer? = [upkeep.consumer] := by
    rw [hpipeline]
    change (upkeep.system :: others).filterMap System.consumer? = _
    rw [List.filterMap_cons, hnone]
    rfl
  exact ⟨next, init_of_reset hconsumers hreset, ⟨h.grants, h.withDepth, h.trees,
    ⟨others, hpipeline, hothers⟩, h.input, h.listeners, hcollected⟩⟩

/-- A frame is a frame of the engine once it is initialized. -/
lemma collecting_frame (h : engine.Collecting upkeep taken) (delta : Float)
    (hrender : ∀ state info, (render state info).SparesStore)
    (hfresh : engine.FrameDrawsFresh delta) :
    let after := (engine.frame delta render).2
    after.Collecting upkeep (taken ++ engine.inbox.take.1) ∧
      ∀ id entity, after.scene.store.get? id = some entity → upkeep.Dressed entity := by
  rw [FrameDrawsFresh, started] at hfresh
  rw [frame]
  cases hinitialized : engine.initialized with
  | true =>
    rw [hinitialized] at hfresh
    exact collecting_runFrame h delta hrender hfresh
  | false =>
    obtain ⟨next, hinit, hcollecting⟩ := exists_init h
    rw [hinitialized, hinit] at hfresh
    rw [hinit]
    exact collecting_runFrame hcollecting delta hrender hfresh

/-! ## All runs -/

/-- Whatever happens to an engine that is fed by messages, its store collects their trees. -/
lemma Fed.exists_collecting (h : Fed schema taken engine) :
    ∃ upkeep : Upkeep, upkeep.schema = schema ∧ engine.Collecting upkeep taken := by
  -- each step between frames changes one part of the engine, and the parts about the store stay
  induction h with
  | created hschema hcreate =>
    obtain ⟨upkeep, query, rfl, hresolve, hconsumer, hquery, hwithDepth, rfl⟩ :=
      exists_upkeep_of_create hschema hcreate
    exact ⟨upkeep, rfl, {
      grants := Upkeep.grants_of_standard hschema
      withDepth := hwithDepth
      trees := rfl
      pipeline := ⟨[], rfl, nofun⟩
      input := nofun
      listeners := nofun
      scene := Upkeep.collected_serving hconsumer hquery hresolve }⟩
  | links _ command ih =>
    obtain ⟨upkeep, hschema, h⟩ := ih
    exact ⟨upkeep, hschema, { h with }⟩
  | listens _ hrouter ih =>
    obtain ⟨upkeep, hschema, h⟩ := ih
    exact ⟨upkeep, hschema, { h with listeners := hrouter }⟩
  | samples _ hinput ih =>
    obtain ⟨upkeep, hschema, h⟩ := ih
    exact ⟨upkeep, hschema, { h with input := hinput }⟩
  | @extended _ engine systems _ hsystems ih =>
    obtain ⟨upkeep, hschema, h⟩ := ih
    obtain ⟨others, hpipeline, hothers⟩ := h.pipeline
    refine ⟨upkeep, hschema, { h with pipeline := ⟨others ++ systems.systems, ?_, ?_⟩ }⟩
    · rw [addSystems, hpipeline]
      rfl
    · exact List.forall_mem_append.mpr ⟨hothers, hsystems⟩
  | initialized _ ih =>
    obtain ⟨upkeep, hschema, h⟩ := ih
    obtain ⟨next, hinit, hcollecting⟩ := exists_init h
    exact ⟨upkeep, hschema, hinit ▸ hcollecting⟩
  | framed _ delta hrender hfresh ih =>
    obtain ⟨upkeep, hschema, h⟩ := ih
    exact ⟨upkeep, hschema, (collecting_frame h delta hrender hfresh).1⟩

/-- **The last tree wins.**  After every frame, every registered entity has a name under which a
tree was taken, and the tree that was taken last under it; each such name is the name of exactly one
entity; and the material of a name is what this tree compiles to, if there is one and it compiles.
-/
theorem last_tree_wins (h : Fed schema taken engine) (delta : Float)
    (hrender : ∀ state info, (render state info).SparesStore)
    (hfresh : engine.FrameDrawsFresh delta) :
    let after := (engine.frame delta render).2
    let messages := taken ++ engine.inbox.take.1
    (∀ id entity, after.scene.store.get? id = some entity → ∃ name tree,
      after.scene.store.materialName? id = some name ∧
        after.scene.store.shaderTree? id = some tree ∧ latestTree? messages name = some tree) ∧
    (∀ name tree, latestTree? messages name = some tree →
      ∃! id, after.scene.store.materialName? id = some name) ∧
    ∀ name, (after.material? name).map Shared.content =
      (latestTree? messages name).bind fun tree =>
        (Material.compile .standard name tree after.config.shader.depthVariant).toOption := by
  obtain ⟨upkeep, -, hcollecting⟩ := h.exists_collecting
  obtain ⟨hafter, hdressed⟩ := collecting_frame hcollecting delta hrender hfresh
  dsimp only
  generalize (engine.frame delta render).2 = after at hafter hdressed ⊢
  have hschema : after.scene.store.schema = upkeep.schema := hafter.scene.current.1
  refine ⟨fun id entity hentity => ?_, fun name tree hlatest => ?_, fun name => ?_⟩
  · obtain ⟨name, tree, hname, hdocument, hlatest⟩ := hafter.scene.sent id entity hentity
    refine ⟨name, tree, ?_, ?_, hlatest⟩
    · rw [Store.materialName?_eq hschema, hentity]
      exact hname
    · rw [Store.shaderTree?_eq hschema, hentity]
      exact hdocument
  · obtain ⟨id, entity, hentity, hname⟩ := hafter.scene.found name tree hlatest
    refine ⟨id, ?_, fun id' hname' => ?_⟩
    · dsimp only
      rw [Store.materialName?_eq hschema, hentity]
      exact hname
    · dsimp only at hname'
      rw [Store.materialName?_eq hschema] at hname'
      obtain ⟨entity', hentity', hname'⟩ := Option.bind_eq_some_iff.mp hname'
      exact hafter.scene.unique id' id entity' entity hentity' hentity (hname'.trans hname.symm)
  · rw [material?, hafter.trees, hafter.withDepth]
    exact hafter.scene.material?_eq hdressed name

/-! ## An engine to look at -/

/-- Two trees for one material.  The first one is no tree at all, so that only the second one can
make the material. -/
def lampMessages : List Message :=
  [⟨.shaderTree, "lamp", .null⟩, ⟨.shaderTree, "lamp", lampTree⟩]

/-- The standard schema and a new engine over it, to which both were sent. -/
def correctedEngine? : Option (Schema × Engine Unit) :=
  (Schema.build (standardComponents.run .fresh).1).toOption.bind fun schema =>
    (Engine.create {} schema .fresh ()).toOption.map fun engine =>
      (schema, { engine with
        inbox := ((engine.inbox.perform (.send ⟨.shaderTree, "lamp", .null⟩)).2.perform
          (.send ⟨.shaderTree, "lamp", lampTree⟩)).2 })

/-- Both trees are taken in one frame, and the lamp has the material of the second one. -/
theorem last_tree_wins_lamp : ∃ (schema : Schema) (engine : Engine Unit), Fed schema [] engine ∧
    engine.FrameDrawsFresh 16 ∧ engine.inbox.take.1 = lampMessages ∧
    let after := (engine.frame 16 blindRenderer).2
    (∃! id, after.scene.store.materialName? id = some "lamp") ∧
      (after.material? "lamp").isSome = true ∧
      (after.material? "lamp").map Shared.content =
        (Material.compile .standard "lamp" lampTree
          after.config.shader.depthVariant).toOption := by
  have hlamp : (correctedEngine?.any fun start =>
      decide (start.2.FrameDrawsFresh 16) &&
        ((start.2.frame 16 blindRenderer).2.material? "lamp").isSome) = true := by
    decide +kernel
  obtain ⟨⟨schema, engine⟩, hstart, hlamp⟩ := (Option.any_eq_true _ _).mp hlamp
  obtain ⟨schema', hschema, hengine⟩ := Option.bind_eq_some_iff.mp hstart
  obtain ⟨start, hcreate, hsame⟩ := Option.map_eq_some_iff.mp hengine
  obtain ⟨rfl, rfl⟩ := Prod.mk.inj hsame
  rw [Bool.and_eq_true, decide_eq_true_iff] at hlamp
  obtain ⟨hfresh, hlit⟩ := hlamp
  have hfed : Fed schema' [] start :=
    .created (toOption_eq_some_iff.mp hschema) (toOption_eq_some_iff.mp hcreate)
  have hinbox : start.inbox = {} := by
    obtain ⟨-, -, -, -, -, -, -, rfl⟩ := exists_upkeep_of_create
      (toOption_eq_some_iff.mp hschema) (toOption_eq_some_iff.mp hcreate)
    rfl
  have htaken : ((start.inbox.perform (.send ⟨.shaderTree, "lamp", .null⟩)).2.perform
      (.send ⟨.shaderTree, "lamp", lampTree⟩)).2.take.1 = lampMessages := by
    rw [hinbox]
    rfl
  have hlatest : latestTree? lampMessages "lamp" = some lampTree := rfl
  have hfed' := (hfed.links (.send ⟨.shaderTree, "lamp", .null⟩)).links
    (.send ⟨.shaderTree, "lamp", lampTree⟩)
  have hblind : ∀ state info, (blindRenderer state info).SparesStore :=
    fun _ _ _ => ⟨rfl, Nat.le_refl _⟩
  obtain ⟨-, honly, hmaterial⟩ := last_tree_wins hfed' 16 hblind hfresh
  dsimp only at honly hmaterial
  rw [htaken, List.nil_append] at honly hmaterial
  refine ⟨schema', _, hfed', hfresh, htaken, honly "lamp" lampTree hlatest, hlit, ?_⟩
  rw [hmaterial, hlatest, Option.bind_some]

end Engine

end SceneEngine
