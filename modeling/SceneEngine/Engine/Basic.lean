import SceneEngine.Config
import SceneEngine.Engine.ShaderTrees
import SceneEngine.LiveLink.Inbox
import SceneEngine.LiveLink.Router
import SceneEngine.Store.Pipeline

/-!
# The engine

The engine runs frames.  A frame samples the input, applies the messages that arrived since the last
one, runs the systems and has the result rendered, in this order; messages are never applied while
systems run.

Little of what can go wrong ends a frame.  Input that cannot be sampled and trees that cannot be
stored are reported to the log, and the frame goes on; hooks that fail are counted in the report of
the tick.  Only two things leave a frame unfinished, and `FrameError` has them: systems that could
not be made ready for the first frame, and a result that could not be drawn.

The application keeps whatever it likes in the scene, of a type `σ` that the engine does not look
at.  Input, listeners, systems and the renderer are its actions on the scene.
-/

namespace SceneEngine

open LiveLink (Inbox Message Router)
open Shading (FrameInfo Material ShaderCompiler)

/-- What a frame did, for whoever asked for it. -/
structure FrameStats where
  /-- The number of frames before this one. -/
  frame : UInt64
  /-- The number of messages that were applied. -/
  messages : Nat
  /-- How many systems ran, and how many of their hooks failed. -/
  tick : TickReport

/-- Why a frame was not finished. -/
inductive FrameError where
  /-- A system could not be told what is new. -/
  | store (error : StoreError)
  /-- The result could not be drawn. -/
  | rendering (failure : Failure)

/-- Draws a state of the store. -/
abbrev Renderer (σ : Type) := StoreState → FrameInfo → Act σ Outcome

/-- The scene, the systems that work on it, and the link to the authoring tool.  The system that
compiles shader trees is among the systems from the beginning. -/
structure Engine (σ : Type) where
  /-- What the engine was told before it started. -/
  config : EngineConfig
  scene : Scene σ
  /-- The systems in the order in which they run. -/
  pipeline : Pipeline σ
  /-- Where messages arrive. -/
  inbox : Inbox
  /-- Who listens for messages. -/
  router : Router (Act σ)
  shaderTrees : ShaderTrees
  /-- Samples the input at the beginning of a frame. -/
  input? : Option (Float → Act σ Outcome)
  /-- Whether the systems were made ready for the first frame. -/
  initialized : Bool
  /-- The number of frames so far. -/
  frameCount : UInt64
  /-- The time of all frames so far, in milliseconds. -/
  elapsed : Float

namespace Engine

variable {σ : Type}

/-- An engine over a schema, which must have the standard components. -/
def create (config : EngineConfig) (schema : Schema) (supply : Supply) (app : σ) :
    Except StoreError (Engine σ) := do
  let (shaderTrees, store) ← ShaderTrees.create (.empty schema config.store.historyDepth)
  let (system, store) ← shaderTrees.system store .standard config.shader.depthVariant
  return {
    config
    scene := { store, supply, log := [], app }
    pipeline := ⟨[system]⟩
    inbox := {}
    router := {}
    shaderTrees
    input? := none
    initialized := false
    frameCount := 0
    elapsed := 0 }

/-- Does something to the scene; the rest of the engine stays as it is. -/
def perform {α : Type} (engine : Engine σ) (act : Act σ α) : α × Engine σ :=
  let (result, scene) := act.run engine.scene
  (result, { engine with scene })

/-- Does something to the scene that has no result. -/
def doing (engine : Engine σ) (act : Act σ Unit) : Engine σ := (engine.perform act).2

/-- Appends systems behind those that are there; they run in this order in every frame. -/
def addSystems (engine : Engine σ) (systems : Pipeline σ) : Engine σ :=
  { engine with pipeline := engine.pipeline.append systems }

/-- The compiled material of a name, if an entity of the name has one. -/
def material? (engine : Engine σ) (name : String) : Option (Shared Material) :=
  engine.shaderTrees.material? engine.scene.store name

/-- A component of an entity that is a vector; zero if it is none. -/
def vectorOf (store : Store) (id : EntityId) (name : String) : Vec 3 :=
  ((store.getComponent? id name).bind ComponentValue.asVec3?).getD Vec.zero

/-- What is known about the current frame; the camera is the entity that has its mark. -/
def frameInfo (engine : Engine σ) : FrameInfo :=
  let store := engine.scene.store
  let info : FrameInfo := { time := engine.elapsed / 1000.0, frame := engine.frameCount }
  match store.singletonHolder? Components.camera with
  | none => info
  | some camera =>
    { info with
      cameraPosition := vectorOf store camera.id Components.position
      cameraDirection := vectorOf store camera.id Components.direction }

/-! ## Frames -/

/-- Makes all entities new to the systems.  The first frame does it by itself, and tries again in
the next frame if it fails. -/
def init (engine : Engine σ) : Except StoreError Unit × Engine σ :=
  let (outcome, engine) := engine.perform engine.pipeline.init
  match outcome with
  | .ok () => (.ok (), { engine with initialized := true })
  | .error e => (.error e, engine)

/-- Samples the input.  A failure is reported, and the frame goes on with what there is. -/
def sampleInput (engine : Engine σ) (delta : Float) : Act σ Unit :=
  match engine.input? with
  | none => return ()
  | some input => do
    if let .error failure ← input delta then
      Act.report [.error s!"Input sampling failed: {failure.message}"]

/-- Applies a message and hands it to the listeners.  They get it even if its tree could not be
stored. -/
def applyMessage (engine : Engine σ) (message : Message) : Act σ Unit := do
  if message.kind = .shaderTree then
    if let .error e ← engine.shaderTrees.apply message.name message.data then
      Act.report
        [.error s!"Cannot store node tree of material '{message.name}': {e.message}"]
  let _ ← engine.router.dispatch message

/-- Takes the messages that are ready and applies them in the order of their arrival; gives their
number. -/
def applyMessages (engine : Engine σ) : Nat × Engine σ :=
  let (messages, inbox, log) := engine.inbox.take
  let engine := { engine with inbox }
  let engine := engine.doing (Act.report log)
  (messages.length, engine.doing (messages.forM engine.applyMessage))

/-- Runs a frame of an engine that is initialized.  When rendering fails the time has passed, but
the frame does not count, so that the next frame has the same number. -/
def runFrame (engine : Engine σ) (delta : Float) (render : Renderer σ) :
    Except FrameError FrameStats × Engine σ :=
  let engine := engine.doing (engine.sampleInput delta)
  let (messages, engine) := engine.applyMessages
  let (tick, engine) := engine.perform (engine.pipeline.tick delta)
  let engine := { engine with elapsed := engine.elapsed + delta }
  let (outcome, engine) := engine.perform (render engine.scene.store.current engine.frameInfo)
  match outcome with
  | .error failure => (.error (.rendering failure), engine)
  | .ok () =>
    (.ok { frame := engine.frameCount, messages, tick },
      { engine with frameCount := engine.frameCount + 1 })

/-- Runs a frame; `delta` is the time since the last one in milliseconds. -/
def frame (engine : Engine σ) (delta : Float) (render : Renderer σ) :
    Except FrameError FrameStats × Engine σ :=
  if engine.initialized then engine.runFrame delta render
  else
    match engine.init with
    | (.ok (), engine) => engine.runFrame delta render
    | (.error e, engine) => (.error (.store e), engine)

/-- Describes an engine by its counts. -/
def describe (engine : Engine σ) : String :=
  let frames := toString engine.frameCount
  let systems := toString engine.pipeline.systems.length
  let entities := toString engine.scene.store.current.entities.size
  "Engine \x7b frame: " ++ frames ++ ", systems: " ++ systems ++ ", entities: " ++ entities ++
    ", .. \x7d"

end Engine

end SceneEngine
