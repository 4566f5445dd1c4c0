import SceneEngine.Store.System

/-!
# Pipelines

Systems that run one after another, once a frame; a later one sees what the earlier ones wrote.  The
order is that in which they were added, and it matters: a system that computes what another one
shows has to come before it, or the picture is a frame late.

A pipeline does not stop for failures.  Its report counts them over all systems, and each is in the
log.
-/

namespace SceneEngine

/-- Systems in the order in which they run. -/
structure Pipeline (σ : Type) where
  /-- The systems, first to last. -/
  systems : List (System σ)

/-- What a frame's run of a pipeline did. -/
structure TickReport where
  /-- The number of systems that ran. -/
  systems : Nat
  /-- The number of hooks that failed. -/
  failures : Nat
  deriving DecidableEq

namespace Pipeline

variable {σ : Type}

/-- The pipeline without systems. -/
def empty : Pipeline σ := ⟨[]⟩

/-- Appends a system. -/
def push (pipeline : Pipeline σ) (system : System σ) : Pipeline σ :=
  ⟨pipeline.systems ++ [system]⟩

/-- Appends the systems of another pipeline. -/
def append (pipeline other : Pipeline σ) : Pipeline σ := ⟨pipeline.systems ++ other.systems⟩

/-- Resets consumers one after another, up to the first handle that is unknown.  Those before it
stay reset. -/
def resetAll : List ConsumerId → Store → Except StoreError Unit × Store
  | [], store => (.ok (), store)
  | consumer :: consumers, store =>
    match store.resetConsumer consumer with
    | .ok store => resetAll consumers store
    | .error e => (.error e, store)

/-- Makes all members of their queries new to the systems, as before a first frame. -/
def init (pipeline : Pipeline σ) : Act σ (Except StoreError Unit) := do
  let (outcome, store) := resetAll (pipeline.systems.filterMap System.consumer?) (← Act.store)
  Act.setStore store
  return outcome

/-- Runs all systems and gives the number of hooks that failed. -/
def runAll (delta : Float) : List (System σ) → Act σ Nat
  | [] => return 0
  | system :: systems => do
    let failures ← system.run delta
    return failures + (← runAll delta systems)

/-- Runs all systems. -/
def tick (pipeline : Pipeline σ) (delta : Float) : Act σ TickReport := do
  return ⟨pipeline.systems.length, ← runAll delta pipeline.systems⟩

end Pipeline

end SceneEngine
