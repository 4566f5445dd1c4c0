import SceneEngine.Store.Scene

/-!
# Systems

A system is the work of one frame on the members of a query: hooks for those that left, that are
new, that changed, and for every member.  A run drains the system's consumer once and works through
the agenda of the drained delta; what the hooks write is handed out by later drains.

## Order

Within a run, the hook that needs no member comes first, before the drain.  Then come the entities
that left, so that what they held can be given up before others claim it, then those that are new
and those that changed, and at last every member (`Delta.agenda`, `System.eachCalls`).  The members
are looked up after the agenda has been worked through, when the hooks may have changed them.

## Failures

A hook that fails is reported and does not keep the others from running; what it did to the scene
before it failed stays done.  A run gives the number of failures, and writes one entry to the log
for each, after all hooks have run.
-/

namespace SceneEngine

/-- One call of a hook. -/
inductive Invocation where
  /-- An entity left. -/
  | removed (entity : Entity)
  /-- An entity is new. -/
  | forNew (entity : Entity)
  /-- An entity changed. -/
  | forUpdated (updated : Updated)
  /-- For a new entity, or for a changed one with its changes. -/
  | newOrUpdated (entity : Entity) (changed? : Option ComponentSet)
  /-- Every member, in every frame. -/
  | each (entity : Entity)

namespace Invocation

/-- The name of the hook. -/
def hookName : Invocation → String
  | .removed _ => "removed"
  | .forNew _ => "for_new"
  | .forUpdated _ => "for_updated"
  | .newOrUpdated _ _ => "new_or_updated"
  | .each _ => "each"

/-- The entity that the hook is called for. -/
def entity : Invocation → Entity
  | .removed e => e
  | .forNew e => e
  | .forUpdated u => u.entity
  | .newOrUpdated e _ => e
  | .each e => e

end Invocation

/-- The calls that a delta asks for: first for what left, so that resources can be given up before
others claim them, then for what is new, then for what changed.  An entity that is both new and
changed is new or updated only once. -/
def Delta.agenda (delta : Delta) : List Invocation :=
  let new := delta.new.flatMap fun e => [.forNew e, .newOrUpdated e none]
  let updated := delta.updated.flatMap fun u =>
    if delta.new.any (·.id == u.entity.id) then [.forUpdated u]
    else [.forUpdated u, .newOrUpdated u.entity (some u.changed)]
  delta.removed.map .removed ++ new ++ updated

/-- The work of one frame on the members of a query.  Hooks get the time since the last frame in
milliseconds. -/
structure System (σ : Type) where
  /-- The name under which failures are reported. -/
  name : String
  /-- The consumer that is drained; without one only `tick` runs. -/
  consumer? : Option ConsumerId
  /-- Runs before the consumer is drained. -/
  tick? : Option (Float → Act σ Outcome) := none
  /-- Runs for entities that are new, -/
  forNew? : Option (Entity → Float → Act σ Outcome) := none
  /-- for those that changed, -/
  forUpdated? : Option (Updated → Float → Act σ Outcome) := none
  /-- once for each that is new or changed, -/
  newOrUpdated? : Option (Entity → Option ComponentSet → Float → Act σ Outcome) := none
  /-- and for those that left, with their last values. -/
  removed? : Option (Entity → Float → Act σ Outcome) := none
  /-- Runs for every member after the agenda. -/
  each? : Option (Entity → Float → Act σ Outcome) := none

namespace System

variable {σ : Type}

/-- The hook that a call goes to, if the system has it. -/
def hook? (system : System σ) (delta : Float) : Invocation → Option (Act σ Outcome)
  | .removed e => system.removed?.map fun hook => hook e delta
  | .forNew e => system.forNew?.map fun hook => hook e delta
  | .forUpdated u => system.forUpdated?.map fun hook => hook u delta
  | .newOrUpdated e changed? => system.newOrUpdated?.map fun hook => hook e changed? delta
  | .each e => system.each?.map fun hook => hook e delta

/-- Makes a call; without a hook for it nothing happens. -/
def invoke (system : System σ) (delta : Float) (call : Invocation) : Act σ Outcome :=
  match system.hook? delta call with
  | none => return .ok ()
  | some hook => hook

/-- Makes calls one after another and gives those that failed, in their order. -/
def invokeAll (system : System σ) (delta : Float) :
    List Invocation → Act σ (List (Invocation × Failure))
  | [] => return []
  | call :: calls => do
    let outcome ← system.invoke delta call
    -- the other calls are made whether this one failed or not
    let failed ← invokeAll system delta calls
    match outcome with
    | .ok () => return failed
    | .error failure => return (call, failure) :: failed

/-- Runs the hook that comes before the drain and counts its failure. -/
def runTick (system : System σ) (delta : Float) : Act σ Nat := do
  match system.tick? with
  | none => return 0
  | some hook =>
    match ← hook delta with
    | .ok () => return 0
    | .error failure =>
      Act.report [.error s!"System '{system.name}': tick hook failed: {failure.message}"]
      return 1

/-- The report about a call that failed. -/
def failureEntry (system : System σ) (failed : Invocation × Failure) : LogEntry :=
  let (call, failure) := failed
  .error (s!"System '{system.name}': {call.hookName} hook failed for entity " ++
    call.entity.id.text ++ ": " ++ failure.message)

/-- The calls for all members of the query of a consumer.  Without a hook for them the members are
not looked up. -/
def eachCalls (system : System σ) (consumer : ConsumerId) (store : Store) : List Invocation :=
  if system.each?.isNone then []
  else
    match store.queryOf consumer with
    | .ok live => (store.members live).map .each
    | .error _ => []

/-- Runs the hooks of a system once and gives the number of those that failed.  A consumer that
cannot be drained counts as one failure. -/
def run (system : System σ) (delta : Float) : Act σ Nat := do
  let failures ← system.runTick delta
  match system.consumer? with
  | none => return failures
  | some consumer =>
    match (← Act.store).drain consumer with
    | .error e =>
      Act.report [.error s!"System '{system.name}' cannot drain its consumer: {e.message}"]
      return failures + 1
    | .ok (drained, store) =>
      -- the drained store comes first, so that hooks write to the one that is kept
      Act.setStore store
      let failed ← system.invokeAll delta drained.agenda
      let failedEach ← system.invokeAll delta (system.eachCalls consumer (← Act.store))
      let all := failed ++ failedEach
      Act.report (all.map system.failureEntry)
      return failures + all.length

end System

end SceneEngine
