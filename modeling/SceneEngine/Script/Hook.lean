import SceneEngine.Script.Workspace
import SceneEngine.Store.Pipeline

/-!
# Scripted hooks

A script can put systems together whose hooks are lists of actions.  Every call of such a hook is
recorded with what it was given and what its actions showed.

This way a script sees what the store tells its systems: which entities, in which order, with which
changes.  The hooks may also write to the store while they are called, and they may fail on purpose,
for certain entities only if they like (`HookAction.onlyFor?`).  What an action does is not decided
here; it is any action on the scene that shows something in the end.
-/

namespace SceneEngine.Script

/-- What an action came to. -/
structure Reply where
  /-- What the action showed, refused or not. -/
  shown : Json
  /-- Why the action was refused, if it was. -/
  refusal? : Option Failure := none

/-- What is to be done by a hook. -/
inductive Deed where
  /-- The hook fails. -/
  | fail (failure : Failure)
  /-- An action; if it is required, its refusal makes the hook fail. -/
  | act (work : Act Workspace Reply) (required : Bool)

/-- An action of a hook. -/
structure HookAction where
  /-- The label of the only entity for which the action is meant. -/
  onlyFor? : Option String
  /-- What is to be done. -/
  deed : Deed

/-- The handle of the entity that a hook is called for. -/
def subjectHandle : String := "$e"

namespace Workspace

/-- Whether an action is meant for the entity of a hook.  One that is meant for a certain entity
does nothing in a hook without entities. -/
def concerns (action : HookAction) (entity? : Option Entity) : Act Workspace Bool :=
  match action.onlyFor?, entity? with
  | none, _ => return true
  | some label, some entity => return (← labelOf entity.id) == label
  | some _, none => return false

/-- Runs actions up to the first that makes the hook fail, and gives what they showed. -/
def perform (entity? : Option Entity) : List HookAction → Act Workspace (List Json × Outcome)
  | [] => return ([], .ok ())
  | action :: actions => do
    if !(← concerns action entity?) then perform entity? actions
    else
      match action.deed with
      | .fail failure => return ([], .error failure)
      | .act work required =>
        let reply ← work
        match reply.refusal?, required with
        | some refusal, true => return ([reply.shown], .error refusal)
        | _, _ =>
          let (shown, outcome) ← perform entity? actions
          return (reply.shown :: shown, outcome)

/-- A hook of actions.  The entity it is called for becomes known under the subject's handle. -/
def hook (system name : String) (actions : List HookAction) (entity? : Option Entity)
    (changed? : Option ComponentSet) (delta : Float) : Act Workspace Outcome := do
  let schema := (← Act.store).schema
  let subject? ← entity?.mapM showEntity
  if let some entity := entity? then
    bind subjectHandle entity.id
    setDraft subjectHandle entity
  let (shown, outcome) ← perform entity? actions
  let call := [("system", .string system), ("hook", .string name), ("dt", bits64 delta)]
  let subject := (subject?.map fun shown => ("entity", shown)).toList
  let changed := (changed?.map fun s => ("changed", showComponents schema s)).toList
  let results := if shown.isEmpty then [] else [("results", .array shown)]
  record (.object (call ++ subject ++ changed ++ results))
  return outcome

/-- A system of scripted hooks; `actions?` gives the actions of the hooks that it has.  A hook
without actions is there all the same and is recorded. -/
def system (name : String) (consumer? : Option ConsumerId)
    (actions? : String → Option (List HookAction)) : System Workspace where
  name
  consumer?
  tick? := (actions? "tick").map fun actions => hook name "tick" actions none none
  forNew? := (actions? "for_new").map fun actions e => hook name "for_new" actions (some e) none
  forUpdated? := (actions? "for_updated").map fun actions u =>
    hook name "for_updated" actions (some u.entity) (some u.changed)
  newOrUpdated? := (actions? "new_or_updated").map fun actions e changed? =>
    hook name "new_or_updated" actions (some e) changed?
  removed? := (actions? "removed").map fun actions e => hook name "removed" actions (some e) none
  each? := (actions? "each").map fun actions e => hook name "each" actions (some e) none

/-! ## Reports -/

mutual

/-- Writes labels for the identifiers in the messages of errors, wherever they stand in what is
shown. -/
def annotateErrors (names : Names) : Json → Json
  | .array shown => .array (annotateItems names shown)
  | .object [("error", kind), ("message", .string message)] =>
    .object [("error", kind), ("message", .string (names.annotate message))]
  | .object fields => .object (annotateFields names fields)
  | other => other

/-- Writes labels for the identifiers in the messages of errors in a list. -/
def annotateItems (names : Names) : List Json → List Json
  | [] => []
  | shown :: rest => annotateErrors names shown :: annotateItems names rest

/-- Writes labels for the identifiers in the messages of errors in a record. -/
def annotateFields (names : Names) : List (String × Json) → List (String × Json)
  | [] => []
  | (key, shown) :: rest => (key, annotateErrors names shown) :: annotateFields names rest

end

/-- Ends a step of a script: every registered entity gets a label, and what was recorded and
logged is given out once. -/
def report : Act Workspace (Names × List Json × Log) := do
  for entity in (← Act.store).current.entityList do
    let _ ← labelOf entity.id
  let scene ← get
  set { scene with log := [], app := { scene.app with records := [] } }
  return (scene.app.names, scene.app.records, scene.log)

end Workspace

end SceneEngine.Script
