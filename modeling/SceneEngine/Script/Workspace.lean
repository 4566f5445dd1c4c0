import SceneEngine.Script.Names
import SceneEngine.Script.Value

/-!
# Workspaces

What a script keeps beside the scene it works on: names, drafts of entities that are not yet
registered, values to be shared, states and materials to come back to, and the record of what its
hooks saw.

The workspace is the part of a scene that belongs to the application, so actions of scripts and
hooks of scripted systems reach it in the same way.  To show an entity is such an action too,
because an entity that is shown for the first time gets a label.
-/

namespace SceneEngine.Script

/-- What a script keeps beside the scene. -/
structure Workspace where
  /-- The handles and labels. -/
  names : Names := {}
  /-- The values of entities to be registered, by handle. -/
  drafts : OrderedMap String Entity := ∅
  /-- Values that a script has given names. -/
  values : NamedValues := ∅
  /-- States of the store, kept under names. -/
  states : OrderedMap String StoreState := ∅
  /-- Materials, kept under names. -/
  materials : OrderedMap String (Shared Shading.Material) := ∅
  /-- What the hooks saw since the last report. -/
  records : List Json := []

namespace Workspace

/-- The workspace. -/
def current : Act Workspace Workspace := return (← get).app

/-- Changes the workspace. -/
def change (f : Workspace → Workspace) : Act Workspace Unit :=
  modify fun scene => { scene with app := f scene.app }

/-- Records something that happened. -/
def record (json : Json) : Act Workspace Unit :=
  change fun w => { w with records := w.records ++ [json] }

/-- Binds a handle. -/
def bind (handle : String) (id : EntityId) : Act Workspace Unit :=
  change fun w => { w with names := w.names.bind handle id }

/-- The entity of a handle. -/
def idOf (handle : String) : Act Workspace EntityId := do
  let (id, names) := (← current).names.resolve handle
  change fun w => { w with names }
  return id

/-- The label of an entity. -/
def labelOf (id : EntityId) : Act Workspace String := do
  let (label, names) := (← current).names.label id
  change fun w => { w with names }
  return label

/-- Makes a value the draft of a handle. -/
def setDraft (handle : String) (entity : Entity) : Act Workspace Unit :=
  change fun w => { w with drafts := w.drafts.insert handle entity }

/-- The draft of a handle: the one it has, or else the registered value, or else a new entity
seeded by the handle. -/
def draftOf (handle : String) : Act Workspace Entity := do
  match (← current).drafts.get? handle with
  | some entity => return entity
  | none =>
    let store ← Act.store
    match store.get? (← idOf handle) with
    | some entity => return entity
    | none =>
      let id := EntityId.ofSeed handle
      bind handle id
      return store.schema.createEntity id

/-- Reads a value; a reference gives a value that was named before. -/
def value (json : Json) : Act Workspace ComponentValue := do
  let named := (← current).values
  modifyGet fun scene =>
    let (value, supply) := (readValue named json).run scene.supply
    (value, { scene with supply })

/-! ## Showing what a scene holds -/

/-- The name of a component, or its number when the schema lacks it. -/
def componentName (schema : Schema) (c : ComponentId) : String :=
  if c.val < schema.size then schema.name c else "#" ++ toString c.val

/-- Shows the names of components. -/
def showComponents (schema : Schema) (s : ComponentSet) : Json :=
  list (fun c => .string (componentName schema c)) s.toList

/-- Shows a label. -/
def showId (id : EntityId) : Act Workspace Json := return .string (← labelOf id)

/-- Shows labels. -/
def showIds (ids : List EntityId) : Act Workspace Json := return .array (← ids.mapM showId)

/-- Shows an entity. -/
def showEntity (entity : Entity) : Act Workspace Json := do
  let schema := (← Act.store).schema
  let id ← showId entity.id
  let slots :=
    list (fun (c, v) => .array [.string (componentName schema c), showValue v]) entity.slots
  return .object [("id", id), ("c", slots)]

/-- Shows an entity or null. -/
def showEntity? (entity? : Option Entity) : Act Workspace Json :=
  match entity? with
  | some entity => showEntity entity
  | none => return .null

/-- Shows a state with those parts of its index that are not empty, so that the index can be
compared with the entities. -/
def showState (state : StoreState) : Act Workspace Json := do
  let entities ← state.entityList.mapM showEntity
  let used := state.schema.components.filter fun c => !(state.holders c).isEmpty
  let index ← used.mapM fun c => do
    return .array [.string (state.schema.name c), ← showIds (state.holders c).toList]
  return .object [("version", num state.version), ("len", num state.entities.size),
    ("empty", .bool state.entities.isEmpty), ("entities", .array entities),
    ("index", .array index)]

/-- Shows what a consumer handed out. -/
def showDelta (delta : Delta) : Act Workspace Json := do
  let schema := (← Act.store).schema
  let removed ← delta.removed.mapM showEntity
  let new ← delta.new.mapM showEntity
  let updated ← delta.updated.mapM fun u => do
    return .array [← showEntity u.entity, showComponents schema u.changed]
  return .object [("len", num delta.size), ("empty", .bool delta.isEmpty),
    ("removed", .array removed), ("new", .array new), ("updated", .array updated)]

/-- Shows the commit of an entity, with the version that it led to.  Entity and changes are shown as
they were before and after. -/
def showCommit (commit : Commit) : Act Workspace Json := do
  let store ← Act.store
  let id ← showId commit.id
  let before ← showEntity? commit.before?
  let after ← showEntity? commit.after?
  return .object [("id", id), ("before", before), ("after", after),
    ("changed", showComponents store.schema commit.changed), ("noop", .bool commit.isNoop),
    ("version", num store.current.version)]

end Workspace

end SceneEngine.Script
