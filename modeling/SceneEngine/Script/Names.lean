import SceneEngine.Identity.EntityId
import SceneEngine.Ordered.Map

/-!
# Names of entities in scripts

A script calls entities by handles, and the engine shows each entity under one label.  A handle can
be bound anew at any time; a label, once given, stays.  The first handle bound to an entity is its
label, and an entity that is shown before it has a handle gets a numbered one.

Labels make answers comparable: identifiers that were drawn differ from run to run, labels do not.
So identifiers are never shown, not even within the messages of errors (`annotate`).
-/

namespace SceneEngine.Script

/-- The handles and labels of a script. -/
structure Names where
  /-- The entity of each handle. -/
  handles : OrderedMap String EntityId := ∅
  /-- The label of each entity, in the order in which they were given. -/
  labels : OrderedMap EntityId String := ∅
  /-- The number of the next entity that has no handle. -/
  nextNumber : Nat := 0

namespace Names

/-- Whether a handle is a placeholder, which never becomes a label. -/
def isPlaceholder (handle : String) : Bool := handle.toList.head? == some '$'

/-- Binds a handle.  It becomes the label of an entity that has none, unless it is a placeholder. -/
def bind (names : Names) (handle : String) (id : EntityId) : Names :=
  let labels :=
    if isPlaceholder handle then names.labels else names.labels.insertIfNew id handle
  { names with handles := names.handles.insert handle id, labels }

/-- The entity of a handle.  A handle that is not bound stands for the entity seeded by it, and is
bound by being used. -/
def resolve (names : Names) (handle : String) : EntityId × Names :=
  match names.handles.get? handle with
  | some id => (id, names)
  | none => (.ofSeed handle, names.bind handle (.ofSeed handle))

/-- The label of an entity.  One that has none gets a numbered one, which is a handle as well from
now on. -/
def label (names : Names) (id : EntityId) : String × Names :=
  match names.labels.get? id with
  | some label => (label, names)
  | none =>
    let label := "r" ++ toString names.nextNumber
    (label, { names with nextNumber := names.nextNumber + 1 }.bind label id)

/-- Writes labels for the identifiers in a text. -/
def annotate (names : Names) (s : String) : String :=
  names.labels.entries.foldl (fun s (id, label) => s.replace id.text ("<" ++ label ++ ">")) s

end Names

end SceneEngine.Script
