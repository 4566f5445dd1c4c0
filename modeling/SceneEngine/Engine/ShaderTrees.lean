import SceneEngine.Engine.Components
import SceneEngine.Store.System

/-!
# Shader trees

The entities that have a material name and a node tree, and the system that compiles them.  An
entity is compiled when it comes to have both and whenever its tree changes; a new name alone
compiles nothing.  A compile that fails is reported and takes the old material away, but the tree
stays, so that the next change of it is compiled again.

The system looks only at its own query.  An entity that leaves it, because its name or its tree is
taken away, loses its material as well; one that is deregistered has nothing to lose.  That a
material was written is a change of another component, and leads to no further compile.

Trees also come from outside, under the name of a material.  They are stored with the entities that
the query lists under this name, and an entity is made for them when there is none.  They are
compiled in the same way, by the system, when its turn comes.
-/

namespace SceneEngine

open Shading (Material ShaderCompiler)

/-- The live query for entities with a material name and a tree, grouped by the name. -/
structure ShaderTrees where
  /-- The query itself, for looking names up. -/
  query : QueryId
  /-- The component with the tree. -/
  tree : ComponentId
  /-- The component with the compiled material. -/
  material : ComponentId

namespace ShaderTrees

/-- The query of shader trees: both components are required, and the name is the key. -/
def spec : QuerySpec where
  includes := [Components.materialName, Components.shaderTree]
  keyedBy? := some Components.materialName

/-- Makes the query live and looks the two components up. -/
def create (store : Store) : Except StoreError (ShaderTrees × Store) := do
  let (query, store) ← store.createQuery spec
  let tree ← store.componentId Components.shaderTree
  let material ← store.componentId Components.material
  return ({ query, tree, material }, store)

variable {σ : Type}

/-! ## Compiling -/

/-- Registers the value of an entity.  A refusal of the store is a failure of the action. -/
def put (entity : Entity) : Act σ Outcome := do
  match (← Act.store).register entity with
  | .ok (store, _) =>
    Act.setStore store
    return .ok ()
  | .error e => return .error (.ofStore e)

/-- Takes the material of an entity away, if it is registered and has one. -/
def dropMaterial (trees : ShaderTrees) (id : EntityId) : Act σ Outcome := do
  match (← Act.store).get? id with
  | none => return .ok ()
  | some entity =>
    if entity.has trees.material then put (entity.erase trees.material) else return .ok ()

/-- Takes the material of an entity away and fails, for the given reason unless the store refuses
even that. -/
def giveUp (trees : ShaderTrees) (id : EntityId) (failure : Failure) : Act σ Outcome := do
  match ← trees.dropMaterial id with
  | .ok () => return .error failure
  | .error e => return .error e

/-- The name under which an entity is compiled; empty if it has none. -/
def nameOf (store : Store) (id : EntityId) : String :=
  ((store.getComponent? id Components.materialName).bind ComponentValue.asText?).getD ""

/-- Compiles the tree of an entity and writes its material.  An entity that is gone in the meantime
is no failure. -/
def compile (trees : ShaderTrees) (compiler : ShaderCompiler) (withDepth : Bool) (id : EntityId) :
    Act σ Outcome := do
  let store ← Act.store
  let name := nameOf store id
  match store.get? id with
  | none => return .ok ()
  | some current =>
    match (current.get? trees.tree).bind ComponentValue.asJson? with
    | none => trees.giveUp id ⟨[s!"material '{name}' has no node tree document"]⟩
    | some tree =>
      match Material.compile compiler name tree withDepth with
      | .error e => trees.giveUp id ⟨[s!"material '{name}' failed to compile", e.message]⟩
      | .ok material =>
        put (current.set trees.material (.resource (← Act.share (.material material))))

/-- The name of the compiling system. -/
def systemName : String := "shader_trees"

/-- The system that compiles, with a consumer of its own.  A new entity comes without a list of
changes and is always compiled. -/
def system (trees : ShaderTrees) (store : Store) (compiler : ShaderCompiler) (withDepth : Bool) :
    Except StoreError (System σ × Store) := do
  let (consumer, store) ← store.createConsumer trees.query
  let system : System σ :=
    { name := systemName
      consumer? := some consumer
      newOrUpdated? := some fun entity changed? _ =>
        if changed?.any (!·.contains trees.tree) then return .ok ()
        else trees.compile compiler withDepth entity.id
      removed? := some fun entity _ => trees.dropMaterial entity.id }
  return (system, store)

/-! ## Trees from outside -/

/-- Gives registered entities a tree, up to the first that is refused.  Those before it keep the new
tree. -/
def replaceTrees (trees : ShaderTrees) (tree : ComponentValue) :
    List EntityId → Act σ (Except StoreError Unit)
  | [] => return .ok ()
  | id :: ids => do
    let store ← Act.store
    match store.get? id with
    | none => replaceTrees trees tree ids
    | some entity =>
      match store.register (entity.set trees.tree tree) with
      | .error e => return .error e
      | .ok (store, _) =>
        Act.setStore store
        replaceTrees trees tree ids

/-- Stores a tree for the material `name`.  Every entity that the query lists under the name gets
it; if there is none, a new one is made.  The tree is shared, so that it is the same for all. -/
def apply (trees : ShaderTrees) (name : String) (tree : Json) :
    Act σ (Except StoreError (List EntityId)) := do
  let tree := ComponentValue.json (← Act.share tree)
  match (← Act.store).lookup trees.query (.text name) with
  | .error e => return .error e
  | .ok [] => do
    let id ← Act.drawId
    let named := ComponentValue.text (← Act.share name)
    match (← Act.store).quickEntity id
        [(Components.materialName, named), (Components.shaderTree, tree)] with
    | .error e => return .error e
    | .ok store =>
      Act.setStore store
      return .ok [id]
  | .ok ids =>
    match ← trees.replaceTrees tree ids with
    | .ok () => return .ok ids
    | .error e => return .error e

/-- The material of the first entity of a name that has one.  Entities of the name whose compile
failed are passed over. -/
def material? (trees : ShaderTrees) (store : Store) (name : String) : Option (Shared Material) :=
  match store.lookup trees.query (.text name) with
  | .error _ => none
  | .ok ids => ids.findSome? fun id => do (← (← store.get? id).get? trees.material).asMaterial?

end ShaderTrees

end SceneEngine
