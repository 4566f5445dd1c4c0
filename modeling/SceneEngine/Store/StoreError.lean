import SceneEngine.Identity.EntityId
import SceneEngine.Store.ComponentSet

/-!
# Store errors

Why an operation on a store is refused.  An error names what was asked for in the terms of the
caller: components by their names, entities by their identifiers, and handles by what they stand
for, since the handle itself says nothing to a reader.
-/

namespace SceneEngine

/-- Why a query cannot be built. -/
inductive QueryError where
  /-- A name that the schema does not declare. -/
  | unknownComponent (name : String)
  /-- A component is both included and excluded. -/
  | overlap (name : String)
  deriving DecidableEq

/-- What a handle stands for. -/
inductive HandleKind where
  /-- A live query, -/
  | query
  /-- or a consumer of one. -/
  | consumer
  deriving DecidableEq

/-- Why an operation on a store is refused. -/
inductive StoreError where
  /-- A name that the schema does not declare. -/
  | unknownComponent (name : String)
  /-- An entity has a component that the store's schema does not declare. -/
  | foreignComponent (entity : EntityId) (component : ComponentId)
  /-- The operation needs an entity that is registered. -/
  | unknownEntity (entity : EntityId)
  /-- The operation needs a component that the entity has. -/
  | missingComponent (entity : EntityId) (component : String)
  /-- Another entity has the component, and only one may. -/
  | singletonViolation (component : String) (holder : EntityId)
  /-- A handle that this store did not give out. -/
  | unknownHandle (kind : HandleKind)
  /-- A query that cannot be built. -/
  | query (error : QueryError)
  deriving DecidableEq

/-- The error in words. -/
def QueryError.message : QueryError → String
  | .unknownComponent name => s!"query references unknown component '{name}'"
  | .overlap name => s!"component '{name}' is both included and excluded"

/-- The word for what a handle stands for. -/
def HandleKind.word : HandleKind → String
  | .query => "query"
  | .consumer => "consumer"

/-- The error in words. -/
def StoreError.message : StoreError → String
  | .unknownComponent name => s!"unknown component '{name}'"
  | .foreignComponent entity c =>
    s!"entity {entity.text} carries {describeComponent c}, which is outside this store's schema"
  | .unknownEntity entity => s!"entity {entity.text} is not registered"
  | .missingComponent entity c => s!"entity {entity.text} has no '{c}' component"
  | .singletonViolation c holder =>
    s!"singleton component '{c}' is already held by entity {holder.text}"
  | .unknownHandle kind => s!"unknown {kind.word} handle"
  | .query error => error.message

end SceneEngine
