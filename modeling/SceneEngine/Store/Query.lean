import SceneEngine.Store.State

/-!
# Queries

A query asks for the entities that have some components and lack others.  It may also group them by
the value of a component.  Authors write queries in names of components (`QuerySpec`); a store
resolves them against its schema (`QuerySpec.resolve`) and works with sets of components from then
on (`Query`).

## Names

A query has a canonical name, made of the names of its components with signs in front of them.  The
components come in ascending order, so the way in which an author listed them does not show.
Component names are free to contain commas and signs themselves, and then two different queries can
have one name.

## Answering

Whether an entity is asked for can be told from its components alone (`Query.accepts`).  All such
entities of a state are found from the index (`Query.matching`), starting from the component that
the fewest entities have.
-/

namespace SceneEngine

/-- A query as its author writes it, in names of components. -/
structure QuerySpec where
  /-- What an entity must have, -/
  includes : List String := []
  /-- and what it must not have. -/
  excludes : List String := []
  /-- The component by whose value the entities are grouped. -/
  keyedBy? : Option String := none

/-- A query over the components of a schema. -/
structure Query where
  /-- The canonical name, such as `+type,-mesh`. -/
  name : String
  /-- What an entity must have, -/
  includes : ComponentSet
  /-- and what it must not have. -/
  excludes : ComponentSet
  /-- The component by whose value the entities are grouped. -/
  key? : Option ComponentId
  deriving DecidableEq

/-- Resolves the name of a component. -/
def Schema.lookup (schema : Schema) (name : String) : Except QueryError ComponentId :=
  match schema.id? name with
  | some c => .ok c
  | none => .error (.unknownComponent name)

/-- The canonical name of a query: the included components, then the excluded ones, each in
ascending order. -/
def Query.canonicalName (schema : Schema) (includes excludes : ComponentSet) : String :=
  ",".intercalate ((includes.toList.map fun c => "+" ++ schema.name c) ++
    excludes.toList.map fun c => "-" ++ schema.name c)

/-- Resolves a query against a schema.  Names are resolved in the order in which they are written,
first those of included components, and the key last. -/
def QuerySpec.resolve (spec : QuerySpec) (schema : Schema) : Except QueryError Query := do
  let includes ← spec.includes.mapM schema.lookup
  let excludes ← spec.excludes.mapM schema.lookup
  let includes := ComponentSet.ofList includes
  let excludes := ComponentSet.ofList excludes
  -- the first component of the overlap is reported
  match (includes.intersection excludes).toList with
  | c :: _ => .error (.overlap (schema.name c))
  | [] =>
    let key? ← spec.keyedBy?.mapM schema.lookup
    return { name := Query.canonicalName schema includes excludes, includes, excludes, key? }

namespace Query

/-- Whether an entity has what is included and lacks what is excluded. -/
def accepts (query : Query) (entity : Entity) : Bool :=
  let present := entity.componentSet
  query.includes.isSubset present && query.excludes.isDisjoint present

/-- The changes that count as an update: those of included components, or all of them when nothing
is included. -/
def watched (query : Query) (changed : ComponentSet) : ComponentSet :=
  if query.includes.isEmpty then changed else changed.intersection query.includes

/-- The component with the fewest holders, the first of several. -/
def rarest? (state : StoreState) (components : List ComponentId) : Option ComponentId :=
  components.foldl
    (fun best? c =>
      match best? with
      | none => some c
      | some best =>
        if (state.holders c).size < (state.holders best).size then some c else some best)
    none

/-- The entities of a state that the query asks for, found from the index: the holders of the rarest
included component, or all entities when nothing is included, narrowed down by the others. -/
def matching (query : Query) (state : StoreState) : List EntityId :=
  let candidates := match rarest? state query.includes.toList with
    | some c => (state.holders c).toList
    | none => state.entities.keys
  candidates.filter fun id =>
    query.includes.toList.all (fun c => decide (id ∈ state.holders c)) &&
      !query.excludes.toList.any fun c => decide (id ∈ state.holders c)

end Query

/-- The value of a component as far as entities can be grouped by it. -/
inductive IndexKey where
  /-- A truth value, -/
  | bool (value : Bool)
  /-- a whole number -/
  | int (value : Int)
  /-- or a text, by its content. -/
  | text (value : String)
  deriving DecidableEq

/-- The key that a value stands for; texts are compared by content. -/
def IndexKey.of? : ComponentValue → Option IndexKey
  | .bool b => some (.bool b)
  | .int n => some (.int n)
  | .text s => some (.text s.content)
  | _ => none

end SceneEngine
