import SceneEngine.Log
import SceneEngine.Store.Entity

/-!
# Schemas

A schema declares the components of a store: their names, the values they start with, whether every
new entity has them, and whether only one entity may.  It is fixed when a store is made.  The
position of a declaration is the number of its component, and names are looked up by it.

Declarations are checked when a schema is built (`Schema.build`): there may not be more of them than
a set of components has room for, and names must be there and differ from each other.  A schema
carries the proofs of both, so a component has one name and a name has at most one component
wherever a schema is used.  Names are not restricted otherwise.
-/

namespace SceneEngine

/-- The declaration of a component. -/
structure ComponentDef where
  /-- The name, by which authors refer to the component. -/
  name : String
  /-- The value of the component when it is added without one. -/
  default : ComponentValue
  /-- Whether every new entity starts with the component. -/
  seeded : Bool := false
  /-- Whether at most one registered entity may have the component. -/
  singleton : Bool := false

/-- Why declarations make no schema. -/
inductive SchemaError where
  /-- Two declarations have this name. -/
  | duplicateComponent (name : String)
  /-- A declaration has no name. -/
  | emptyName
  /-- There are more declarations than components can be numbered. -/
  | tooManyComponents (count : Nat)
  deriving DecidableEq

/-- The error in words. -/
def SchemaError.message : SchemaError → String
  | .duplicateComponent name => s!"component '{name}' is declared more than once"
  | .emptyName => "component names must not be empty"
  | .tooManyComponents count =>
    s!"schema declares {count} components, the maximum is {maxComponents}"

/-- The first fault among names, given those that come before them. -/
def nameFault? (before : List String) : List String → Option SchemaError
  | [] => none
  | name :: names =>
    if name = "" then some .emptyName
    else if name ∈ before then some (.duplicateComponent name)
    else nameFault? (name :: before) names

/-- Without a fault the names are distinct from each other and from those before them. -/
theorem nodup_of_nameFault? {before names : List String} (h : nameFault? before names = none) :
    names.Nodup ∧ ∀ name ∈ names, name ∉ before := by
  induction names generalizing before with
  | nil => simp
  | cons name names ih =>
    simp only [nameFault?] at h
    split at h
    · cases h
    · split at h
      · cases h
      next hbefore =>
        obtain ⟨hnodup, hfresh⟩ := ih h
        have hname : name ∉ names := fun hmem => hfresh name hmem List.mem_cons_self
        refine ⟨List.nodup_cons.mpr ⟨hname, hnodup⟩, fun other hother => ?_⟩
        rcases List.mem_cons.mp hother with rfl | hother
        · exact hbefore
        · exact fun hmem => hfresh other hother (List.mem_cons_of_mem _ hmem)

/-- The components of a store. -/
structure Schema where
  /-- The declarations, by the numbers of their components. -/
  defs : List ComponentDef
  /-- Every declaration has a number. -/
  length_le : defs.length ≤ maxComponents
  /-- No two declarations have one name. -/
  nodup : (defs.map ComponentDef.name).Nodup

namespace Schema

/-- Checks declarations: first their number, then their names one after another. -/
def build (defs : List ComponentDef) : Except SchemaError Schema :=
  if hlen : defs.length ≤ maxComponents then
    match hfault : nameFault? [] (defs.map ComponentDef.name) with
    | some e => .error e
    | none => .ok ⟨defs, hlen, (nodup_of_nameFault? hfault).1⟩
  else .error (.tooManyComponents defs.length)

/-- The number of components. -/
def size (schema : Schema) : Nat := schema.defs.length

/-- The components in ascending order. -/
def components (schema : Schema) : List ComponentId :=
  allComponents.filter fun c => c.val < schema.size

/-- The component of a name. -/
def id? (schema : Schema) (name : String) : Option ComponentId :=
  schema.components.find? fun c => (schema.defs[c.val]?.map ComponentDef.name) == some name

/-- The declaration of a component. -/
def def? (schema : Schema) (c : ComponentId) : Option ComponentDef := schema.defs[c.val]?

/-- The name of a component; empty for a component of another schema. -/
def name (schema : Schema) (c : ComponentId) : String :=
  ((schema.def? c).map ComponentDef.name).getD ""

/-- Whether only one entity may have a component. -/
def isSingleton (schema : Schema) (c : ComponentId) : Bool :=
  ((schema.def? c).map ComponentDef.singleton).getD false

/-- A new entity: it has the seeded components, with their defaults. -/
def createEntity (schema : Schema) (id : EntityId) : Entity :=
  schema.components.foldl
    (fun entity c =>
      match schema.def? c with
      | some d => if d.seeded then entity.set c d.default else entity
      | none => entity)
    (.bare id)

/-- Gives an entity a component by name, with its default when no value is given.  An unknown name
changes nothing, which is worth a warning. -/
def addComponent (schema : Schema) (entity : Entity) (name : String)
    (value? : Option ComponentValue) : Entity × Log :=
  match schema.id? name with
  | some c =>
    let default := ((schema.def? c).map ComponentDef.default).getD .null
    (entity.set c (value?.getD default), [])
  | none =>
    (entity, [.warning s!"Ignoring unknown component '{name}' on entity {entity.id.text}."])

/-- Takes a component away by name; an unknown name changes nothing. -/
def removeComponent (schema : Schema) (entity : Entity) (name : String) : Entity :=
  match schema.id? name with
  | some c => entity.erase c
  | none => entity

end Schema

end SceneEngine
