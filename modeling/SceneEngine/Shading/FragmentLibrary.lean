import SceneEngine.Log
import SceneEngine.Ordered.Map
import SceneEngine.Ordered.Set
import SceneEngine.Shading.CompileError

/-!
# Fragment libraries

A library holds named pieces of shader source.  A piece may depend on others, which have to stand
before it in a program, because the shading language wants functions to be declared before they are
called.

Including a fragment therefore includes what it depends on first (`FragmentLibrary.resolve`).  The
visits go down along the dependencies, with the names on the way remembered, so that a circle of
dependencies ends where it meets a name that is about to be included.  What is included already is
left where it stands.  If a dependency is missing, including fails, and what has been included by
then stays included.
-/

namespace SceneEngine.Shading

/-- A named piece of shader source. -/
structure Fragment where
  /-- The name, by which nodes and other fragments ask for it. -/
  name : String
  /-- The text. -/
  source : String
  /-- The fragments that must stand before this one. -/
  dependencies : List String := []

/-- Fragments by name. -/
structure FragmentLibrary where
  /-- The fragments, in the order in which they were registered. -/
  fragments : OrderedMap String Fragment

namespace FragmentLibrary

/-- The library without fragments. -/
def empty : FragmentLibrary := ⟨∅⟩

instance : Inhabited FragmentLibrary := ⟨empty⟩

/-- Looks a fragment up. -/
def get? (library : FragmentLibrary) (name : String) : Option Fragment :=
  library.fragments.get? name

/-- Adds a fragment.  One of the same name is replaced, which is worth a warning. -/
def register (library : FragmentLibrary) (fragment : Fragment) : FragmentLibrary × Log :=
  let log := if library.fragments.contains fragment.name then
      [LogEntry.warning s!"Library fragment '{fragment.name}' replaced."]
    else []
  (⟨library.fragments.insert fragment.name fragment⟩, log)

/-- The fragments included so far, after an attempt to include more. -/
abbrev Inclusion := OrderedSet String × Except CompileError Unit

/-- Includes names one after another with `step`, up to the first failure. -/
def includeAll (step : String → OrderedSet String → Inclusion) :
    List String → OrderedSet String → Inclusion
  | [], included => (included, .ok ())
  | name :: names, included =>
    match step name included with
    | (included, .ok ()) => includeAll step names included
    | failed => failed

/-- Includes a fragment behind everything it depends on.  Names that are included already, or
about to be, are skipped.  `depth` bounds how many fragments can be about to be included at
once. -/
def visit (library : FragmentLibrary) : Nat → List String → String → OrderedSet String → Inclusion
  | 0, _, _, included => (included, .ok ())
  | depth + 1, visiting, name, included =>
    if name ∈ included ∨ name ∈ visiting then (included, .ok ())
    else
      -- the name is about to be included from here on, until its dependencies have been
      match library.get? name with
      | none => (included, .error (.unknownFragment name))
      | some fragment =>
        match includeAll (visit library depth (name :: visiting)) fragment.dependencies
            included with
        | (included, .ok ()) => (included.insert name, .ok ())
        | failed => failed

/-- Appends `name`, and before it whatever it depends on, to the included fragments.  Only
registered fragments are ever about to be included, so their number bounds the depth. -/
def resolve (library : FragmentLibrary) (name : String) (included : OrderedSet String) :
    Inclusion :=
  library.visit (library.fragments.size + 1) [] name included

end FragmentLibrary

end SceneEngine.Shading
