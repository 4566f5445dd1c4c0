import SceneEngine.Log
import SceneEngine.Store.Basic

/-!
# Scenes

What systems work on: the store, a supply of marks and identifiers, the log, and whatever state the
application keeps for itself.  Everything that a hook can do is a step on a scene (`Act`), and steps
that may fail say how they came out as a value (`Outcome`).  A failure takes nothing back.

New objects and new identifiers need numbers that have not been used.  They come from one supply, in
order, so that a run of an application depends on nothing but what it is given.
-/

namespace SceneEngine

/-- Numbers that have not been used: for the marks of new objects and for new identifiers. -/
structure Supply where
  /-- All smaller numbers have been used. -/
  next : Nat

namespace Supply

/-- The supply of which nothing has been used. -/
def fresh : Supply := ⟨0⟩

/-- A new object with the given content, which is the same as no other object. -/
def share {α : Type} (supply : Supply) (content : α) : Shared α × Supply :=
  (⟨supply.next, content⟩, ⟨supply.next + 1⟩)

/-- A new identifier. -/
def draw (supply : Supply) : EntityId × Supply := (.drawn supply.next, ⟨supply.next + 1⟩)

end Supply

/-- The store and what surrounds it.  `σ` is the application's own state. -/
structure Scene (σ : Type) where
  /-- The entities. -/
  store : Store
  /-- New marks and identifiers. -/
  supply : Supply
  /-- What has been reported, in order. -/
  log : Log
  /-- What the application keeps. -/
  app : σ

/-- Something done to a scene. -/
abbrev Act (σ α : Type) := StateM (Scene σ) α

/-- Why something failed: what was being done, from the outside in. -/
structure Failure where
  /-- The descriptions, outermost first. -/
  causes : List String
  deriving DecidableEq

/-- The failure in words. -/
def Failure.message (failure : Failure) : String := ": ".intercalate failure.causes

/-- The failure of a store operation. -/
def Failure.ofStore (e : StoreError) : Failure := ⟨[e.message]⟩

/-- How something that may fail came out.  What was done to the scene before a failure stays
done. -/
abbrev Outcome := Except Failure Unit

namespace Act

variable {σ α : Type}

/-- Writes to the log. -/
def report (entries : Log) : Act σ Unit := modify fun scene =>
  { scene with log := scene.log ++ entries }

/-- Makes a new object. -/
def share (content : α) : Act σ (Shared α) := modifyGet fun scene =>
  let (shared, supply) := scene.supply.share content
  (shared, { scene with supply })

/-- Draws a new identifier. -/
def drawId : Act σ EntityId := modifyGet fun scene =>
  let (id, supply) := scene.supply.draw
  (id, { scene with supply })

/-- The store. -/
def store : Act σ Store := return (← get).store

/-- Puts another store in the place of the store. -/
def setStore (store : Store) : Act σ Unit := modify fun scene => { scene with store }

end Act

end SceneEngine
