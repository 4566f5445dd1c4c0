import Mathlib.Tactic.Lemma
import SceneEngine.Engine.Basic

/-!
# Acts on a scene

What an act does to a scene (`Act.after`) and what it keeps (`Act.Preserves`).

Acts are written with `do`, so what an act does is the composition of what its steps do.  The simp
lemmas here run such a composition forward: `Act.after_bind` takes one step off, and the acts of the
base (reading the store, setting it, drawing an identifier, sharing a value) have one equation each.
An act whose result matters for what follows is run with `Act.run_bind`.

An invariant of scenes is kept by an act if all of its steps keep it (`Act.Preserves.bind`), by a
list of acts if each of them does (`Act.preserves_forM`), and by a message that is handed to its
listeners if no listener breaks it (`Act.preserves_dispatch`).  With these three the invariants of
the compiling system are carried through a whole frame without looking at scenes again.
-/

namespace SceneEngine

open LiveLink (Message Router)

namespace Act

variable {σ α β : Type}

/-! ## The scene after an act -/

/-- The scene after an act, without its result.  What an act does to the store, to the supply of
identifiers and to the log is all in here. -/
def after (act : Act σ α) (scene : Scene σ) : Scene σ := (act.run scene).2

@[simp] lemma after_pure (a : α) (scene : Scene σ) : after (pure a) scene = scene := rfl

@[simp] lemma after_bind (act : Act σ α) (f : α → Act σ β) (scene : Scene σ) :
    after (act >>= f) scene = (f (act.run scene).1).after (act.after scene) := rfl

lemma run_bind (act : Act σ α) (f : α → Act σ β) (scene : Scene σ) :
    (act >>= f).run scene = (f (act.run scene).1).run (act.after scene) := rfl

@[simp] lemma run_store (scene : Scene σ) : Act.store.run scene = (scene.store, scene) := rfl

@[simp] lemma after_store (scene : Scene σ) : Act.store.after scene = scene := rfl

lemma run_share (content : α) (scene : Scene σ) : (Act.share content).run scene =
    (⟨scene.supply.next, content⟩, { scene with supply := ⟨scene.supply.next + 1⟩ }) := rfl

lemma after_share (content : α) (scene : Scene σ) : (Act.share content).after scene =
    { scene with supply := ⟨scene.supply.next + 1⟩ } := rfl

lemma run_drawId (scene : Scene σ) : Act.drawId.run scene =
    (.drawn scene.supply.next, { scene with supply := ⟨scene.supply.next + 1⟩ }) := rfl

lemma after_drawId (scene : Scene σ) : Act.drawId.after scene =
    { scene with supply := ⟨scene.supply.next + 1⟩ } := rfl

@[simp] lemma after_setStore (store : Store) (scene : Scene σ) :
    (Act.setStore store).after scene = { scene with store } := rfl

/-! ## Acts that keep something -/

variable {P : Scene σ → Prop}

/-- What holds of a scene holds after an act.  Nothing is said about the result: an act that fails
has to keep the property just as well. -/
def Preserves (act : Act σ α) (P : Scene σ → Prop) : Prop :=
  ∀ scene, P scene → P (act.after scene)

lemma preserves_pure (a : α) : Preserves (pure a : Act σ α) P := fun _ h => h

lemma Preserves.bind {act : Act σ α} {f : α → Act σ β} (hact : act.Preserves P)
    (hf : ∀ a, (f a).Preserves P) : Preserves (act >>= f) P :=
  fun scene h => hf _ _ (hact scene h)

lemma preserves_forM {l : List α} {f : α → Act σ Unit} (hf : ∀ a ∈ l, (f a).Preserves P) :
    Preserves (l.forM f) P := by
  induction l with
  | nil => exact preserves_pure _
  | cons a l ih =>
    rw [List.forall_mem_cons] at hf
    exact hf.1.bind fun _ => ih hf.2

lemma preserves_dispatch {router : Router (Act σ)} (message : Message)
    (hrouter : ∀ listener ∈ router.listeners, (listener.2 message).Preserves P) :
    Preserves (router.dispatch message) P := by
  have hlisteners : ∀ listener ∈ router.listenersFor message.kind,
      (listener message).Preserves P := by
    intro listener hlistener
    obtain ⟨entry, hentry, rfl⟩ := List.mem_map.mp hlistener
    exact hrouter entry (List.mem_filter.mp hentry).1
  refine Preserves.bind ?_ fun _ => preserves_pure _
  -- the induction is on the listeners that are called, whichever these are
  generalize router.listenersFor message.kind = listeners at hlisteners
  induction listeners with
  | nil => exact preserves_pure _
  | cons listener listeners ih =>
    rw [List.forall_mem_cons] at hlisteners
    rw [List.forIn_cons]
    refine Preserves.bind (hlisteners.1.bind fun _ => preserves_pure _) fun step => ?_
    cases step with
    | done => exact preserves_pure _
    | yield => exact ih hlisteners.2

end Act

end SceneEngine
