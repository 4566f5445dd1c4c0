import SceneEngine.Identity.EntityId
import SceneEngine.Store.ComponentSet
import SceneEngine.Store.ComponentValue

/-!
# Entities

An entity is an identifier and a finite map from components to values.  The map is kept as a list of
slots in ascending order of their components, so there is one list for each map: two entities with
the same values have the same slots, and are written the same.

The order is part of the type.  Whatever makes an entity has to show that its slots are ascending,
so that nothing that reads one has to ask; the two lemmas of this module are what `Entity.set` needs
for this.  Setting and erasing are written as one pass over the slots.  The search by halving that
finds a slot in a long list is in `Store/Slots`, and is shown there to come to the same.
-/

namespace SceneEngine

/-- A component with its value. -/
abbrev Slot := ComponentId × ComponentValue

/-- Puts a value into its place among ascending slots.  A slot of the same component is replaced. -/
def insertSlot (c : ComponentId) (v : ComponentValue) : List Slot → List Slot
  | [] => [(c, v)]
  | (d, w) :: slots =>
    if c < d then (c, v) :: (d, w) :: slots
    else if c = d then (c, v) :: slots
    else (d, w) :: insertSlot c v slots

/-- Only the inserted component and those that were there before are there afterwards. -/
theorem fst_mem_of_mem_insertSlot {c : ComponentId} {v : ComponentValue} {slots : List Slot}
    {s : Slot} (h : s ∈ insertSlot c v slots) : s.1 = c ∨ s ∈ slots := by
  induction slots with
  | nil =>
    have hs : s = (c, v) := by simpa [insertSlot] using h
    exact .inl (by rw [hs])
  | cons slot slots ih =>
    obtain ⟨d, w⟩ := slot
    simp only [insertSlot] at h
    split at h
    · rcases List.mem_cons.mp h with rfl | h
      · exact .inl rfl
      · exact .inr h
    · split at h
      · rcases List.mem_cons.mp h with rfl | h
        · exact .inl rfl
        · exact .inr (List.mem_cons_of_mem _ h)
      · rcases List.mem_cons.mp h with rfl | h
        · exact .inr List.mem_cons_self
        · exact (ih h).imp_right (List.mem_cons_of_mem _)

/-- Ascending slots stay ascending. -/
theorem pairwise_insertSlot {c : ComponentId} {v : ComponentValue} {slots : List Slot}
    (h : slots.Pairwise (·.1 < ·.1)) : (insertSlot c v slots).Pairwise (·.1 < ·.1) := by
  induction slots with
  | nil => simp [insertSlot]
  | cons slot slots ih =>
    obtain ⟨d, w⟩ := slot
    obtain ⟨hd, hrest⟩ := List.pairwise_cons.mp h
    simp only [insertSlot]
    split
    next hcd =>
      refine List.pairwise_cons.mpr ⟨fun s hs => ?_, h⟩
      rcases List.mem_cons.mp hs with rfl | hs
      · exact hcd
      · exact Fin.lt_trans hcd (hd s hs)
    next hcd =>
      split
      next heq => exact List.pairwise_cons.mpr ⟨fun s hs => heq ▸ hd s hs, hrest⟩
      next hne =>
        refine List.pairwise_cons.mpr ⟨fun s hs => ?_, ih hrest⟩
        rcases fst_mem_of_mem_insertSlot hs with hs | hs
        · rw [hs]
          have hle : d.val ≤ c.val := Nat.le_of_not_lt fun h => hcd h
          exact Nat.lt_of_le_of_ne hle fun h => hne (Fin.ext h.symm)
        · exact hd s hs

/-- An identifier with the values of its components. -/
structure Entity where
  /-- The identifier, which no operation changes. -/
  id : EntityId
  /-- The values by component. -/
  slots : List Slot
  /-- No component occurs twice, and the slots are in order. -/
  ascending : slots.Pairwise (·.1 < ·.1)

namespace Entity

/-- The entity without components. -/
def bare (id : EntityId) : Entity := ⟨id, [], .nil⟩

/-- The value of a component, if it is present. -/
def get? (e : Entity) (c : ComponentId) : Option ComponentValue :=
  (e.slots.find? (·.1 == c)).map Prod.snd

/-- Whether a component is present. -/
def has (e : Entity) (c : ComponentId) : Bool := e.slots.any (·.1 == c)

/-- Gives a component a value, whether it was present or not. -/
def set (e : Entity) (c : ComponentId) (v : ComponentValue) : Entity :=
  ⟨e.id, insertSlot c v e.slots, pairwise_insertSlot e.ascending⟩

/-- Takes a component away.  Nothing happens if it is not present. -/
def erase (e : Entity) (c : ComponentId) : Entity :=
  ⟨e.id, e.slots.filter (·.1 != c), e.ascending.filter _⟩

/-- The components that are present, in ascending order. -/
def components (e : Entity) : List ComponentId := e.slots.map Prod.fst

/-- The set of the components that are present. -/
def componentSet (e : Entity) : ComponentSet := .ofList e.components

end Entity

end SceneEngine
