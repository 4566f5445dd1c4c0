import SceneEngine.Store.Entity

/-!
# Slots in place

The slots of an entity as they are searched and changed in place.  A component is looked for by
halving, a slot that was found is written or taken out, and a new slot goes where the search ended.
The operations answer what callers need to know besides: what a component held before it was taken
away, and whether there was anything to modify.

## Order

Nothing here asks for the slots to be in order, and only among ascending slots does the search find
what is there.  An entity (`Entity.set`, `Entity.erase`) has ascending slots by its type, where each
write carries the proof that they stay so; `Proofs/Store/Slots` shows that the two come to the same
for slots that were written from the empty ones.

## Writes

A list of `SlotWrite` is everything that can be done to the slots of one entity.  `Slots.written`
performs it from the beginning, and is what the result about entities as finite maps is about.
-/

namespace SceneEngine

/-- Where a component stands among `n` slots, or where a slot for it has to go. -/
inductive Place (n : Nat) where
  /-- The component has the slot in this position. -/
  | present (index : Fin n)
  /-- A slot for the component goes into this position, which may be behind the last slot. -/
  | absent (index : Fin (n + 1))

namespace Slots

variable (slots : List Slot) (c : ComponentId)

/-! ## Searching -/

/-- Halves the `size` slots from `base` on until one is left.  The second half goes on unless the
component stands before the slot in the middle. -/
def narrow (base size : Nat) (hsize : 0 < size) (hbase : base + size ≤ slots.length) :
    Fin slots.length :=
  -- the slot in the middle belongs to the second half, so neither half is ever empty
  if size = 1 then ⟨base, by omega⟩
  else if c < slots[base + size / 2].1 then
    narrow base (size - size / 2) (by omega) (by omega)
  else narrow (base + size / 2) (size - size / 2) (by omega) (by omega)
termination_by size

/-- The place that the slot left by halving says: it is that of the component, or a slot for it goes
behind or before it. -/
def placeAt (i : Fin slots.length) : Place slots.length :=
  if slots[i].1 = c then .present i
  else if slots[i].1 < c then .absent i.succ
  else .absent i.castSucc

/-- Looks for a component.  Without slots there is only one place for it. -/
def search : Place slots.length :=
  if h : 0 < slots.length then placeAt slots c (narrow slots c 0 slots.length h (by omega))
  else .absent 0

/-- The value of a component. -/
def get? : Option ComponentValue :=
  match search slots c with
  | .present i => some slots[i].2
  | .absent _ => none

/-! ## Writing -/

/-- Gives a component a value: its slot is overwritten, or a new one is put in. -/
def insert (v : ComponentValue) : List Slot :=
  match search slots c with
  | .present i => slots.modify i fun slot => (slot.1, v)
  | .absent i => slots.insertIdx i (c, v)

/-- Takes a component away, and says what it held; without it, the slots stay. -/
def remove : Option ComponentValue × List Slot :=
  match search slots c with
  | .present i => (some slots[i].2, slots.eraseIdx i)
  | .absent _ => (none, slots)

/-- Changes what a component holds; `none` when it is not there. -/
def modify? (f : ComponentValue → ComponentValue) : Option (List Slot) :=
  match search slots c with
  | .present i => some (slots.modify i fun slot => (slot.1, f slot.2))
  | .absent _ => none

end Slots

/-- A write to the slots of an entity, or to those of a copy of it. -/
inductive SlotWrite where
  /-- Gives a component a value. -/
  | insert (c : ComponentId) (v : ComponentValue)
  /-- Takes a component away. -/
  | remove (c : ComponentId)
  /-- Changes what a component holds, if it is there. -/
  | modify (c : ComponentId) (f : ComponentValue → ComponentValue)

namespace SlotWrite

/-- The component that is written. -/
def component : SlotWrite → ComponentId
  | insert c _ => c
  | remove c => c
  | modify c _ => c

/-- The slots after a write. -/
def perform (slots : List Slot) : SlotWrite → List Slot
  | insert c v => Slots.insert slots c v
  | remove c => (Slots.remove slots c).2
  | modify c f => (Slots.modify? slots c f).getD slots

end SlotWrite

/-- The slots after writes, one after another, to an entity without components. -/
def Slots.written (writes : List SlotWrite) : List Slot := writes.foldl SlotWrite.perform []

end SceneEngine
