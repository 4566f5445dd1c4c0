import SceneEngine.Ordered.SwapErase

/-!
# Insertion-ordered sets

A set that lists its elements in the order in which they came in.  Inserting a present element keeps
its position; erasing an element moves the last one into its place.

As with maps, the order is part of the set, and the elements are distinct by construction.
-/

namespace SceneEngine

/-- A finite set together with the order in which its elements were inserted. -/
structure OrderedSet (α : Type) where
  /-- The elements, oldest first, except for what erasing has moved. -/
  toList : List α
  /-- No element is listed twice. -/
  nodup : toList.Nodup
  deriving DecidableEq

namespace OrderedSet

variable {α : Type} [DecidableEq α]

/-- The set without elements. -/
def empty : OrderedSet α := ⟨[], List.nodup_nil⟩

instance : EmptyCollection (OrderedSet α) := ⟨empty⟩

instance : Inhabited (OrderedSet α) := ⟨empty⟩

instance : Membership α (OrderedSet α) := ⟨fun s a => a ∈ s.toList⟩

instance (a : α) (s : OrderedSet α) : Decidable (a ∈ s) :=
  inferInstanceAs (Decidable (a ∈ s.toList))

/-- The number of elements. -/
def size (s : OrderedSet α) : Nat := s.toList.length

/-- Whether there is no element. -/
def isEmpty (s : OrderedSet α) : Bool := s.toList.isEmpty

/-- The element at the front, if there is one. -/
def first? (s : OrderedSet α) : Option α := s.toList.head?

/-- Adds `a` behind all others, unless it is present already. -/
def insert (s : OrderedSet α) (a : α) : OrderedSet α :=
  if h : a ∈ s.toList then s
  else ⟨s.toList ++ [a], by
    refine List.nodup_append.mpr ⟨s.nodup, by simp, ?_⟩
    intro b hb c hc hbc
    have hca : c = a := by simpa using hc
    exact h (hca ▸ hbc ▸ hb)⟩

/-- Removes `a`; the last element takes its place.  Nothing happens if `a` is not there. -/
def erase (s : OrderedSet α) (a : α) : OrderedSet α :=
  ⟨swapErase (· == a) s.toList, nodup_swapErase s.nodup⟩

/-- The elements of `l` in the order of their first occurrence. -/
def ofList (l : List α) : OrderedSet α := l.foldl insert empty

/-- Adds the elements of `l` one after another. -/
def insertMany (s : OrderedSet α) (l : List α) : OrderedSet α := l.foldl insert s

end OrderedSet

end SceneEngine
