import SceneEngine.Ordered.SwapErase

/-!
# Insertion-ordered maps

A finite map that lists its entries in the order in which their keys came in.  Writing to a present
key keeps its position; erasing a key moves the last entry into its place; filtering keeps the
order.

The order is part of the map: two maps with the same entries in different orders are different,
because whoever goes through them sees the difference.  That no key occurs twice is a field of the
structure, so that every operation proves it once and nobody else has to.
-/

namespace SceneEngine

/-- A finite map together with the order in which its keys were inserted. -/
structure OrderedMap (κ α : Type) where
  /-- The entries, oldest key first, except for what erasing has moved. -/
  entries : List (κ × α)
  /-- No key has two values. -/
  nodup : (entries.map Prod.fst).Nodup

namespace OrderedMap

variable {κ α β : Type}

/-- Changing values under their keys leaves the list of keys as it is, and so keeps it without
repetitions. -/
theorem map_fst_mapValue (f : κ → α → β) (l : List (κ × α)) :
    (l.map fun e => (e.1, f e.1 e.2)).map Prod.fst = l.map Prod.fst := by
  simp [List.map_map, Function.comp_def]

variable [DecidableEq κ]

/-- The map without entries. -/
def empty : OrderedMap κ α := ⟨[], List.nodup_nil⟩

instance : EmptyCollection (OrderedMap κ α) := ⟨empty⟩

instance : Inhabited (OrderedMap κ α) := ⟨empty⟩

/-- The keys in the order of the entries. -/
def keys (m : OrderedMap κ α) : List κ := m.entries.map Prod.fst

/-- The values in the order of their keys. -/
def values (m : OrderedMap κ α) : List α := m.entries.map Prod.snd

/-- The number of entries. -/
def size (m : OrderedMap κ α) : Nat := m.entries.length

/-- Whether there is no entry. -/
def isEmpty (m : OrderedMap κ α) : Bool := m.entries.isEmpty

/-- Whether `k` has a value. -/
def contains (m : OrderedMap κ α) (k : κ) : Bool := m.keys.contains k

instance : Membership κ (OrderedMap κ α) := ⟨fun m k => k ∈ m.keys⟩

instance (k : κ) (m : OrderedMap κ α) : Decidable (k ∈ m) :=
  inferInstanceAs (Decidable (k ∈ m.keys))

/-- The value under `k`.  There is at most one, so the first is the one. -/
def get? (m : OrderedMap κ α) (k : κ) : Option α :=
  (m.entries.find? (·.1 == k)).map Prod.snd

/-- Changes every value; the keys stay, and their order. -/
def mapValues (f : κ → α → β) (m : OrderedMap κ α) : OrderedMap κ β :=
  ⟨m.entries.map fun e => (e.1, f e.1 e.2), by rw [map_fst_mapValue]; exact m.nodup⟩

/-- Changes the value under `k`, if there is one. -/
def modify (m : OrderedMap κ α) (k : κ) (f : α → α) : OrderedMap κ α :=
  m.mapValues fun k' a => if k' = k then f a else a

/-- Adds an entry behind all others; the key must be new.  The other operations that add entries go
through it. -/
def push (m : OrderedMap κ α) (k : κ) (a : α) (h : k ∉ m.keys) : OrderedMap κ α :=
  ⟨m.entries ++ [(k, a)], by
    rw [List.map_append]
    refine List.nodup_append.mpr ⟨m.nodup, by simp, ?_⟩
    intro b hb c hc hbc
    have hck : c = k := by simpa using hc
    exact h (hck ▸ hbc ▸ hb)⟩

/-- Writes `a` under `k`: in place if `k` is present, behind all others if it is new. -/
def insert (m : OrderedMap κ α) (k : κ) (a : α) : OrderedMap κ α :=
  if h : k ∈ m.keys then m.modify k fun _ => a else m.push k a h

/-- Adds an entry for a new key and leaves a present key as it is. -/
def insertIfNew (m : OrderedMap κ α) (k : κ) (a : α) : OrderedMap κ α :=
  if h : k ∈ m.keys then m else m.push k a h

/-- Changes the value under `k`, which is `default` when `k` is new. -/
def upsert (m : OrderedMap κ α) (k : κ) (default : α) (f : α → α) : OrderedMap κ α :=
  if h : k ∈ m.keys then m.modify k f else m.push k (f default) h

/-- Removes the entry of `k`; the last entry takes its place.  Nothing happens if there is none. -/
def erase (m : OrderedMap κ α) (k : κ) : OrderedMap κ α :=
  ⟨swapErase (·.1 == k) m.entries, nodup_map_swapErase Prod.fst m.nodup⟩

/-- Keeps the entries that satisfy `p`, in their order. -/
def filter (p : κ → α → Bool) (m : OrderedMap κ α) : OrderedMap κ α :=
  ⟨m.entries.filter fun e => p e.1 e.2, m.nodup.sublist (List.filter_sublist.map Prod.fst)⟩

/-- Writes the pairs of `l` one after another, so that the last pair of a key counts. -/
def ofList (l : List (κ × α)) : OrderedMap κ α := l.foldl (fun m e => m.insert e.1 e.2) empty

end OrderedMap

end SceneEngine
