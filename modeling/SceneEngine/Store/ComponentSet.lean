/-!
# Component sets

Components are numbered; there are at most 256 of them.  A set of components is packed into four
words of 64 bits: the words stand in the order of the numbers, and every component has one bit.
Sets are compared, combined and asked word by word, so that the test whether an entity has what a
query asks for takes a few operations, however many components there are.

Every pattern of bits is a set, and no set has two patterns, so equality of sets is equality of
words.  `Proofs/Store/PackedSets` shows that the operations are those of finite sets.
-/

namespace SceneEngine

/-- The greatest number of components, which is the number of bits in four words. -/
def maxComponents : Nat := 256

/-- A component, by its position in the schema. -/
abbrev ComponentId := Fin maxComponents

/-- All components in ascending order. -/
def allComponents : List ComponentId := List.finRange maxComponents

/-- The description of a component's number. -/
def describeComponent (c : ComponentId) : String := s!"ComponentId({c.val})"

/-- The number of words in a set. -/
def wordCount : Nat := 4

/-- A set of components. -/
structure ComponentSet where
  /-- The words, lowest numbers first. -/
  words : List (BitVec 64)
  /-- There are always four of them. -/
  length_words : words.length = wordCount
  deriving DecidableEq

namespace ComponentSet

/-- The set without components. -/
def empty : ComponentSet := ⟨List.replicate wordCount 0, List.length_replicate⟩

instance : EmptyCollection ComponentSet := ⟨empty⟩

instance : Inhabited ComponentSet := ⟨empty⟩

/-! ## Places -/

/-- The place of a number: which word has its bit, and the word with that bit alone. -/
def locate (index : Nat) : Nat × BitVec 64 := (index / 64, .twoPow 64 (index % 64))

/-- Every component has its word. -/
theorem locate_lt (s : ComponentSet) (c : ComponentId) : (locate c.val).1 < s.words.length := by
  have hc : c.val < 256 := c.isLt
  rw [s.length_words, locate, wordCount]
  omega

/-- The component that has a bit of a word. -/
def componentAt (i : Fin wordCount) (bit : Fin 64) : ComponentId :=
  ⟨i.val * 64 + bit.val, by have hi : i.val < 4 := i.isLt; unfold maxComponents; omega⟩

/-- A word of a set. -/
def word (s : ComponentSet) (i : Fin wordCount) : BitVec 64 :=
  s.words.get ⟨i.val, s.length_words.symm ▸ i.isLt⟩

/-! ## Operations -/

/-- Adds a component: its bit is set in its word. -/
def insert (s : ComponentSet) (c : ComponentId) : ComponentSet :=
  let (word, mask) := locate c.val
  ⟨s.words.modify word (· ||| mask), (List.length_modify ..).trans s.length_words⟩

/-- Removes a component: its bit is cleared in its word. -/
def erase (s : ComponentSet) (c : ComponentId) : ComponentSet :=
  let (word, mask) := locate c.val
  ⟨s.words.modify word (· &&& ~~~mask), (List.length_modify ..).trans s.length_words⟩

/-- Whether a component is in the set. -/
def contains (s : ComponentSet) (c : ComponentId) : Bool :=
  s.words.get ⟨(locate c.val).1, s.locate_lt c⟩ &&& (locate c.val).2 != 0

/-- Whether the set has no component. -/
def isEmpty (s : ComponentSet) : Bool := s.words.all (· == 0)

/-- The components in ascending order: word after word, and bit after bit in each of them. -/
def toList (s : ComponentSet) : List ComponentId :=
  (List.finRange wordCount).flatMap fun i =>
    ((List.finRange 64).filter fun bit => s.word i &&& .twoPow 64 bit.val != 0).map (componentAt i)

/-- The number of components, added up over the words. -/
def size (s : ComponentSet) : Nat :=
  s.words.foldl (fun count word => count + word.cpop.toNat) 0

/-- Combines two sets word by word. -/
def zipWith (f : BitVec 64 → BitVec 64 → BitVec 64) (s t : ComponentSet) : ComponentSet :=
  ⟨List.zipWith f s.words t.words, by
    rw [List.length_zipWith, s.length_words, t.length_words, Nat.min_self]⟩

/-- The components of either set. -/
def union (s t : ComponentSet) : ComponentSet := s.zipWith (· ||| ·) t

/-- The components of both sets. -/
def intersection (s t : ComponentSet) : ComponentSet := s.zipWith (· &&& ·) t

/-- Whether every component of `s` is in `t`: no word of `s` has a bit that the word of `t` lacks.
-/
def isSubset (s t : ComponentSet) : Bool :=
  (s.words.zip t.words).all fun (a, b) => a &&& ~~~b == 0

/-- Whether the sets have no component in common. -/
def isDisjoint (s t : ComponentSet) : Bool := (s.intersection t).isEmpty

/-- The set of the components in a list. -/
def ofList (l : List ComponentId) : ComponentSet := l.foldl insert empty

/-- Describes a set by its numbers. -/
def describe (s : ComponentSet) : String :=
  "\x7b" ++ ", ".intercalate (s.toList.map fun c => toString c.val) ++ "\x7d"

end ComponentSet

end SceneEngine
