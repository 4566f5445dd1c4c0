import Mathlib.Data.Finset.Card
import Mathlib.Data.List.FinRange
import SceneEngine.Proofs.Store.Components
import SceneEngine.Store.Schema

/-!
# Component sets as finite sets

The operations on component sets work on words of bits: a component is located in its word, and sets
are combined, compared and counted word by word.  Here every set stands for the finite set of its
components, every operation for the operation on finite sets of the same name, and every question
for the question about finite sets.

## How a set came about

A `SetConstruction` writes down how a set came about, from the empty set and from lists by adding,
removing and combining.  Each construction has a packed set (`SetConstruction.build`) and a finite
set (`SetConstruction.members`).  Since every pattern of bits comes about in some way
(`ComponentSet.exists_build_eq`), nothing is left out by speaking of constructions.

## Standing for a finite set

`ComponentSet.Represents` collects the questions that can be put to a set: whether it has a
component, whether it is empty, how many it has, and what is listed when one goes through it, which
is each component once and in ascending order.  It is enough that a packed set has the same
components (`ComponentSet.represents_of_contains`), so each operation needs one line.  The count is
the sum of the bits that are set in the words, and `ComponentSet.size_eq_length` relates it to the
listing.

## Numbers without a word

A component is looked for in the word of its number, and a number beyond the last word has none.
The last part of the theorem says that a schema gives out no such number, so the components of an
entity can be collected (`ComponentSet.collect?`).

The main result is `ComponentSet.packed_faithfully`.
-/

namespace SceneEngine

/-! ## Constructions -/

/-- How a set of components came about. -/
inductive SetConstruction where
  /-- The empty set. -/
  | empty
  /-- The components of a list, in any order and as often as they stand there. -/
  | ofList (components : List ComponentId)
  /-- With one more component, or the same set if it was there. -/
  | insert (a : SetConstruction) (c : ComponentId)
  /-- Without a component. -/
  | erase (a : SetConstruction) (c : ComponentId)
  /-- What is in one of two sets. -/
  | union (a b : SetConstruction)
  /-- What is in both of two sets. -/
  | intersection (a b : SetConstruction)

namespace SetConstruction

/-- The packed set of a construction. -/
def build : SetConstruction → ComponentSet
  | empty => ∅
  | ofList components => .ofList components
  | insert a c => a.build.insert c
  | erase a c => a.build.erase c
  | union a b => a.build.union b.build
  | intersection a b => a.build.intersection b.build

/-- The finite set that a construction describes. -/
def members : SetConstruction → Finset ComponentId
  | empty => ∅
  | ofList components => components.toFinset
  | insert a c => Insert.insert c a.members
  | erase a c => a.members.erase c
  | union a b => a.members ∪ b.members
  | intersection a b => a.members ∩ b.members

end SetConstruction

namespace ComponentSet

variable {s t : ComponentSet} {c : ComponentId} {i j : Fin wordCount} {bit bit' : Fin 64}

/-! ## Words in order -/

lemma map_word (s : ComponentSet) : (List.finRange wordCount).map s.word = s.words := by
  refine List.ext_getElem ?_ fun k _ hk => ?_
  · rw [List.length_map, List.length_finRange, s.length_words]
  · rw [List.getElem_map, List.getElem_finRange]
    rfl

/-- The bits are counted one after another. -/
lemma cpopNatRec_eq_countP (w : BitVec 64) (n : Nat) :
    w.cpopNatRec n 0 = (List.range n).countP w.getLsbD := by
  induction n with
  | zero => rfl
  | succ n ih =>
    rw [BitVec.cpopNatRec_succ, BitVec.cpopNatRec_eq, ih, List.range_succ, List.countP_append,
      List.countP_singleton]
    cases w.getLsbD n <;> rfl

/-- A word has as many bits as are found when it is searched. -/
lemma toNat_cpop_eq_length (w : BitVec 64) :
    w.cpop.toNat =
      ((List.finRange 64).filter fun bit => w &&& .twoPow 64 bit.val != 0).length := by
  have hmask : (fun bit : Fin 64 => w &&& .twoPow 64 bit.val != 0) = w.getLsbD ∘ Fin.val := by
    funext bit
    exact and_mask_ne_zero w bit
  rw [BitVec.toNat_cpop, cpopNatRec_eq_countP, ← List.map_coe_finRange_eq_range, List.countP_map,
    hmask, List.countP_eq_length_filter]

/-- The number of components is the number of those that are listed, although it is computed by
counting bits. -/
lemma size_eq_length (s : ComponentSet) : s.size = s.toList.length := by
  have hword (i : Fin wordCount) : ((List.finRange 64).filter fun bit =>
      s.word i &&& .twoPow 64 bit.val != 0).length = (s.word i).cpop.toNat :=
    (toNat_cpop_eq_length (s.word i)).symm
  -- both sides go through the words; in each word the bits that are set are those that are listed
  rw [size, ← map_word, List.foldl_map, toList, List.length_flatMap, List.sum_eq_foldl,
    List.foldl_map]
  simp only [List.length_map, hword]

/-- Components are compared by their words, and by their bits within a word. -/
lemma componentAt_lt : componentAt i bit < componentAt j bit' ↔ i < j ∨ i = j ∧ bit < bit' := by
  simp only [componentAt, Fin.lt_def, Fin.ext_iff]
  omega

lemma pairwise_toList (s : ComponentSet) : s.toList.Pairwise (· < ·) := by
  rw [toList, List.pairwise_flatMap]
  constructor
  · intro i _
    have hbits : ((List.finRange 64).filter fun bit =>
        s.word i &&& .twoPow 64 bit.val != 0).Pairwise (· < ·) :=
      (List.pairwise_lt_finRange 64).filter _
    exact List.pairwise_map.mpr (hbits.imp fun h => componentAt_lt.mpr (Or.inr ⟨rfl, h⟩))
  · refine (List.pairwise_lt_finRange wordCount).imp fun hij c hc d hd => ?_
    -- components of different words are in the order of the words, whatever their bits are
    obtain ⟨bit, -, rfl⟩ := List.mem_map.mp hc
    obtain ⟨bit', -, rfl⟩ := List.mem_map.mp hd
    exact componentAt_lt.mpr (Or.inl hij)

/-! ## Representation -/

/-- A packed set stands for a finite set: it answers every question as that set does.  Two sets that
stand for one finite set are the same (`Represents.eq_iff`). -/
structure Represents (s : ComponentSet) (A : Finset ComponentId) : Prop where
  /-- It has the components that are elements. -/
  contains_iff : ∀ c, s.contains c = true ↔ c ∈ A
  /-- It is empty when the finite set is. -/
  isEmpty_iff : s.isEmpty = true ↔ A = ∅
  /-- It counts as many components as there are elements. -/
  size_eq : s.size = A.card
  /-- Going through it meets the elements, -/
  mem_toList_iff : ∀ c, c ∈ s.toList ↔ c ∈ A
  /-- each once, from the smallest to the largest. -/
  ascending : s.toList.Pairwise (· < ·)

variable {A B : Finset ComponentId}

/-- To stand for a finite set it is enough to have its elements; the other questions are answered
from that. -/
lemma represents_of_contains (h : ∀ c, s.contains c = true ↔ c ∈ A) : s.Represents A where
  contains_iff := h
  isEmpty_iff := by
    rw [ComponentSet.isEmpty_iff]
    constructor
    · rintro rfl
      exact Finset.eq_empty_of_forall_notMem fun c hc => by simpa using (h c).mpr hc
    · rintro rfl
      ext c
      rw [contains_empty, ← Bool.not_eq_true, h]
      exact Finset.notMem_empty c
  size_eq := by
    -- the list has no repetitions, so it is the finite set and as long as the set is large
    have hlist : s.toList.toFinset = A := by
      ext c
      rw [List.mem_toFinset, mem_toList, h]
    rw [size_eq_length, ← hlist, List.toFinset_card_of_nodup s.pairwise_toList.nodup]
  mem_toList_iff c := by rw [mem_toList, h]
  ascending := s.pairwise_toList

namespace Represents

lemma empty : Represents ∅ ∅ := represents_of_contains fun c => by simp

lemma ofList (l : List ComponentId) : (ofList l).Represents l.toFinset :=
  represents_of_contains fun c => by simp

lemma insert (h : s.Represents A) (c : ComponentId) :
    (s.insert c).Represents (Insert.insert c A) :=
  represents_of_contains fun d => by simp [h.contains_iff]

lemma erase (h : s.Represents A) (c : ComponentId) : (s.erase c).Represents (A.erase c) :=
  represents_of_contains fun d => by simp [h.contains_iff]

lemma union (hs : s.Represents A) (ht : t.Represents B) : (s.union t).Represents (A ∪ B) :=
  represents_of_contains fun c => by simp [hs.contains_iff, ht.contains_iff]

lemma intersection (hs : s.Represents A) (ht : t.Represents B) :
    (s.intersection t).Represents (A ∩ B) :=
  represents_of_contains fun c => by simp [hs.contains_iff, ht.contains_iff]

lemma isSubset_iff (hs : s.Represents A) (ht : t.Represents B) :
    s.isSubset t = true ↔ A ⊆ B := by
  rw [ComponentSet.isSubset_iff]
  simp only [hs.contains_iff, ht.contains_iff]
  rfl

lemma isDisjoint_iff (hs : s.Represents A) (ht : t.Represents B) :
    s.isDisjoint t = true ↔ Disjoint A B := by
  rw [ComponentSet.isDisjoint_iff, Finset.disjoint_left]
  simp only [← Bool.not_eq_true, hs.contains_iff, ht.contains_iff]

/-- Sets are equal word by word just when they have the same elements. -/
lemma eq_iff (hs : s.Represents A) (ht : t.Represents B) : s = t ↔ A = B := by
  constructor
  · rintro rfl
    ext c
    rw [← hs.contains_iff, ht.contains_iff]
  · rintro rfl
    ext c
    rw [Bool.eq_iff_iff, hs.contains_iff, ht.contains_iff]

end Represents

/-- A construction's packed set stands for the finite set that it describes. -/
theorem represents_build (a : SetConstruction) : a.build.Represents a.members := by
  induction a with
  | empty => exact Represents.empty
  | ofList components => exact Represents.ofList components
  | insert a c iha => exact iha.insert c
  | erase a c iha => exact iha.erase c
  | union a b iha ihb => exact iha.union ihb
  | intersection a b iha ihb => exact iha.intersection ihb

/-! ## Collecting numbers -/

/-- Adds the component of a number; `none` if there is no word for it.  This is adding with a number
that is not known to be that of a component. -/
def insertAt? (s : ComponentSet) (index : Nat) : Option ComponentSet :=
  if (locate index).1 < s.words.length then
    some ⟨s.words.modify (locate index).1 (· ||| (locate index).2),
      (List.length_modify ..).trans s.length_words⟩
  else none

/-- The set of the components of some numbers. -/
def collect? (indices : List Nat) : Option ComponentSet := indices.foldlM insertAt? ∅

lemma insertAt?_val (s : ComponentSet) (c : ComponentId) :
    s.insertAt? c.val = some (s.insert c) := if_pos (s.locate_lt c)

/-- Numbers of components are collected into the set of these components. -/
lemma collect?_map_val (l : List ComponentId) : collect? (l.map Fin.val) = some (ofList l) := by
  -- on the list, for any set that has been collected so far
  have hfold : ∀ s : ComponentSet,
      (l.map Fin.val).foldlM insertAt? s = some (l.foldl insert s) := by
    induction l with
    | nil => exact fun s => rfl
    | cons c l ih =>
      intro s
      rw [List.map_cons, List.foldlM_cons, insertAt?_val, Option.bind_eq_bind, Option.bind_some, ih,
        List.foldl_cons]
  exact hfold ∅

/-- The numbers below the number of declarations of a schema are collected, because a schema has no
more declarations than the words have bits. -/
lemma exists_collect?_eq {defs : List ComponentDef} {schema : Schema}
    (h : Schema.build defs = .ok schema) {indices : List Nat}
    (hindices : ∀ index ∈ indices, index < defs.length) :
    ∃ s, collect? indices = some s ∧ ∀ c, s.contains c = true ↔ c.val ∈ indices := by
  have hlength : defs.length ≤ maxComponents := Schema.defs_of_build h ▸ schema.length_le
  have hbelow : ∀ index ∈ indices, index < maxComponents := fun index hindex =>
    Nat.lt_of_lt_of_le (hindices index hindex) hlength
  have hcomponents : (indices.pmap Fin.mk hbelow).map Fin.val = indices := by
    rw [List.map_pmap, List.pmap_eq_map, List.map_id']
  refine ⟨ofList (indices.pmap Fin.mk hbelow), ?_, fun c => ?_⟩
  · rw [← collect?_map_val, hcomponents]
  · rw [contains_ofList, ← List.mem_map_of_injective Fin.val_injective, hcomponents]

/-! ## The main statement -/

/-- Every pattern of bits comes about in some way. -/
lemma exists_build_eq (s : ComponentSet) : ∃ a : SetConstruction, a.build = s := by
  refine ⟨.ofList s.toList, ?_⟩
  ext c
  rw [Bool.eq_iff_iff, SetConstruction.build, contains_ofList, mem_toList]

/-- However two packed sets came about, they answer as the finite sets of their components do, and
the operations on them are those on finite sets.  The components of an entity are collected into
its component set without a number that has no word; a schema gives out no other numbers. -/
theorem packed_faithfully (a b : SetConstruction) :
    a.build.Represents a.members ∧
      (a.build.isSubset b.build = true ↔ a.members ⊆ b.members) ∧
      (a.build.isDisjoint b.build = true ↔ Disjoint a.members b.members) ∧
      (a.build = b.build ↔ a.members = b.members) ∧
      (a.build.union b.build).Represents (a.members ∪ b.members) ∧
      (a.build.intersection b.build).Represents (a.members ∩ b.members) ∧
      (∀ c, (a.build.insert c).Represents (Insert.insert c a.members) ∧
        (a.build.erase c).Represents (a.members.erase c)) ∧
      (∀ e : Entity, collect? (e.components.map Fin.val) = some e.componentSet ∧
        e.componentSet.Represents e.components.toFinset) ∧
      ∀ (defs : List ComponentDef) (schema : Schema), Schema.build defs = .ok schema →
        ∀ indices : List Nat, (∀ index ∈ indices, index < defs.length) →
          ∃ s, collect? indices = some s ∧ ∀ c, s.contains c = true ↔ c.val ∈ indices := by
  have ha := represents_build a
  have hb := represents_build b
  refine ⟨ha, ha.isSubset_iff hb, ha.isDisjoint_iff hb, ha.eq_iff hb, ha.union hb,
    ha.intersection hb, fun c => ⟨ha.insert c, ha.erase c⟩, fun e => ⟨?_, ?_⟩, ?_⟩
  · exact collect?_map_val e.components
  · exact Represents.ofList e.components
  · exact fun defs schema hbuild indices => exists_collect?_eq hbuild

/-- The last component of a word and the first of the next are told apart. -/
theorem packed_faithfully_across_words :
    let last : ComponentId := ⟨63, by decide⟩
    let a : SetConstruction := .insert (.ofList [last, ⟨255, by decide⟩]) ⟨64, by decide⟩
    let b : SetConstruction := .erase a last
    a.build.size = 3 ∧ b.build.isSubset a.build = true ∧ a.build.isSubset b.build = false ∧
      ∃ s, collect? [1, 0] = some s ∧ ∀ c, s.contains c = true ↔ c.val ∈ [1, 0] := by
  intro last a b
  obtain ⟨ha, hsub, -⟩ := packed_faithfully a b
  obtain ⟨-, hsub', -⟩ := packed_faithfully b a
  refine ⟨ha.size_eq.trans rfl, hsub'.mpr (by decide), ?_, ?_⟩
  · rw [← Bool.not_eq_true, hsub]
    decide
  · obtain ⟨-, -, -, -, -, -, -, -, hcollect⟩ := packed_faithfully a b
    exact hcollect [{ name := "p", default := .null }, { name := "q", default := .null }] _ rfl
      [1, 0] (by decide)

end ComponentSet

end SceneEngine
