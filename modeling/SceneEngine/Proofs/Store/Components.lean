import Mathlib.Data.List.Nodup
import Mathlib.Tactic.Common
import SceneEngine.Proofs.Attempts
import SceneEngine.Store.Query

/-!
# Components of sets, entities and queries

A component set is four words of bits, an entity is a list of slots, and a query is a pair of
component sets.  None of these forms is convenient to reason about, and no proof outside this module
should open them.  Here all three are described by the components that they have, through
`ComponentSet.contains` and `Entity.has`.

## Component sets

Every component has one bit in one word (`ComponentSet.exists_componentAt`,
`ComponentSet.componentAt_inj`), and masking a word with that bit looks it up.  From this come the
`contains` lemmas for the operations, all tagged for `simp`, and `ComponentSet.ext`: a set is known
by its components.  The two comparisons are made word by word and are brought to components by
`ComponentSet.isSubset_iff` and `ComponentSet.isDisjoint_iff`.  That the same operations also agree
with those of finite sets, with the cardinality and the order of iteration, is shown in
`Proofs/Store/PackedSets`.

## Entities and schemas

The slots of an entity are ascending, so a component stands in one slot at most
(`Entity.get?_eq_some_iff`).  Writing and erasing are described by what is read afterwards
(`Entity.get?_set`, `Entity.get?_erase`).  A schema finds its components by their names, and
different names stand for different components (`Schema.of_id?_eq_some`, `Schema.ne_of_id?`).

## Queries

`QuerySpec.resolve_eq_ok_iff` says when a specification resolves and to what, and
`Query.accepts_iff` says which entities a query accepts: those that have all it includes and nothing
that it excludes.
-/

namespace SceneEngine

/-! ## Component sets -/

namespace ComponentSet

variable {s t : ComponentSet} {c d : ComponentId} {i j : Fin wordCount} {bit bit' : Fin 64}

/-! ### Words and bits -/

/-- Where the bit of a component is found: the word by its index, and within it the mask of the bit.
-/
lemma locate_componentAt (i : Fin wordCount) (bit : Fin 64) :
    locate (componentAt i bit).val = (i.val, BitVec.twoPow 64 bit.val) := by
  have hi : (i.val * 64 + bit.val) / 64 = i.val := by omega
  have hbit : (i.val * 64 + bit.val) % 64 = bit.val := by omega
  rw [locate, componentAt, hi, hbit]

/-- Every component has a bit in some word.  Proofs about a component open it with this and go on
with its word and its bit. -/
lemma exists_componentAt (c : ComponentId) : ∃ i bit, c = componentAt i bit := by
  have hc : c.val < 256 := c.isLt
  refine ⟨⟨c.val / 64, by unfold wordCount; omega⟩, ⟨c.val % 64, by omega⟩, Fin.ext ?_⟩
  have hval : c.val = c.val / 64 * 64 + c.val % 64 := by omega
  exact hval

/-- Different components have different bits. -/
lemma componentAt_inj : componentAt i bit = componentAt j bit' ↔ i = j ∧ bit = bit' := by
  simp only [componentAt, Fin.ext_iff]
  omega

/-- Masking a word with a single bit looks that bit up. -/
lemma and_mask_ne_zero (w : BitVec 64) (bit : Fin 64) :
    (w &&& BitVec.twoPow 64 bit.val != 0) = w.getLsbD bit.val := by
  rw [BitVec.and_twoPow]
  cases hbit : w.getLsbD bit.val with
  | false => rfl
  | true =>
    have hone : (BitVec.twoPow 64 bit.val).getLsbD bit.val = true := by simp
    rw [if_pos rfl, bne_iff_ne]
    intro hzero
    rw [hzero] at hone
    simp at hone

@[simp] lemma contains_componentAt :
    s.contains (componentAt i bit) = (s.word i).getLsbD bit.val := by
  simp only [contains, locate_componentAt, and_mask_ne_zero]
  rfl

/-- A set is known by its words. -/
lemma ext_word (h : ∀ i, s.word i = t.word i) : s = t := by
  obtain ⟨words, hwords⟩ := s
  obtain ⟨words', hwords'⟩ := t
  rw [mk.injEq]
  refine List.ext_getElem (hwords.trans hwords'.symm) fun k hk _ => ?_
  exact h ⟨k, hwords ▸ hk⟩

/-- A set is known by its components. -/
@[ext] lemma ext (h : ∀ c, s.contains c = t.contains c) : s = t := by
  refine ext_word fun i => BitVec.eq_of_getLsbD_eq fun k hk => ?_
  simpa using h (componentAt i ⟨k, hk⟩)

@[simp] lemma word_empty : (∅ : ComponentSet).word i = 0 := List.getElem_replicate _

@[simp] lemma word_zipWith (f : BitVec 64 → BitVec 64 → BitVec 64) :
    (zipWith f s t).word i = f (s.word i) (t.word i) := by
  simp only [word, zipWith, List.get_eq_getElem, List.getElem_zipWith]

/-- Adding a component sets its bit in its word. -/
lemma word_insert : (s.insert (componentAt j bit)).word i =
    if j = i then s.word i ||| BitVec.twoPow 64 bit.val else s.word i := by
  simp only [word, insert, List.get_eq_getElem, List.getElem_modify,
    locate_componentAt, Fin.ext_iff]

/-- Removing a component clears its bit in its word. -/
lemma word_erase : (s.erase (componentAt j bit)).word i =
    if j = i then s.word i &&& ~~~(BitVec.twoPow 64 bit.val) else s.word i := by
  simp only [word, erase, List.get_eq_getElem, List.getElem_modify,
    locate_componentAt, Fin.ext_iff]

lemma getLsbD_mask : (BitVec.twoPow 64 bit.val).getLsbD bit'.val = decide (bit' = bit) := by
  rw [BitVec.getLsbD_twoPow]
  by_cases hbit : bit' = bit
  · simp [hbit]
  · simp [hbit, Fin.val_inj, Ne.symm hbit]

/-! ### Components -/

@[simp] lemma contains_empty : (∅ : ComponentSet).contains c = false := by
  obtain ⟨i, bit, rfl⟩ := exists_componentAt c
  rw [contains_componentAt, word_empty]
  exact BitVec.getLsbD_zero

@[simp] lemma contains_insert : (s.insert c).contains d = (decide (d = c) || s.contains d) := by
  obtain ⟨i, bit, rfl⟩ := exists_componentAt c
  obtain ⟨j, bit', rfl⟩ := exists_componentAt d
  rw [contains_componentAt, contains_componentAt, word_insert]
  by_cases hij : i = j
  · rw [if_pos hij, BitVec.getLsbD_or, getLsbD_mask, Bool.or_comm]
    simp only [componentAt_inj, hij, true_and]
  · rw [if_neg hij]
    simp [componentAt_inj, Ne.symm hij]

@[simp] lemma contains_erase : (s.erase c).contains d = (!decide (d = c) && s.contains d) := by
  obtain ⟨i, bit, rfl⟩ := exists_componentAt c
  obtain ⟨j, bit', rfl⟩ := exists_componentAt d
  rw [contains_componentAt, contains_componentAt, word_erase]
  by_cases hij : i = j
  · rw [if_pos hij, BitVec.getLsbD_and, BitVec.getLsbD_not, getLsbD_mask, Bool.and_comm]
    simp only [componentAt_inj, hij, true_and, bit'.isLt, decide_true, Bool.true_and]
  · rw [if_neg hij]
    simp [componentAt_inj, Ne.symm hij]

@[simp] lemma contains_union : (s.union t).contains c = (s.contains c || t.contains c) := by
  obtain ⟨i, bit, rfl⟩ := exists_componentAt c
  simp [union]

@[simp] lemma contains_intersection :
    (s.intersection t).contains c = (s.contains c && t.contains c) := by
  obtain ⟨i, bit, rfl⟩ := exists_componentAt c
  simp [intersection]

@[simp] lemma union_empty : s.union ∅ = s := by
  ext c
  simp

lemma contains_foldl_insert (l : List ComponentId) (s : ComponentSet) :
    (l.foldl insert s).contains c = true ↔ c ∈ l ∨ s.contains c = true := by
  induction l generalizing s with
  | nil => simp
  | cons a l ih =>
    rw [List.foldl_cons, ih, contains_insert]
    by_cases ha : c = a <;> simp [ha]

@[simp] lemma contains_ofList {l : List ComponentId} :
    (ofList l).contains c = true ↔ c ∈ l := by
  rw [ofList, contains_foldl_insert]
  exact or_iff_left (Bool.eq_false_iff.mp contains_empty)

@[simp] lemma mem_toList : c ∈ s.toList ↔ s.contains c = true := by
  obtain ⟨i, bit, rfl⟩ := exists_componentAt c
  simp only [toList, List.mem_flatMap, List.mem_finRange, true_and, List.mem_map, List.mem_filter,
    and_mask_ne_zero, componentAt_inj, contains_componentAt]
  simp

/-- Only one set is empty. -/
lemma isEmpty_iff : s.isEmpty = true ↔ s = ∅ := by
  rw [isEmpty, List.all_eq_true]
  constructor
  · intro h
    refine ext_word fun i => ?_
    rw [word_empty]
    exact eq_of_beq (h _ (List.getElem_mem _))
  · rintro rfl word hword
    exact beq_iff_eq.mpr (List.eq_of_mem_replicate hword)

@[simp] lemma isEmpty_union : (s.union t).isEmpty = (s.isEmpty && t.isEmpty) := by
  rw [Bool.eq_iff_iff, Bool.and_eq_true, isEmpty_iff, isEmpty_iff, isEmpty_iff]
  constructor
  · intro h
    have hnone : ∀ c, (s.contains c || t.contains c) = false := fun c => by
      rw [← contains_union, h, contains_empty]
    constructor
    · ext c
      rw [(Bool.or_eq_false_iff.mp (hnone c)).1, contains_empty]
    · ext c
      rw [(Bool.or_eq_false_iff.mp (hnone c)).2, contains_empty]
  · rintro ⟨rfl, rfl⟩
    exact union_empty

lemma isEmpty_singleton (c : ComponentId) : (ofList [c]).isEmpty = false := by
  rw [← Bool.not_eq_true, isEmpty_iff]
  intro h
  have hc : (ofList [c]).contains c = true := by simp
  simp [h] at hc

/-- Two sets are compared word by word: the first is a subset if nothing is left of it once the bits
of the second are cleared. -/
lemma isSubset_eq_isEmpty : s.isSubset t = (s.zipWith (fun a b => a &&& ~~~b) t).isEmpty := by
  have hwords : List.zipWith (fun a b => a &&& ~~~b) s.words t.words =
      (s.words.zip t.words).map fun pair => pair.1 &&& ~~~pair.2 := by
    rw [List.map_zip_eq_zipWith]
    rfl
  have hall : (List.zipWith (fun a b => a &&& ~~~b) s.words t.words).all (· == 0) =
      s.isSubset t := by
    rw [hwords, List.all_map]
    rfl
  exact hall.symm

lemma contains_difference :
    (s.zipWith (fun a b => a &&& ~~~b) t).contains c = (s.contains c && !t.contains c) := by
  obtain ⟨i, bit, rfl⟩ := exists_componentAt c
  simp

lemma isSubset_iff : s.isSubset t = true ↔ ∀ c, s.contains c = true → t.contains c = true := by
  rw [isSubset_eq_isEmpty, isEmpty_iff]
  constructor
  · intro h c hs
    have hc : (s.contains c && !t.contains c) = false := by
      rw [← contains_difference, h, contains_empty]
    simpa [hs] using hc
  · intro h
    ext c
    rw [contains_difference, contains_empty]
    by_cases hs : s.contains c = true
    · simp [h c hs]
    · simp [hs]

lemma isDisjoint_iff :
    s.isDisjoint t = true ↔ ∀ c, s.contains c = true → t.contains c = false := by
  rw [isDisjoint, isEmpty_iff]
  constructor
  · intro h c hs
    have hc : (s.intersection t).contains c = false := by rw [h, contains_empty]
    simpa [hs] using hc
  · intro h
    ext c
    rw [contains_intersection, contains_empty]
    by_cases hs : s.contains c = true
    · simp [h c hs]
    · simp [hs]

end ComponentSet

/-- A commit that lists a component as changed has an effect. -/
lemma Commit.isNoop_singleton (id : EntityId) (before? after? : Option Entity) (c : ComponentId) :
    Commit.isNoop ⟨id, before?, after?, .ofList [c]⟩ = false := by
  rw [isNoop, ComponentSet.isEmpty_singleton, Bool.false_and]

/-! ## Entities -/

namespace Entity

variable {e : Entity} {c d : ComponentId} {v : ComponentValue}

lemma mem_components : c ∈ e.components ↔ e.has c = true := by
  simp [components, has]

lemma get?_eq_none_iff : e.get? c = none ↔ e.has c = false := by
  simp [get?, has]

/-- A component that has a value is present. -/
lemma has_of_get? (h : e.get? c = some v) : e.has c = true := by
  rw [← Bool.not_eq_false, ← get?_eq_none_iff, h]
  exact Option.some_ne_none v

@[simp] lemma contains_componentSet : e.componentSet.contains c = e.has c := by
  rw [Bool.eq_iff_iff, componentSet, ComponentSet.contains_ofList, mem_components]

/-- Writing a component that is present leaves the list of components as it is.  The induction
follows the search for the place where the slot belongs. -/
lemma map_fst_insertSlot {slots : List Slot} (h : slots.Pairwise (·.1 < ·.1))
    (hc : c ∈ slots.map Prod.fst) : (insertSlot c v slots).map Prod.fst = slots.map Prod.fst := by
  induction slots with
  | nil => simp at hc
  | cons slot slots ih =>
    obtain ⟨d, w⟩ := slot
    obtain ⟨hd, hrest⟩ := List.pairwise_cons.mp h
    simp only [insertSlot]
    split
    next hcd =>
      -- a smaller component stands before all slots, so it cannot be among them
      rcases List.mem_cons.mp hc with hc | hc
      · exact absurd hcd (hc ▸ Nat.lt_irrefl _)
      · obtain ⟨s, hs, rfl⟩ := List.mem_map.mp hc
        exact absurd (hd s hs) (Nat.lt_asymm hcd)
    next hcd =>
      split
      next heq => simp [heq]
      next hne =>
        have hmem : c ∈ slots.map Prod.fst := (List.mem_cons.mp hc).resolve_left hne
        rw [List.map_cons, List.map_cons, ih hrest hmem]

lemma components_set (h : e.has c = true) : (e.set c v).components = e.components :=
  map_fst_insertSlot e.ascending (mem_components.mpr h)

lemma has_eq_isSome : e.has c = (e.get? c).isSome := by
  cases hget : e.get? c with
  | none => rw [get?_eq_none_iff.mp hget, Option.isSome_none]
  | some v => rw [has_of_get? hget, Option.isSome_some]

/-- A component stands in one slot, the one that is found. -/
lemma get?_eq_some_iff : e.get? c = some v ↔ (c, v) ∈ e.slots := by
  constructor
  · intro h
    obtain ⟨⟨d, w⟩, hfind, rfl⟩ := Option.map_eq_some_iff.mp h
    obtain rfl : d = c := by simpa using List.find?_some hfind
    exact List.mem_of_find?_eq_some hfind
  · intro h
    obtain ⟨slot, hfind⟩ : ∃ slot, e.slots.find? (·.1 == c) = some slot :=
      Option.isSome_iff_exists.mp (List.find?_isSome.mpr ⟨(c, v), h, beq_self_eq_true c⟩)
    -- the slots are ascending, so no two are of one component
    have hdistinct : (e.slots.map Prod.fst).Nodup :=
      List.pairwise_map.mpr (e.ascending.imp Fin.ne_of_lt)
    have hslot : slot = (c, v) := List.inj_on_of_nodup_map hdistinct
      (List.mem_of_find?_eq_some hfind) h (by simpa using List.find?_some hfind)
    rw [get?, hfind, hslot, Option.map_some]

/-- Inserting a slot is seen by a search for its component, and by no other search. -/
lemma find?_insertSlot (slots : List Slot) :
    (insertSlot c v slots).find? (·.1 == d) =
      if d = c then some (c, v) else slots.find? (·.1 == d) := by
  induction slots with
  | nil =>
    rw [insertSlot, List.find?_cons, List.find?_nil]
    by_cases hd : d = c
    · rw [if_pos hd, hd, beq_self_eq_true]
    · rw [if_neg hd, beq_eq_false_iff_ne.mpr (Ne.symm hd)]
  | cons slot slots ih =>
    obtain ⟨c', v'⟩ := slot
    simp only [insertSlot]
    split
    · rw [List.find?_cons]
      by_cases hd : d = c
      · rw [if_pos hd, hd, beq_self_eq_true]
      · rw [if_neg hd, beq_eq_false_iff_ne.mpr (Ne.symm hd)]
    · split
      next heq =>
        subst heq
        rw [List.find?_cons, List.find?_cons]
        by_cases hd : d = c
        · rw [if_pos hd, hd, beq_self_eq_true]
        · rw [if_neg hd, beq_eq_false_iff_ne.mpr (Ne.symm hd)]
      next hne =>
        rw [List.find?_cons, List.find?_cons, ih]
        by_cases hd : d = c
        · rw [if_pos hd, if_pos hd, hd, beq_eq_false_iff_ne.mpr (Ne.symm hne)]
        · rw [if_neg hd, if_neg hd]

/-- What components hold once one has been written. -/
lemma get?_set : (e.set c v).get? d = if d = c then some v else e.get? d := by
  rw [get?, set, find?_insertSlot]
  split
  · rfl
  · rfl

/-- What components hold once one has been taken away. -/
lemma get?_erase : (e.erase c).get? d = if d = c then none else e.get? d := by
  rw [get?, erase, List.find?_filter]
  split
  next heq =>
    subst heq
    rw [List.find?_eq_none.mpr (by simp), Option.map_none]
  next hne =>
    have hkeep : (fun slot : Slot => decide ((slot.1 != c) = true ∧ (slot.1 == d) = true)) =
        fun slot => slot.1 == d := by
      funext slot
      by_cases hd : slot.1 = d
      · simp [hd, hne]
      · simp [hd]
    rw [hkeep, get?]

lemma erase_of_not_has (h : e.has c = false) : e.erase c = e := by
  obtain ⟨id, slots, hascending⟩ := e
  have hslots : slots.filter (·.1 != c) = slots := by
    refine List.filter_eq_self.mpr fun slot hslot => ?_
    have hne := List.any_eq_false.mp h slot hslot
    simpa using hne
  rw [erase]
  simp only [hslots]

/-- Writing a component that is present makes none come or go. -/
lemma has_set (h : e.has c = true) : (e.set c v).has d = e.has d := by
  rw [Bool.eq_iff_iff, ← mem_components, ← mem_components, components_set h]

end Entity

/-! ## Schemas -/

namespace Schema

variable {schema : Schema} {name name' : String} {c c' : ComponentId}

/-- A schema has the declarations of which it was made. -/
lemma defs_of_build {defs : List ComponentDef}
    (h : Schema.build defs = .ok schema) : schema.defs = defs := by
  rw [Schema.build] at h
  split at h
  · split at h
    · cases h
    · obtain rfl := Except.ok.inj h
      rfl
  · cases h

/-- The component of a name is declared under it. -/
lemma of_id?_eq_some (h : schema.id? name = some c) :
    c.val < schema.size ∧ schema.name c = name := by
  have hname := List.find?_some h
  have hmem := List.mem_filter.mp (List.mem_of_find?_eq_some h)
  refine ⟨of_decide_eq_true hmem.2, ?_⟩
  rw [beq_iff_eq] at hname
  rw [Schema.name, Schema.def?, hname, Option.getD_some]

/-- Different names stand for different components. -/
lemma ne_of_id? (h : schema.id? name = some c) (h' : schema.id? name' = some c')
    (hne : name ≠ name') : c ≠ c' := by
  rintro rfl
  exact hne ((of_id?_eq_some h).2.symm.trans (of_id?_eq_some h').2)

end Schema

/-! ## Queries -/

/-- A specification is resolved when its names are and no component is left that is both included
and excluded.  The query then has the canonical name of its two sets, whatever the names were
written like. -/
lemma QuerySpec.resolve_eq_ok_iff {spec : QuerySpec} {schema : Schema} {query : Query} :
    spec.resolve schema = .ok query ↔
      ∃ includes excludes key?, spec.includes.mapM schema.lookup = .ok includes ∧
        spec.excludes.mapM schema.lookup = .ok excludes ∧
        spec.keyedBy?.mapM schema.lookup = .ok key? ∧
        ((ComponentSet.ofList includes).intersection (.ofList excludes)).toList = [] ∧
        query = ⟨Query.canonicalName schema (.ofList includes) (.ofList excludes),
          .ofList includes, .ofList excludes, key?⟩ := by
  constructor
  · intro h
    rw [resolve, bind_eq_ok_iff] at h
    obtain ⟨includes, hincludes, h⟩ := h
    obtain ⟨excludes, hexcludes, h⟩ := bind_eq_ok_iff.mp h
    dsimp only at h
    split at h
    · cases h
    next hnone =>
      obtain ⟨key?, hkey, h⟩ := bind_eq_ok_iff.mp h
      exact ⟨includes, excludes, key?, hincludes, hexcludes, hkey, hnone, (Except.ok.inj h).symm⟩
  · rintro ⟨includes, excludes, key?, hincludes, hexcludes, hkey, hnone, rfl⟩
    rw [resolve, hincludes, hexcludes, ok_bind, ok_bind]
    dsimp only
    rw [hnone, hkey]
    rfl

namespace Query

/-- A query accepts an entity that has all it includes and nothing it excludes. -/
lemma accepts_iff {query : Query} {e : Entity} :
    query.accepts e = true ↔
      (∀ c, query.includes.contains c = true → e.has c = true) ∧
        ∀ c, query.excludes.contains c = true → e.has c = false := by
  simp only [accepts, Bool.and_eq_true, ComponentSet.isSubset_iff, ComponentSet.isDisjoint_iff,
    Entity.contains_componentSet]

end Query

end SceneEngine
