import Mathlib.Data.List.Nodup
import Mathlib.Data.List.Perm.Basic
import SceneEngine.Proofs.Store.Components
import SceneEngine.Store.Slots

/-!
# Searched slots are the slots of an entity

The components of an entity stand in slots, in ascending order, and are found by halving.  The
search ends at the slot of the component, or at the place where it would have to be put, and
inserting, removing and changing in place work at that place.  This module shows that what they do
to the slots is what the operations of an entity do, which go through all slots.

## Searching

`Slots.narrow` halves the slots in question until one is left.  It looks neither at the slots behind
those in question, which stand behind the component, nor at those before, since the first in
question does not: this is the invariant of `Slots.isNearest_narrow`, and the induction follows the
halving.  The slot that is left is compared with the component, and `Slots.locates_search` says
where the search ends: `Slots.Locates` splits the slots into those before the component and those
behind it.

## Writing

With such a split, each operation is an equation on lists (`Slots.get?_eq`, `Slots.insert_eq`,
`Slots.remove_eq`, `Slots.modify?_eq`).  A sequence of writes then does to the slots what it does to
an entity (`Slots.written_eq`), and the slots stay ascending because those of an entity are.

## Finite maps

`Slots.IsFiniteMap` collects what is expected of a map from components to values: its slots are
ascending without repetition, a component holds what the last write to it left, writes leave other
components alone, and the results of removing and changing are right.  Entities that hold the same
have the same slots (`Entity.slots_eq_of_get?_eq`), so the slots are the only way to write the map
down.  The main result is `Slots.isFiniteMap_written`.
-/

namespace SceneEngine

namespace Slots

variable {slots front back : List Slot} {c : ComponentId} {v w : ComponentValue}

/-! ## Searching ascending slots -/

lemma getElem_mono (h : slots.Pairwise (·.1 < ·.1)) {i j : Nat} (hij : i ≤ j)
    (hj : j < slots.length) : slots[i].1 ≤ slots[j].1 := by
  rcases Nat.lt_or_eq_of_le hij with hlt | rfl
  · exact Fin.le_of_lt (List.pairwise_iff_getElem.mp h i j _ hj hlt)
  · exact Fin.le_refl _

/-- The slot is the last that does not stand behind the component, or the first of all. -/
structure IsNearest (slots : List Slot) (c : ComponentId) (i : Fin slots.length) : Prop where
  /-- It does not stand behind the component, unless it is the first, -/
  le : 0 < i.val → (slots.get i).1 ≤ c
  /-- and all that follow it do. -/
  behind : ∀ j (hj : j < slots.length), i.val < j → c < slots[j].1

/-- Halving ends at the nearest slot.  It needs to look neither at the slots behind those in
question, which stand behind the component, nor at those before, since the first in question does
not. -/
lemma isNearest_narrow (h : slots.Pairwise (·.1 < ·.1)) {base size : Nat} (hsize : 0 < size)
    (hbase : base + size ≤ slots.length)
    (hfirst : ∀ hlt : base < slots.length, 0 < base → slots[base].1 ≤ c)
    (hbehind : ∀ j (hj : j < slots.length), base + size ≤ j → c < slots[j].1) :
    IsNearest slots c (narrow slots c base size hsize hbase) := by
  fun_induction narrow slots c base size hsize hbase with
  | case1 base => exact ⟨hfirst _, fun j hj hlt => hbehind j hj hlt⟩
  | case2 base size hsize hbase hne hmiddle ih =>
    -- the slot in the middle stands behind the component, and so do all that follow it
    refine ih hfirst fun j hj hle => ?_
    have hafter : base + size / 2 ≤ j := by omega
    exact Fin.lt_of_lt_of_le hmiddle (getElem_mono h hafter hj)
  | case3 base size hsize hbase hne hmiddle ih =>
    refine ih (fun _ _ => Fin.not_lt.mp hmiddle) fun j hj hle => hbehind j hj ?_
    omega

/-- The place is that of a slot of the component, or one between slots, and what stands before it
stands before the component, and what stands behind it behind the component. -/
inductive Locates (c : ComponentId) (slots : List Slot) : Place slots.length → Prop
  /-- There is a slot of the component. -/
  | present {i : Fin slots.length} {front : List Slot} {v : ComponentValue} {back : List Slot}
    (hslots : slots = front ++ (c, v) :: back) (hi : i.val = front.length)
    (hfront : ∀ s ∈ front, s.1 < c) (hback : ∀ s ∈ back, c < s.1) : Locates c slots (.present i)
  /-- There is none, and this is where it would stand. -/
  | absent {i : Fin (slots.length + 1)} {front back : List Slot} (hslots : slots = front ++ back)
    (hi : i.val = front.length) (hfront : ∀ s ∈ front, s.1 < c) (hback : ∀ s ∈ back, c < s.1) :
    Locates c slots (.absent i)

lemma locates_placeAt (h : slots.Pairwise (·.1 < ·.1)) {i : Fin slots.length}
    (hi : IsNearest slots c i) : Locates c slots (placeAt slots c i) := by
  have hfront : ∀ s ∈ slots.take i, s.1 < c := by
    intro s hs
    obtain ⟨j, hj, rfl⟩ := List.mem_take_iff_getElem.mp hs
    have hlt : slots[j].1 < slots[i].1 := List.pairwise_iff_getElem.mp h j i _ i.isLt (by omega)
    exact Fin.lt_of_lt_of_le hlt (hi.le (by omega))
  have hback : ∀ s ∈ slots.drop (i + 1), c < s.1 := by
    intro s hs
    obtain ⟨j, hj, rfl⟩ := List.mem_drop_iff_getElem.mp hs
    exact hi.behind _ _ (by omega)
  have hdrop : slots.drop i = slots[i] :: slots.drop (i + 1) := List.drop_eq_getElem_cons i.isLt
  -- the nearest slot splits the list; it remains to see on which side of it the component belongs
  have hsplit : slots = slots.take i ++ slots[i] :: slots.drop (i + 1) := by
    rw [← hdrop, List.take_append_drop]
  have hlength : i.val = (slots.take i).length := by simp [Nat.le_of_lt i.isLt]
  rw [placeAt]
  split
  next heq => exact .present (by rwa [← heq]) hlength hfront hback
  next hne =>
    split
    next hlt =>
      have hsplit' : slots = (slots.take i ++ [slots[i]]) ++ slots.drop (i + 1) := by
        rwa [List.append_assoc, List.singleton_append]
      have hlength' : i.succ.val = (slots.take i ++ [slots[i]]).length := by
        rw [List.length_append, ← hlength, List.length_singleton, Fin.val_succ]
      refine .absent hsplit' hlength' ?_ hback
      exact List.forall_mem_append.mpr ⟨hfront, List.forall_mem_singleton.mpr hlt⟩
    next hge =>
      refine .absent hsplit hlength hfront (List.forall_mem_cons.mpr ⟨?_, hback⟩)
      exact Nat.lt_of_le_of_ne (Fin.not_lt.mp hge) fun heq => hne (Fin.ext heq.symm)

/-- The search ends at the slot of the component, or between the slots before it and those behind
it. -/
theorem locates_search (h : slots.Pairwise (·.1 < ·.1)) (c : ComponentId) :
    Locates c slots (search slots c) := by
  rw [search]
  split
  next hne =>
    refine locates_placeAt h (isNearest_narrow h hne _ (fun _ hpos => ?_) fun j hj hle => ?_)
    · exact absurd hpos (Nat.lt_irrefl 0)
    · rw [Nat.zero_add] at hle
      exact absurd hj (Nat.not_lt.mpr hle)
  next hempty =>
    have hsplit : slots = [] ++ [] := List.length_eq_zero_iff.mp (Nat.eq_zero_of_not_pos hempty)
    exact .absent hsplit rfl (List.forall_mem_nil _) (List.forall_mem_nil _)

/-! ## Slots before and behind a place -/

lemma modify_append (slot : Slot) (f : Slot → Slot) :
    (front ++ slot :: back).modify front.length f = front ++ f slot :: back := by
  rw [List.modify_eq_take_cons_drop (by simp)]
  simp

lemma insertIdx_append (slot : Slot) :
    (front ++ back).insertIdx front.length slot = front ++ slot :: back := by
  induction front with
  | nil => rfl
  | cons first front ih =>
    rw [List.cons_append, List.length_cons, List.insertIdx_succ_cons, ih, List.cons_append]

lemma eraseIdx_append (slot : Slot) :
    (front ++ slot :: back).eraseIdx front.length = front ++ back := by
  simp [List.eraseIdx_append_of_length_le]

lemma insertSlot_append (hfront : ∀ s ∈ front, s.1 < c) :
    insertSlot c v (front ++ back) = front ++ insertSlot c v back := by
  induction front with
  | nil => rfl
  | cons slot front ih =>
    obtain ⟨hslot, hfront⟩ := List.forall_mem_cons.mp hfront
    rw [List.cons_append, insertSlot, if_neg (Fin.lt_asymm hslot), if_neg (Fin.ne_of_gt hslot),
      ih hfront, List.cons_append]

lemma insertSlot_of_lt (hback : ∀ s ∈ back, c < s.1) : insertSlot c v back = (c, v) :: back := by
  cases back with
  | nil => rfl
  | cons slot back => rw [insertSlot, if_pos (hback slot List.mem_cons_self)]

lemma insertSlot_cons_self : insertSlot c v ((c, w) :: back) = (c, v) :: back := by
  rw [insertSlot, if_neg (Fin.lt_irrefl c), if_pos rfl]

lemma ne_of_mem_append (hfront : ∀ s ∈ front, s.1 < c) (hback : ∀ s ∈ back, c < s.1) {s : Slot}
    (hs : s ∈ front ++ back) : s.1 ≠ c := by
  rcases List.mem_append.mp hs with hs | hs
  · exact Fin.ne_of_lt (hfront s hs)
  · exact Fin.ne_of_gt (hback s hs)

lemma filter_append (hfront : ∀ s ∈ front, s.1 < c) (hback : ∀ s ∈ back, c < s.1) :
    (front ++ back).filter (·.1 != c) = front ++ back :=
  List.filter_eq_self.mpr fun _ hs => bne_iff_ne.mpr (ne_of_mem_append hfront hback hs)

lemma filter_append_cons (hfront : ∀ s ∈ front, s.1 < c) (hback : ∀ s ∈ back, c < s.1) :
    (front ++ (c, v) :: back).filter (·.1 != c) = front ++ back := by
  have hself : ¬((c, v).1 != c) = true := by simp
  rw [List.filter_append, List.filter_cons, if_neg hself, ← List.filter_append,
    filter_append hfront hback]

lemma find?_append (hfront : ∀ s ∈ front, s.1 < c) (hback : ∀ s ∈ back, c < s.1) :
    (front ++ back).find? (·.1 == c) = none :=
  List.find?_eq_none.mpr fun _ hs => by simpa using ne_of_mem_append hfront hback hs

lemma find?_append_cons (hfront : ∀ s ∈ front, s.1 < c) :
    (front ++ (c, v) :: back).find? (·.1 == c) = some (c, v) := by
  have hnone : front.find? (·.1 == c) = none :=
    List.find?_eq_none.mpr fun s hs => by simpa using Fin.ne_of_lt (hfront s hs)
  simp [hnone]

/-! ## Searching and writing -/

/-- Searching finds what going through all slots finds. -/
lemma get?_eq (h : slots.Pairwise (·.1 < ·.1)) (c : ComponentId) :
    get? slots c = (slots.find? (·.1 == c)).map Prod.snd := by
  have hplace := locates_search h c
  rw [get?]
  generalize search slots c = place at hplace ⊢
  cases hplace with
  | present hslots hi hfront _ =>
    subst hslots
    simp [hi, find?_append_cons hfront]
  | absent hslots _ hfront hback =>
    subst hslots
    rw [find?_append hfront hback]
    rfl

/-- A slot found is overwritten, and a new one put where the search ended, where it belongs. -/
lemma insert_eq (h : slots.Pairwise (·.1 < ·.1)) (c : ComponentId) (v : ComponentValue) :
    insert slots c v = insertSlot c v slots := by
  have hplace := locates_search h c
  rw [insert]
  generalize search slots c = place at hplace ⊢
  cases hplace with
  | present hslots hi hfront _ =>
    subst hslots
    dsimp only
    rw [hi, modify_append, insertSlot_append hfront, insertSlot_cons_self]
  | absent hslots hi hfront hback =>
    subst hslots
    dsimp only
    rw [hi, insertIdx_append, insertSlot_append hfront, insertSlot_of_lt hback]

/-- Removing gives what was held and leaves the other slots. -/
lemma remove_eq (h : slots.Pairwise (·.1 < ·.1)) (c : ComponentId) :
    remove slots c = (get? slots c, slots.filter (·.1 != c)) := by
  have hplace := locates_search h c
  rw [remove, get?]
  generalize search slots c = place at hplace ⊢
  cases hplace with
  | present hslots hi hfront hback =>
    subst hslots
    dsimp only
    rw [hi, eraseIdx_append, filter_append_cons hfront hback]
  | absent hslots _ hfront hback =>
    subst hslots
    dsimp only
    rw [filter_append hfront hback]

/-- Changing in place is overwriting, if there is something to change. -/
lemma modify?_eq (h : slots.Pairwise (·.1 < ·.1)) (c : ComponentId)
    (f : ComponentValue → ComponentValue) :
    modify? slots c f = (get? slots c).map fun v => insertSlot c (f v) slots := by
  have hplace := locates_search h c
  rw [modify?, get?]
  generalize search slots c = place at hplace ⊢
  cases hplace with
  | present hslots hi hfront _ =>
    subst hslots
    dsimp only
    rw [hi, modify_append, Option.map_some, insertSlot_append hfront, insertSlot_cons_self]
    simp [hi]
  | absent _ _ _ _ => rfl

end Slots

/-! ## Writes to entities -/

/-- What a component holds once it has been written, by what it held before. -/
def SlotWrite.outcome (held? : Option ComponentValue) : SlotWrite → Option ComponentValue
  | insert _ v => some v
  | remove _ => none
  | modify _ f => held?.map f

namespace Entity

variable {e e' : Entity} {c : ComponentId} {writes : List SlotWrite}

/-- What a write leaves of an entity. -/
def write (e : Entity) : SlotWrite → Entity
  | .insert c v => e.set c v
  | .remove c => e.erase c
  | .modify c f => (e.get? c).elim e fun v => e.set c (f v)

/-- A write changes what its component holds, and nothing else. -/
lemma get?_write (w : SlotWrite) :
    (e.write w).get? c = if c = w.component then w.outcome (e.get? c) else e.get? c := by
  cases w with
  | insert d v => exact get?_set
  | remove d => exact get?_erase
  | modify d f =>
    rw [write, SlotWrite.component, SlotWrite.outcome]
    cases hget : e.get? d with
    | none =>
      split
      next heq => rw [heq, Option.elim_none, hget, Option.map_none]
      · rfl
    | some v =>
      rw [Option.elim_some, get?_set]
      split
      next heq => rw [heq, hget, Option.map_some]
      · rfl

lemma get?_foldl_write (h : ∀ w ∈ writes, w.component ≠ c) :
    (writes.foldl write e).get? c = e.get? c := by
  induction writes generalizing e with
  | nil => rfl
  | cons w writes ih =>
    obtain ⟨hw, hwrites⟩ := List.forall_mem_cons.mp h
    rw [List.foldl_cons, ih hwrites, get?_write, if_neg (Ne.symm hw)]

/-- Entities that hold the same have the same slots: ascending lists with the same elements are
equal. -/
theorem slots_eq_of_get?_eq (h : ∀ c, e.get? c = e'.get? c) : e.slots = e'.slots := by
  have hnodup : ∀ e : Entity, e.slots.Nodup := fun e => e.ascending.imp fun hlt heq =>
    Fin.ne_of_lt hlt (congrArg Prod.fst heq)
  -- the slots are the same up to their order, and there is only one ascending order of them
  have hperm : e.slots.Perm e'.slots := by
    refine (List.perm_ext_iff_of_nodup (hnodup e) (hnodup e')).mpr fun ⟨c, v⟩ => ?_
    rw [← get?_eq_some_iff, ← get?_eq_some_iff, h]
  refine hperm.eq_of_pairwise (fun s s' _ _ hlt hgt => ?_) e.ascending e'.ascending
  exact absurd hlt (Fin.lt_asymm hgt)

end Entity

/-- Writing in place does to the slots of an entity what the write does to the entity. -/
lemma SlotWrite.perform_slots (e : Entity) (w : SlotWrite) :
    w.perform e.slots = (e.write w).slots := by
  cases w with
  | insert c v => exact Slots.insert_eq e.ascending c v
  | remove c => rw [perform, Slots.remove_eq e.ascending]; rfl
  | modify c f =>
    rw [perform, Slots.modify?_eq e.ascending, Slots.get?_eq e.ascending, ← Entity.get?,
      Entity.write]
    cases e.get? c with
    | none => rfl
    | some v => rfl

namespace Slots

lemma foldl_perform (e : Entity) (writes : List SlotWrite) :
    writes.foldl SlotWrite.perform e.slots = (writes.foldl Entity.write e).slots := by
  induction writes generalizing e with
  | nil => rfl
  | cons w writes ih => rw [List.foldl_cons, List.foldl_cons, SlotWrite.perform_slots, ih]

/-- The slots after writes are those of an entity after them, whatever its identifier. -/
lemma written_eq (id : EntityId) (writes : List SlotWrite) :
    written writes = (writes.foldl Entity.write (.bare id)).slots :=
  foldl_perform (.bare id) writes

lemma get?_written (id : EntityId) (writes : List SlotWrite) (c : ComponentId) :
    get? (written writes) c = (writes.foldl Entity.write (.bare id)).get? c := by
  rw [written_eq id, get?_eq (Entity.ascending _), Entity.get?]

/-- The slots after writes are a finite map from components to values, and the only way to write
it down. -/
structure IsFiniteMap (writes : List SlotWrite) : Prop where
  /-- The slots stand in order, -/
  ascending : (written writes).Pairwise (·.1 < ·.1)
  /-- and no component has two. -/
  nodup : ((written writes).map Prod.fst).Nodup
  /-- A component that was written holds what the last write to it left. -/
  last : ∀ before w after, writes = before ++ w :: after →
    (∀ w' ∈ after, w'.component ≠ w.component) →
      get? (written writes) w.component = w.outcome (get? (written before) w.component)
  /-- A component that was not written holds nothing. -/
  unwritten : ∀ c, (∀ w ∈ writes, w.component ≠ c) → get? (written writes) c = none
  /-- The next write changes what its component holds, and no other. -/
  others : ∀ (w : SlotWrite) c, c ≠ w.component →
    get? (w.perform (written writes)) c = get? (written writes) c
  /-- Removing gives back what was held. -/
  removed : ∀ c, (remove (written writes) c).1 = get? (written writes) c
  /-- What is not there cannot be changed. -/
  modified : ∀ c f, (modify? (written writes) c f).isSome = (get? (written writes) c).isSome
  /-- Writes that lead to the same values lead to the same slots. -/
  canonical : ∀ writes', (∀ c, get? (written writes') c = get? (written writes) c) →
    written writes' = written writes
  /-- The entity that is written has these slots, and looks them up in order. -/
  entity : ∀ id, (writes.foldl Entity.write (.bare id)).slots = written writes ∧
    ∀ c, (writes.foldl Entity.write (.bare id)).get? c = get? (written writes) c

/-- Writes in place make a finite map, whatever they are and in whatever order. -/
theorem isFiniteMap_written (writes : List SlotWrite) : IsFiniteMap writes := by
  have hslots := written_eq default
  have hget := get?_written default
  have hascending : (written writes).Pairwise (·.1 < ·.1) := hslots writes ▸ Entity.ascending _
  refine
    { ascending := hascending
      nodup := List.pairwise_map.mpr (hascending.imp Fin.ne_of_lt)
      last := ?_
      unwritten := ?_
      others := ?_
      removed := ?_
      modified := ?_
      canonical := ?_
      entity := ?_ }
  · rintro before w after rfl hafter
    rw [hget, hget, List.foldl_append, List.foldl_cons, Entity.get?_foldl_write hafter,
      Entity.get?_write, if_pos rfl]
  · intro c hc
    rw [hget, Entity.get?_foldl_write hc]
    rfl
  · intro w c hc
    have hnext : w.perform (written writes) = written (writes ++ [w]) := by
      rw [written, written, List.foldl_concat]
    rw [hnext, hget, hget, List.foldl_concat, Entity.get?_write, if_neg hc]
  · intro c
    rw [remove_eq hascending]
  · intro c f
    rw [modify?_eq hascending, Option.isSome_map]
  · intro writes' h
    rw [hslots, hslots]
    refine Entity.slots_eq_of_get?_eq fun c => ?_
    rw [← hget, ← hget, h]
  · exact fun id => ⟨(written_eq id writes).symm, fun c => (get?_written id writes c).symm⟩

/-- A component is given a value that then changes, and another is there for a while. -/
def passingWrites (c d : ComponentId) : List SlotWrite :=
  [.insert d (.bool true), .insert c .null, .modify d fun _ => .int 7, .remove c]

/-- The changed component holds the new value, the other nothing, and writing the new value at once
leads to the same slots. -/
theorem isFiniteMap_written_passingWrites :
    let writes := passingWrites ⟨1, by decide⟩ ⟨3, by decide⟩
    get? (written writes) ⟨3, by decide⟩ = some (.int 7) ∧
      get? (written writes) ⟨1, by decide⟩ = none ∧
      written [.insert ⟨3, by decide⟩ (.int 7)] = written writes := by
  intro writes
  have hmap := isFiniteMap_written writes
  have hgiven : get? (written (writes.take 2)) ⟨3, by decide⟩ = some (.bool true) :=
    (isFiniteMap_written (writes.take 2)).last [] (.insert ⟨3, by decide⟩ (.bool true))
      [.insert ⟨1, by decide⟩ .null] rfl (by simp [SlotWrite.component])
  have hchanged : get? (written writes) ⟨3, by decide⟩ = some (.int 7) := by
    have hlast := hmap.last (writes.take 2) (.modify ⟨3, by decide⟩ fun _ => .int 7)
      [.remove ⟨1, by decide⟩] rfl (by simp [SlotWrite.component])
    rwa [SlotWrite.component, hgiven] at hlast
  have hremoved : get? (written writes) ⟨1, by decide⟩ = none :=
    hmap.last (writes.take 3) (.remove ⟨1, by decide⟩) [] rfl (by simp)
  refine ⟨hchanged, hremoved, hmap.canonical _ fun c => ?_⟩
  have hsingle := isFiniteMap_written [.insert ⟨3, by decide⟩ (.int 7)]
  by_cases hc : c = ⟨3, by decide⟩
  · rw [hc, hchanged]
    exact hsingle.last [] _ [] rfl (by simp)
  · rw [hsingle.unwritten c (by simpa [SlotWrite.component] using Ne.symm hc)]
    by_cases hc' : c = ⟨1, by decide⟩
    · rw [hc', hremoved]
    · refine (hmap.unwritten c ?_).symm
      simp [writes, passingWrites, SlotWrite.component, Ne.symm hc, Ne.symm hc']

end Slots

end SceneEngine
