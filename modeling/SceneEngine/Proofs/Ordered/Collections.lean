import Mathlib.Data.List.Induction
import Mathlib.Data.List.Nodup
import SceneEngine.Ordered.Map
import SceneEngine.Ordered.Set

/-!
# Ordered collections as finite maps and sets

Ordered maps and sets list their entries in a certain order, which is the order in which they are
gone through.  Erasing moves an entry, so the order is not simply that of insertion.  None of this
matters for what they hold: every operation is described here by the values that it leaves under the
keys (`OrderedMap.get?`) and by the elements that it leaves (`∈`).

## Maps

A key has one value at most, the one that is listed with it (`OrderedMap.get?_eq_some_iff`).  For
each operation there is one equation for `get?`, and one for the keys where it is needed.  Most of
them are tagged for `simp`, so that a proof about a map of records goes on with a case distinction
on the key.  Two maps with the same values list the same entries in some order
(`OrderedMap.perm_entries`), and with the same keys in the same order they are equal
(`OrderedMap.eq_of_keys_eq`).

## Sets

Sets are treated in the same way by their elements.  Their order comes up where images are numbered
by it: elements that are present keep their positions (`OrderedSet.prefix_insert`), and a new one
comes behind all others (`OrderedSet.toList_insert`).

The first section has facts about lists that the rest of the library needs in several places.
-/

namespace SceneEngine

/-- Where an element stands in a list with one more element behind: it is the last one, or it stands
in the list before. -/
lemma append_singleton_eq_iff {α : Type} {l before after : List α} {a b : α} :
    l ++ [b] = before ++ a :: after ↔
      (after = [] ∧ l = before ∧ b = a) ∨
        ∃ after', after = after' ++ [b] ∧ l = before ++ a :: after' := by
  constructor
  · intro h
    induction after using List.reverseRecOn with
    | nil =>
      obtain ⟨hl, hb⟩ := List.append_inj' h rfl
      exact Or.inl ⟨rfl, hl, List.singleton_inj.mp hb⟩
    | append_singleton after c _ =>
      rw [← List.cons_append, ← List.append_assoc] at h
      obtain ⟨hl, hb⟩ := List.append_inj' h rfl
      exact Or.inr ⟨after, by rw [List.singleton_inj.mp hb], hl⟩
  · rintro (⟨rfl, rfl, rfl⟩ | ⟨after', rfl, rfl⟩)
    · rfl
    · simp

/-- Changing the elements at the places of distinct keys, one after another, changes each of them
once. -/
lemma getElem?_foldl_modify {α κ : Type} [DecidableEq κ] {place : κ → Nat}
    (hplace : Function.Injective place) (f : α → α) {keys : List κ} (hnodup : keys.Nodup)
    (l : List α) (k : κ) :
    (keys.foldl (fun l key => l.modify (place key) f) l)[place k]? =
      l[place k]?.map fun a => if keys.contains k then f a else a := by
  induction keys generalizing l with
  | nil => simp
  | cons key keys ih =>
    obtain ⟨hkey, hnodup⟩ := List.nodup_cons.mp hnodup
    rw [List.foldl_cons, ih hnodup, List.getElem?_modify]
    by_cases hk : key = k
    · subst hk
      simp [hkey, Function.comp_def]
    · have hne : place key ≠ place k := fun h => hk (hplace h)
      simp [hne, Ne.symm hk]

/-- Erasing by swapping takes away exactly the element of a given key, when keys are distinct. -/
lemma mem_swapErase_iff {α β : Type} [DecidableEq β] (f : α → β) {l : List α}
    (h : (l.map f).Nodup) {b : β} {x : α} :
    x ∈ swapErase (fun y => f y == b) l ↔ x ∈ l ∧ f x ≠ b := by
  rw [(swapErase_perm _ l).mem_iff]
  induction l with
  | nil => simp
  | cons a l ih =>
    obtain ⟨hnew, hl⟩ := List.nodup_cons.mp h
    by_cases ha : f a = b
    · -- the key is found here, so no later element has it
      have hrest : ∀ y ∈ l, f y ≠ b := by
        intro y hy hyb
        exact hnew (List.mem_map.mpr ⟨y, hy, hyb.trans ha.symm⟩)
      rw [List.eraseP_cons_of_pos (by simpa using ha)]
      constructor
      · intro hx
        exact ⟨List.mem_cons_of_mem _ hx, hrest x hx⟩
      · rintro ⟨hx, hxb⟩
        rcases List.mem_cons.mp hx with rfl | hx
        · exact absurd ha hxb
        · exact hx
    · rw [List.eraseP_cons_of_neg (by simpa using ha), List.mem_cons, ih hl, List.mem_cons]
      constructor
      · rintro (rfl | ⟨hx, hxb⟩)
        · exact ⟨Or.inl rfl, ha⟩
        · exact ⟨Or.inr hx, hxb⟩
      · rintro ⟨rfl | hx, hxb⟩
        · exact Or.inl rfl
        · exact Or.inr ⟨hx, hxb⟩

/-! ## Maps -/

namespace OrderedMap

variable {κ α β : Type} [DecidableEq κ] {m : OrderedMap κ α} {k k' : κ} {a : α}

/-- A key has one value at most: the one that is listed with it. -/
lemma get?_eq_some_iff : m.get? k = some a ↔ (k, a) ∈ m.entries := by
  constructor
  · intro h
    obtain ⟨⟨k', a'⟩, hfind, rfl⟩ := Option.map_eq_some_iff.mp h
    have hk : k' = k := by simpa using List.find?_some hfind
    exact hk ▸ List.mem_of_find?_eq_some hfind
  · intro h
    cases hfind : m.entries.find? (·.1 == k) with
    | none => exact absurd (List.find?_eq_none.mp hfind (k, a) h) (by simp)
    | some e =>
      have hk : e.1 = k := by simpa using List.find?_some hfind
      have he : e = (k, a) :=
        List.inj_on_of_nodup_map m.nodup (List.mem_of_find?_eq_some hfind) h hk
      simp [get?, hfind, he]

lemma mem_keys_iff : k ∈ m.keys ↔ ∃ a, m.get? k = some a := by
  simp only [get?_eq_some_iff, keys, List.mem_map]
  constructor
  · rintro ⟨⟨k', a⟩, h, rfl⟩
    exact ⟨a, h⟩
  · rintro ⟨a, h⟩
    exact ⟨(k, a), h, rfl⟩

lemma get?_eq_none_iff : m.get? k = none ↔ k ∉ m.keys := by
  rw [mem_keys_iff, Option.eq_none_iff_forall_ne_some, not_exists]

lemma mem_values_iff : a ∈ m.values ↔ ∃ k, m.get? k = some a := by
  simp only [get?_eq_some_iff, values, List.mem_map]
  constructor
  · rintro ⟨⟨k, a⟩, h, rfl⟩
    exact ⟨k, h⟩
  · rintro ⟨k, h⟩
    exact ⟨(k, a), h, rfl⟩

@[simp] lemma get?_mapValues (f : κ → α → β) :
    (m.mapValues f).get? k = (m.get? k).map (f k) := by
  apply Option.ext
  intro b
  simp only [get?_eq_some_iff, Option.map_eq_some_iff, mapValues, List.mem_map]
  constructor
  · rintro ⟨⟨k', a⟩, h, heq⟩
    obtain ⟨rfl, rfl⟩ := Prod.mk.inj heq
    exact ⟨a, h, rfl⟩
  · rintro ⟨a, h, rfl⟩
    exact ⟨(k, a), h, rfl⟩

lemma get?_modify (f : α → α) :
    (m.modify k f).get? k' = if k' = k then (m.get? k').map f else m.get? k' := by
  rw [modify, get?_mapValues]
  by_cases hk : k' = k
  · simp [hk]
  · simp [hk]

lemma modify_comm (m : OrderedMap κ α) (k k' : κ) (f : α → α) :
    (m.modify k f).modify k' f = (m.modify k' f).modify k f := by
  simp only [modify, mapValues, List.map_map, OrderedMap.mk.injEq]
  refine List.map_congr_left fun entry _ => ?_
  simp only [Function.comp_apply]
  split_ifs <;> rfl

lemma modify_modify (m : OrderedMap κ α) (k : κ) (f g : α → α) :
    (m.modify k f).modify k g = m.modify k (g ∘ f) := by
  simp only [modify, mapValues, List.map_map, OrderedMap.mk.injEq]
  refine List.map_congr_left fun entry _ => ?_
  simp only [Function.comp_apply]
  split_ifs <;> rfl

/-- Changing the value under a key is writing the changed value. -/
lemma modify_eq_insert (h : m.get? k = some a) (f : α → α) : m.modify k f = m.insert k (f a) := by
  rw [insert, dif_pos (mem_keys_iff.mpr ⟨a, h⟩)]
  simp only [modify, mapValues, OrderedMap.mk.injEq]
  refine List.map_congr_left fun entry hentry => ?_
  split
  next hk =>
    have hentry : m.get? k = some entry.2 := hk ▸ get?_eq_some_iff.mpr hentry
    rw [Option.some.inj (h.symm.trans hentry)]
  next => rfl

/-- Maps with the same values list the same entries, in some order. -/
lemma perm_entries {m' : OrderedMap κ α} (h : ∀ k, m.get? k = m'.get? k) :
    m.entries.Perm m'.entries := by
  refine (List.perm_ext_iff_of_nodup m.nodup.of_map m'.nodup.of_map).mpr fun (k, a) => ?_
  rw [← get?_eq_some_iff, ← get?_eq_some_iff, h]

/-- A map is known by its keys in their order and the values under them. -/
lemma eq_of_keys_eq {m' : OrderedMap κ α} (hkeys : m.keys = m'.keys)
    (h : ∀ k, m.get? k = m'.get? k) : m = m' := by
  have hentries : m.entries = m'.entries := by
    have hlength : m.entries.length = m'.entries.length := by
      simpa only [keys, List.length_map] using congrArg List.length hkeys
    refine List.ext_getElem hlength fun i hi hi' => ?_
    have hmem : m.entries[i] ∈ m'.entries :=
      get?_eq_some_iff.mp ((h _).symm.trans (get?_eq_some_iff.mpr (List.getElem_mem hi)))
    have hkey : m.entries[i].1 = m'.entries[i].1 := by
      have hlt : i < m.keys.length := by rwa [keys, List.length_map]
      simpa only [keys, List.getElem_map] using List.getElem_of_eq hkeys hlt
    exact List.inj_on_of_nodup_map m'.nodup hmem (List.getElem_mem hi') hkey
  cases m
  cases m'
  cases hentries
  rfl

lemma get?_push (h : k ∉ m.keys) :
    (m.push k a h).get? k' = if k' = k then some a else m.get? k' := by
  apply Option.ext
  intro b
  rw [get?_eq_some_iff, push, List.mem_append, List.mem_singleton, Prod.mk.injEq]
  by_cases hk : k' = k
  · subst hk
    have hfresh : (k', b) ∉ m.entries := fun hb => h (List.mem_map.mpr ⟨_, hb, rfl⟩)
    simp [hfresh, eq_comm]
  · simp [hk, get?_eq_some_iff]

omit [DecidableEq κ] in
lemma mem_values_push {b : α} (h : k ∉ m.keys) :
    b ∈ (m.push k a h).values ↔ b = a ∨ b ∈ m.values := by
  rw [values, push, List.map_append, List.mem_append, List.map_singleton, List.mem_singleton,
    or_comm]
  rfl

@[simp] lemma get?_insert :
    (m.insert k a).get? k' = if k' = k then some a else m.get? k' := by
  rw [insert]
  split
  next h =>
    obtain ⟨b, hb⟩ := mem_keys_iff.mp h
    rw [get?_modify]
    by_cases hk : k' = k
    · simp [hk, hb]
    · simp [hk]
  next h => exact get?_push h

lemma mem_keys_insert : k' ∈ (m.insert k a).keys ↔ k' = k ∨ k' ∈ m.keys := by
  rw [mem_keys_iff, mem_keys_iff, get?_insert]
  by_cases hk : k' = k
  · simp [hk]
  · simp [hk]

lemma get?_foldl_insert_of_notMem {l : List (κ × α)} (h : k ∉ l.map Prod.fst) :
    (l.foldl (fun m entry => m.insert entry.1 entry.2) m).get? k = m.get? k := by
  induction l generalizing m with
  | nil => rfl
  | cons entry l ih =>
    obtain ⟨hne, hl⟩ := not_or.mp (List.mem_cons.not.mp h)
    rw [List.foldl_cons, ih hl, get?_insert, if_neg hne]

/-- Of entries with different keys that are written one after another, each is found in the end. -/
lemma get?_foldl_insert_of_mem {l : List (κ × α)} (hnodup : (l.map Prod.fst).Nodup)
    (h : (k, a) ∈ l) : (l.foldl (fun m entry => m.insert entry.1 entry.2) m).get? k = some a := by
  induction l generalizing m with
  | nil => cases h
  | cons entry l ih =>
    obtain ⟨hnew, hnodup⟩ := List.nodup_cons.mp hnodup
    rw [List.foldl_cons]
    rcases List.mem_cons.mp h with rfl | h
    · rw [get?_foldl_insert_of_notMem hnew, get?_insert, if_pos rfl]
    · exact ih hnodup h

/-- A present key keeps its value. -/
lemma insertIfNew_of_mem (h : k ∈ m.keys) : m.insertIfNew k a = m := dif_pos h

lemma get?_insertIfNew :
    (m.insertIfNew k a).get? k' = if k' = k ∧ k ∉ m.keys then some a else m.get? k' := by
  rw [insertIfNew]
  split
  next h => rw [if_neg fun hboth => hboth.2 h]
  next h => simp only [get?_push h, h, not_false_eq_true, and_true]

lemma eq_or_mem_of_mem_insertIfNew {entry : κ × α} (h : entry ∈ (m.insertIfNew k a).entries) :
    entry = (k, a) ∨ entry ∈ m.entries := by
  rw [insertIfNew] at h
  split at h
  · exact .inr h
  · rw [push, List.mem_append, List.mem_singleton] at h
    exact h.symm

@[simp] lemma mem_keys_insertIfNew : k' ∈ (m.insertIfNew k a).keys ↔ k' = k ∨ k' ∈ m.keys := by
  rw [insertIfNew]
  split
  next h =>
    constructor
    · exact Or.inr
    · rintro (rfl | hk)
      · exact h
      · exact hk
  next h =>
    have hkeys : (m.push k a h).keys = m.keys ++ [k] := List.map_append
    rw [hkeys, List.mem_append, List.mem_singleton, or_comm]

@[simp] lemma get?_upsert (default : α) (f : α → α) :
    (m.upsert k default f).get? k' =
      if k' = k then some (f ((m.get? k).getD default)) else m.get? k' := by
  rw [upsert]
  split
  next h =>
    obtain ⟨b, hb⟩ := mem_keys_iff.mp h
    rw [get?_modify]
    by_cases hk : k' = k
    · simp [hk, hb]
    · simp [hk]
  next h => rw [get?_push h, get?_eq_none_iff.mpr h, Option.getD_none]

@[simp] lemma get?_erase : (m.erase k).get? k' = if k' = k then none else m.get? k' := by
  apply Option.ext
  intro b
  rw [get?_eq_some_iff, erase, mem_swapErase_iff Prod.fst m.nodup]
  by_cases hk : k' = k
  · simp [hk]
  · simp [hk, get?_eq_some_iff]

@[simp] lemma get?_filter (p : κ → α → Bool) :
    (m.filter p).get? k = (m.get? k).filter (p k) := by
  apply Option.ext
  intro b
  rw [get?_eq_some_iff, filter, List.mem_filter, Option.filter_eq_some_iff, get?_eq_some_iff]

end OrderedMap

/-! ## Sets -/

namespace OrderedSet

variable {α : Type} [DecidableEq α] {s : OrderedSet α} {a b : α}

omit [DecidableEq α] in
@[simp] lemma mem_toList : a ∈ s.toList ↔ a ∈ s := Iff.rfl

omit [DecidableEq α] in
@[simp] lemma notMem_empty : a ∉ (∅ : OrderedSet α) := List.not_mem_nil

@[simp] lemma mem_insert : b ∈ s.insert a ↔ b = a ∨ b ∈ s := by
  rw [insert]
  split
  next h =>
    constructor
    · exact Or.inr
    · rintro (rfl | hb)
      · exact h
      · exact hb
  next h =>
    rw [← mem_toList, List.mem_append, List.mem_singleton, mem_toList, or_comm]

@[simp] lemma mem_erase : b ∈ s.erase a ↔ b ∈ s ∧ b ≠ a :=
  mem_swapErase_iff id (by simpa using s.nodup)

/-- A new element comes behind all others. -/
lemma toList_insert (h : a ∉ s) : (s.insert a).toList = s.toList ++ [a] := by
  rw [insert, dif_neg (mt mem_toList.mp h)]

/-- Elements that are present keep their positions. -/
lemma prefix_insert (s : OrderedSet α) (a : α) : s.toList <+: (s.insert a).toList := by
  rw [insert]
  split
  · exact List.prefix_rfl
  · exact List.prefix_append _ _

lemma mem_foldl_insert (l : List α) (s : OrderedSet α) :
    b ∈ l.foldl insert s ↔ b ∈ l ∨ b ∈ s := by
  induction l generalizing s with
  | nil => simp
  | cons a l ih =>
    rw [List.foldl_cons, ih, mem_insert, List.mem_cons]
    tauto

lemma mem_insertMany {l : List α} : b ∈ s.insertMany l ↔ b ∈ l ∨ b ∈ s := mem_foldl_insert l s

/-- A list without repetitions stays as it is. -/
lemma toList_ofList {l : List α} (h : l.Nodup) : (ofList l).toList = l := by
  have hfold : ∀ (rest : List α) (s : OrderedSet α), (s.toList ++ rest).Nodup →
      (rest.foldl insert s).toList = s.toList ++ rest := by
    intro rest
    induction rest with
    | nil => exact fun s _ => (List.append_nil _).symm
    | cons a rest ih =>
      intro s hs
      have hnew : a ∉ s.toList :=
        fun ha => (List.nodup_append.mp hs).2.2 a ha a List.mem_cons_self rfl
      rw [List.foldl_cons, ih, toList_insert hnew, List.append_assoc, List.singleton_append]
      rwa [toList_insert hnew, List.append_assoc]
  exact hfold l ∅ h

@[simp] lemma mem_ofList {l : List α} : b ∈ ofList l ↔ b ∈ l := by
  rw [ofList, mem_foldl_insert]
  exact or_iff_left notMem_empty

end OrderedSet

end SceneEngine
