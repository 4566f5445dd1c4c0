import SceneEngine.Proofs.Store.Registering
import SceneEngine.Store.Edit

/-!
# Comparing slots in one pass

Registering a value in place does not look up components one by one.  It goes once through the new
slots and the old ones of the entity, side by side in ascending order, and on the way takes the
entity out of the index for what is gone, puts it in for what is new, notes what changed, and gives
every slot its version.  This module shows that the pass finds the same as looking up each component
would, for a well-formed record.

## How the pass is described

A component is decided when the pass goes by it.  What matters of the old slots are two questions:
whether there is one of a component (`Comparison.hasOld`), and which version a new slot keeps from
it (`Comparison.kept?`).  When the pass has taken a slot, the old slots that are left are those of
the components beyond it (`Comparison.old_take`), and for later slots both questions have the same
answers on these as on all (`Comparison.hasOld_beyond`, `Comparison.kept?_beyond`).  That is what
makes the induction over the new slots go through.

## What each step does

`Comparison.take_cases` is the case analysis: the next new slot meets the old one of its component,
or there is none and it is a gain.  Three lemmas derived from it say what a step makes of the index,
the changed components and the versions (`index_take`, `changed_take`, `versions_take`), and three
say it of a whole pass (`index_run`, `changed_run`, `versions_run`).  The index is described entry
by entry: `StoreState.moved` says what becomes of the holders of one component.

## Main results

`Comparison.versions_run_start`, `Comparison.index_run_start` and `Comparison.changed_run_start` say
what a pass finds when it starts from the record of an entity in a well-formed state.
`Proofs/Store/InPlace` uses them to show that committing in place yields the state that
`StoreState.register` describes.
-/

namespace SceneEngine

/-! ## Index entries -/

namespace StoreState

/-- What becomes of the holders of a component when an entity was among them, or not, and is among
them now, or not.  Where nothing moves the set is returned as it is, so its order stays. -/
def moved (id : EntityId) (was now : Bool) (holders : OrderedSet EntityId) : OrderedSet EntityId :=
  if was && !now then holders.erase id
  else if !was && now then holders.insert id
  else holders

/-- Reindexing moves the entity, component by component.  The lists of lost and gained components
need to be right and without repetition, and their order does not matter. -/
lemma getElem?_reindex (index : List (OrderedSet EntityId)) (id : EntityId)
    {lost gained : List ComponentId} (hlost : lost.Nodup) (hgained : gained.Nodup)
    {was now : ComponentId → Bool} (hmemlost : ∀ c, c ∈ lost ↔ was c = true ∧ now c = false)
    (hmemgained : ∀ c, c ∈ gained ↔ was c = false ∧ now c = true) (c : ComponentId) :
    (reindex index id lost gained)[c.val]? = index[c.val]?.map (moved id (was c) (now c)) := by
  rw [reindex, getElem?_foldl_modify (fun _ _ => Fin.ext) _ hgained,
    getElem?_foldl_modify (fun _ _ => Fin.ext) _ hlost, Option.map_map]
  congr 1
  funext holders
  cases hwas : was c <;> cases hnow : now c <;>
    simp [moved, hmemlost, hmemgained, hwas, hnow]

end StoreState

/-! ## One slot after another -/

namespace Comparison

open StoreState (moved)

variable {id : EntityId} {stamp : Nat} {comparison : Comparison} {slot : Slot}
  {old : List (Slot × Nat)} {c d : ComponentId}

/-- Whether there is an old slot of a component. -/
def hasOld (old : List (Slot × Nat)) (c : ComponentId) : Bool := old.any (·.1.1 == c)

/-- The version that a new slot keeps: the one of its old slot, if the value is no change.  None
means that the slot gets the version of the commit. -/
def kept? (old : List (Slot × Nat)) (slot : Slot) : Option Nat :=
  (old.find? (·.1.1 == slot.1)).bind fun o => if o.1.2.sameAs slot.2 then some o.2 else none

/-- What an ascending list of slots has before a component, and from it on.  With this the pass,
which splits the list where it stands, is described by filters. -/
lemma takeWhile_dropWhile_eq (h : old.Pairwise (·.1.1 < ·.1.1)) (c : ComponentId) :
    old.takeWhile (·.1.1 < c) = old.filter (·.1.1 < c) ∧
      old.dropWhile (·.1.1 < c) = old.filter (c ≤ ·.1.1) := by
  induction old with
  | nil => exact ⟨rfl, rfl⟩
  | cons o old ih =>
    obtain ⟨ho, hold⟩ := List.pairwise_cons.mp h
    by_cases hc : o.1.1 < c
    · have hnot : ¬c ≤ o.1.1 := Fin.not_le.mpr hc
      simpa [hc, hnot] using ih hold
    · -- from here on no slot is below the component
      have hle : c ≤ o.1.1 := Fin.not_lt.mp hc
      have hrest : ∀ o' ∈ old, c ≤ o'.1.1 := fun o' ho' =>
        Fin.le_trans hle (Fin.le_of_lt (ho o' ho'))
      have hbelow : old.filter (·.1.1 < c) = [] := by
        simpa using hrest
      have hall : old.filter (c ≤ ·.1.1) = old := by
        simpa using hrest
      simp [hc, hle, hbelow, hall]

/-- An ascending list of slots has one of a component, or goes past it.  In the first case the slot
is the next one, and what comes after it is beyond the component. -/
lemma filter_le_cases (h : old.Pairwise (·.1.1 < ·.1.1)) (c : ComponentId) :
    (∃ o, old.filter (c ≤ ·.1.1) = o :: old.filter (c < ·.1.1) ∧ o.1.1 = c ∧
      old.find? (·.1.1 == c) = some o) ∨
    (old.filter (c ≤ ·.1.1) = old.filter (c < ·.1.1) ∧ old.find? (·.1.1 == c) = none) := by
  induction old with
  | nil => exact Or.inr ⟨rfl, rfl⟩
  | cons o old ih =>
    obtain ⟨ho, hold⟩ := List.pairwise_cons.mp h
    -- the first slot is before the component, the one of it, or already beyond
    rcases Nat.lt_trichotomy o.1.1.val c.val with hc | hc | hc
    · have hle : ¬c ≤ o.1.1 := Nat.not_le.mpr hc
      have hlt : ¬c < o.1.1 := Nat.not_lt.mpr (Nat.le_of_lt hc)
      have hne : o.1.1 ≠ c := Fin.ne_of_lt hc
      simpa [hle, hlt, hne] using ih hold
    · -- the slot of the component, and all others come after it
      obtain rfl : o.1.1 = c := Fin.ext hc
      have hle : ∀ o' ∈ old, o.1.1 ≤ o'.1.1 := fun o' ho' => Fin.le_of_lt (ho o' ho')
      have hfrom : old.filter (o.1.1 ≤ ·.1.1) = old := by simpa using hle
      have hbeyond : old.filter (o.1.1 < ·.1.1) = old := by simpa using ho
      exact Or.inl ⟨o, by simp [hfrom, hbeyond], rfl, by simp⟩
    · have hgt : ∀ o' ∈ o :: old, c < o'.1.1 := by
        intro o' ho'
        rcases List.mem_cons.mp ho' with rfl | ho'
        · exact hc
        · exact Fin.lt_trans hc (ho o' ho')
      have hfrom : (o :: old).filter (c ≤ ·.1.1) = o :: old :=
        List.filter_eq_self.mpr fun o' ho' => by simpa using Fin.le_of_lt (hgt o' ho')
      have hbeyond : (o :: old).filter (c < ·.1.1) = o :: old :=
        List.filter_eq_self.mpr fun o' ho' => by simpa using hgt o' ho'
      refine Or.inr ⟨hfrom.trans hbeyond.symm, List.find?_eq_none.mpr fun o' ho' => ?_⟩
      simpa using Fin.ne_of_gt (hgt o' ho')

lemma hasOld_iff : hasOld old c = true ↔ c ∈ old.map (·.1.1) := by
  simp [hasOld]

lemma hasOld_eq_contains : hasOld old c = (old.map (·.1.1)).contains c := by
  rw [Bool.eq_iff_iff, hasOld_iff, List.contains_iff_mem]

lemma hasOld_eq_isSome_find? : hasOld old c = (old.find? (·.1.1 == c)).isSome := by
  rw [Bool.eq_iff_iff, List.find?_isSome, hasOld, List.any_eq_true]

/-- What is beyond a component has the slots of the components after it, and no others. -/
lemma hasOld_beyond : hasOld (old.filter (c < ·.1.1)) d = (decide (c < d) && hasOld old d) := by
  rw [Bool.eq_iff_iff, Bool.and_eq_true, hasOld_iff, hasOld_iff, decide_eq_true_iff]
  simp only [List.mem_map, List.mem_filter, decide_eq_true_iff]
  constructor
  · rintro ⟨o, ⟨ho, hc⟩, rfl⟩
    exact ⟨hc, o, ho, rfl⟩
  · rintro ⟨hc, o, ho, rfl⟩
    exact ⟨o, ⟨ho, hc⟩, rfl⟩

/-- A slot after a component finds its old one beyond it, so dropping what the pass has gone by
makes no difference to it. -/
lemma kept?_beyond (hslot : c < slot.1) :
    kept? (old.filter (c < ·.1.1)) slot = kept? old slot := by
  have hfind : (old.filter (c < ·.1.1)).find? (·.1.1 == slot.1) = old.find? (·.1.1 == slot.1) := by
    rw [List.find?_filter]
    congr 1
    funext o
    by_cases ho : o.1.1 = slot.1 <;> simp [ho, hslot]
  rw [kept?, hfind, kept?]

/-! ## What each step does -/

/-- Losing components takes the entity out of the holders of each of them. -/
lemma index_lose {components : List ComponentId} (hnodup : components.Nodup) :
    (comparison.lose id components).index[d.val]? =
      comparison.index[d.val]?.map (moved id (components.contains d) false) := by
  rw [lose, getElem?_foldl_modify (fun _ _ => Fin.ext) _ hnodup]
  congr 1
  funext holders
  by_cases hd : d ∈ components <;> simp [moved, hd]

lemma changed_lose {components : List ComponentId} :
    (comparison.lose id components).changed.contains d =
      (comparison.changed.contains d || components.contains d) := by
  rw [Bool.eq_iff_iff, lose, ComponentSet.contains_foldl_insert]
  simp [or_comm]

lemma nodup_components (h : old.Pairwise (·.1.1 < ·.1.1)) : (old.map (·.1.1)).Nodup :=
  List.pairwise_map.mpr (h.imp Fin.ne_of_lt)

lemma contains_components_below :
    ((old.filter (·.1.1 < c)).map (·.1.1)).contains d = (hasOld old d && decide (d < c)) := by
  rw [Bool.eq_iff_iff, List.contains_iff_mem, Bool.and_eq_true, hasOld_iff, decide_eq_true_iff]
  simp only [List.mem_map, List.mem_filter, decide_eq_true_iff]
  constructor
  · rintro ⟨o, ⟨ho, hc⟩, rfl⟩
    exact ⟨⟨o, ho, rfl⟩, hc⟩
  · rintro ⟨⟨o, ho, rfl⟩, hc⟩
    exact ⟨o, ⟨ho, hc⟩, rfl⟩

/-- Going on to a component leaves the old slots from it on. -/
lemma old_advanceTo (id : EntityId) (h : comparison.old.Pairwise (·.1.1 < ·.1.1))
    (c : ComponentId) :
    (comparison.advanceTo id c).old = comparison.old.filter (c ≤ ·.1.1) :=
  (takeWhile_dropWhile_eq h c).2

/-- The entity goes from the holders of the components in between: they have an old slot and, the
new ones being ascending, no new one. -/
lemma index_advanceTo (id : EntityId) (h : comparison.old.Pairwise (·.1.1 < ·.1.1))
    (c d : ComponentId) :
    (comparison.advanceTo id c).index[d.val]? = comparison.index[d.val]?.map
      (moved id (hasOld comparison.old d && decide (d < c)) false) := by
  simp only [advanceTo, (takeWhile_dropWhile_eq h c).1]
  rw [index_lose (nodup_components (h.filter _)), contains_components_below]

/-- The components in between have changed. -/
lemma changed_advanceTo (id : EntityId) (h : comparison.old.Pairwise (·.1.1 < ·.1.1))
    (c d : ComponentId) :
    (comparison.advanceTo id c).changed.contains d =
      (comparison.changed.contains d || (hasOld comparison.old d && decide (d < c))) := by
  simp only [advanceTo, (takeWhile_dropWhile_eq h c).1]
  rw [changed_lose, contains_components_below]

/-- A slot whose component is not among the old ones is a gain. -/
lemma meet_of_new (h : ∀ o ∈ comparison.old, o.1.1 ≠ slot.1) :
    comparison.meet id stamp slot = comparison.gain id stamp slot.1 := by
  rw [meet]
  split
  · rfl
  next c value version rest hrest =>
    have hc : c ≠ slot.1 := h ((c, value), version) (hrest ▸ List.mem_cons_self)
    rw [if_neg hc]

/-- The next new slot meets the old one of its component, or there is none and it is a gain.  In
both cases the pass first advances to the component and loses what is in between. -/
lemma take_cases (id : EntityId) (stamp : Nat) (h : comparison.old.Pairwise (·.1.1 < ·.1.1))
    (slot : Slot) :
    (∃ o, comparison.old.find? (·.1.1 == slot.1) = some o ∧
      comparison.take id stamp slot =
        { comparison.advanceTo id slot.1 with
          old := comparison.old.filter (slot.1 < ·.1.1)
          changed := if o.1.2.sameAs slot.2 then (comparison.advanceTo id slot.1).changed
            else (comparison.advanceTo id slot.1).changed.insert slot.1
          versions := comparison.versions ++
            [(slot.1, if o.1.2.sameAs slot.2 then o.2 else stamp)] }) ∨
    (comparison.old.find? (·.1.1 == slot.1) = none ∧
      comparison.take id stamp slot =
        { (comparison.advanceTo id slot.1).gain id stamp slot.1 with
          old := comparison.old.filter (slot.1 < ·.1.1) }) := by
  have hold := old_advanceTo id h slot.1
  rw [take]
  rcases filter_le_cases h slot.1 with ⟨o, hfrom, ho, hfind⟩ | ⟨hfrom, hfind⟩
  · refine .inl ⟨o, hfind, ?_⟩
    simp only [meet, hold, hfrom, if_pos ho]
    split
    · rfl
    · rfl
  · -- what comes next, if anything does, is of a component further on
    have hnew : ∀ o ∈ (comparison.advanceTo id slot.1).old, o.1.1 ≠ slot.1 := by
      intro o ho
      rw [hold] at ho
      simpa using List.find?_eq_none.mp hfind o (List.mem_filter.mp ho).1
    rw [meet_of_new hnew, ← hfrom, ← hold]
    exact .inr ⟨hfind, rfl⟩

lemma old_take (id : EntityId) (stamp : Nat) (h : comparison.old.Pairwise (·.1.1 < ·.1.1))
    (slot : Slot) :
    (comparison.take id stamp slot).old = comparison.old.filter (slot.1 < ·.1.1) := by
  rcases take_cases id stamp h slot with ⟨o, -, htake⟩ | ⟨-, htake⟩
  · rw [htake]
  · rw [htake]

lemma versions_take (h : comparison.old.Pairwise (·.1.1 < ·.1.1)) (slot : Slot) :
    (comparison.take id stamp slot).versions =
      comparison.versions ++ [(slot.1, (kept? comparison.old slot).getD stamp)] := by
  rw [kept?]
  rcases take_cases id stamp h slot with ⟨o, hfind, htake⟩ | ⟨hfind, htake⟩
  · rw [htake, hfind, Option.bind_some]
    dsimp only
    split
    · rfl
    · rfl
  · rw [htake, hfind]
    rfl

/-- The entity goes from the holders of the components before the slot, and is then among those of
the component of the slot. -/
lemma index_take (h : comparison.old.Pairwise (·.1.1 < ·.1.1)) (slot : Slot) (d : ComponentId) :
    (comparison.take id stamp slot).index[d.val]? = comparison.index[d.val]?.map
      (moved id (hasOld comparison.old d && decide (d ≤ slot.1)) (decide (d = slot.1))) := by
  have hindex := index_advanceTo id h slot.1 d
  -- before the slot and at it are the two ways not to be beyond it
  have hbefore : d ≠ slot.1 → (d ≤ slot.1 ↔ d < slot.1) := fun hd =>
    ⟨fun hle => Nat.lt_of_le_of_ne hle fun h => hd (Fin.ext h), Fin.le_of_lt⟩
  rcases take_cases id stamp h slot with ⟨o, hfind, htake⟩ | ⟨hfind, htake⟩
  · rw [htake, hindex]
    congr 1
    funext holders
    by_cases hd : d = slot.1
    · have hhas : hasOld comparison.old slot.1 = true := by
        rw [hasOld_eq_isSome_find?, hfind, Option.isSome_some]
      simp [hd, moved, hhas]
    · simp [hd, hbefore hd]
  · rw [htake]
    dsimp only [gain]
    rw [List.getElem?_modify, hindex]
    by_cases hd : d = slot.1
    · have hnot : hasOld comparison.old slot.1 = false := by
        rw [hasOld_eq_isSome_find?, hfind, Option.isSome_none]
      have hmoved : moved id false true = (·.insert id) := rfl
      simp [hd, hnot, Option.map_map, Function.comp_def, moved, hmoved]
    · have hval : slot.1.val ≠ d.val := fun h => hd (Fin.ext h.symm)
      simp [hd, hval, hbefore hd]

lemma changed_take (h : comparison.old.Pairwise (·.1.1 < ·.1.1)) (slot : Slot) (d : ComponentId) :
    (comparison.take id stamp slot).changed.contains d =
      (comparison.changed.contains d || (hasOld comparison.old d && decide (d < slot.1)) ||
        (decide (d = slot.1) && (kept? comparison.old slot).isNone)) := by
  have hchanged := changed_advanceTo id h slot.1 d
  rw [kept?, ← hchanged]
  rcases take_cases id stamp h slot with ⟨o, hfind, htake⟩ | ⟨hfind, htake⟩
  · rw [htake, hfind, Option.bind_some]
    dsimp only
    split
    · simp
    · rw [ComponentSet.contains_insert]
      simp [Bool.or_comm]
  · rw [htake, hfind, Option.bind_none]
    dsimp only [gain]
    rw [ComponentSet.contains_insert]
    simp [Bool.or_comm]

/-! ## What the whole comparison finds -/

/-- The components of a list of ascending slots that is left come after the ones before, so none of
those is found in it. -/
lemma any_eq_false_of_le {slots : List Slot} (hslot : ∀ s ∈ slots, c < s.1) (hd : d ≤ c)
    (p : Slot → Bool) : (slots.any fun s => s.1 == d && p s) = false := by
  refine List.any_eq_false.mpr fun s hs => ?_
  rw [Bool.and_eq_true, beq_iff_eq]
  rintro ⟨rfl, -⟩
  exact Fin.not_lt.mpr hd (hslot s hs)

/-- A pass appends one version for each new slot, in their order: the kept one, or that of the
commit. -/
lemma versions_run {slots : List Slot} (hnew : slots.Pairwise (·.1 < ·.1))
    (hold : comparison.old.Pairwise (·.1.1 < ·.1.1)) :
    (comparison.run id stamp slots).versions = comparison.versions ++
      slots.map fun slot => (slot.1, (kept? comparison.old slot).getD stamp) := by
  induction slots generalizing comparison with
  | nil => simp [run, finish, lose]
  | cons slot slots ih =>
    obtain ⟨hslot, hnew⟩ := List.pairwise_cons.mp hnew
    have hcons : comparison.run id stamp (slot :: slots) =
        (comparison.take id stamp slot).run id stamp slots := rfl
    have hrest := old_take id stamp hold slot
    rw [hcons, ih hnew (hrest ▸ hold.filter _), versions_take hold, List.map_cons,
      List.append_assoc, List.singleton_append]
    -- the new slots that are left look for old ones beyond this one
    congr 2
    exact List.map_congr_left fun s hs => by rw [hrest, kept?_beyond (hslot s hs)]

/-- Moving the entity before a component and beyond it.  A step has settled the components up to the
one of its slot, and the rest of the pass does nothing more to them. -/
lemma moved_beyond {has now : Bool} (hnow : d ≤ c → now = false)
    (holders : OrderedSet EntityId) :
    moved id (decide (c < d) && has) now
        (moved id (has && decide (d ≤ c)) (decide (d = c)) holders) =
      moved id has (decide (d = c) || now) holders := by
  rcases Nat.lt_trichotomy d.val c.val with hd | hd | hd
  · have hle : d ≤ c := Fin.le_of_lt hd
    simp [hnow hle, hle, Fin.ne_of_lt hd, Fin.not_lt.mpr hle, moved]
  · obtain rfl : d = c := Fin.ext hd
    simp [hnow (Fin.le_refl _), moved]
  · have hlt : c < d := hd
    simp [hlt, Fin.not_le.mpr hlt, Fin.ne_of_gt hlt, moved]

/-- A pass moves the entity, for each component, from whether there was an old slot to whether there
is a new one. -/
lemma index_run {slots : List Slot} (hnew : slots.Pairwise (·.1 < ·.1))
    (hold : comparison.old.Pairwise (·.1.1 < ·.1.1)) (d : ComponentId) :
    (comparison.run id stamp slots).index[d.val]? = comparison.index[d.val]?.map
      (moved id (hasOld comparison.old d) (slots.any (·.1 == d))) := by
  induction slots generalizing comparison with
  | nil =>
    simp only [run, List.foldl_nil, finish]
    rw [index_lose (nodup_components hold), ← hasOld_eq_contains, List.any_nil]
  | cons slot slots ih =>
    obtain ⟨hslot, hnew⟩ := List.pairwise_cons.mp hnew
    have hcons : comparison.run id stamp (slot :: slots) =
        (comparison.take id stamp slot).run id stamp slots := rfl
    have hrest := old_take id stamp hold slot
    have hnow : d ≤ slot.1 → slots.any (·.1 == d) = false := fun hd => by
      simpa using any_eq_false_of_le hslot hd fun _ => true
    rw [hcons, ih hnew (hrest ▸ hold.filter _), index_take hold, Option.map_map, hrest,
      hasOld_beyond, List.any_cons]
    congr 1
    funext holders
    have hslot : (slot.1 == d) = decide (d = slot.1) := by
      rw [Bool.eq_iff_iff, beq_iff_eq, decide_eq_true_iff, eq_comm]
    rw [Function.comp_apply, moved_beyond hnow, hslot]

/-- A component has changed if it had an old slot and has no new one, or has a new one that keeps no
version. -/
lemma changed_run {slots : List Slot} (hnew : slots.Pairwise (·.1 < ·.1))
    (hold : comparison.old.Pairwise (·.1.1 < ·.1.1)) (d : ComponentId) :
    (comparison.run id stamp slots).changed.contains d =
      (comparison.changed.contains d || (hasOld comparison.old d && !slots.any (·.1 == d)) ||
        slots.any fun slot => slot.1 == d && (kept? comparison.old slot).isNone) := by
  induction slots generalizing comparison with
  | nil =>
    simp only [run, List.foldl_nil, finish]
    rw [changed_lose, ← hasOld_eq_contains]
    simp
  | cons slot slots ih =>
    obtain ⟨hslot, hnew⟩ := List.pairwise_cons.mp hnew
    have hcons : comparison.run id stamp (slot :: slots) =
        (comparison.take id stamp slot).run id stamp slots := rfl
    have hrest := old_take id stamp hold slot
    have hnow : d ≤ slot.1 → slots.any (·.1 == d) = false := fun hd => by
      simpa using any_eq_false_of_le hslot hd fun _ => true
    have hwritten : (slots.any fun s =>
          s.1 == d && (kept? (comparison.take id stamp slot).old s).isNone) =
        slots.any fun s => s.1 == d && (kept? comparison.old s).isNone := by
      rw [Bool.eq_iff_iff, List.any_eq_true, List.any_eq_true]
      refine exists_congr fun s => and_congr_right fun hs => ?_
      rw [hrest, kept?_beyond (hslot s hs)]
    rw [hcons, ih hnew (hrest ▸ hold.filter _), hwritten, changed_take hold, hrest, hasOld_beyond,
      List.any_cons, List.any_cons]
    -- before the slot only losses count, at the slot only what it keeps, beyond it the rest of the
    -- pass
    rcases Nat.lt_trichotomy d.val slot.1.val with hd | hd | hd
    · have hle : d ≤ slot.1 := Fin.le_of_lt hd
      rw [hnow hle, beq_eq_false_iff_ne.mpr (Fin.ne_of_gt hd)]
      simp [Fin.ne_of_lt hd, Fin.not_lt.mpr hle, Fin.lt_def, hd]
    · obtain rfl : d = slot.1 := Fin.ext hd
      rw [hnow (Fin.le_refl _)]
      simp [Bool.or_assoc]
    · have hlt : slot.1 < d := hd
      rw [beq_eq_false_iff_ne.mpr (Fin.ne_of_lt hlt)]
      simp [hlt, Fin.not_lt.mpr (Fin.le_of_lt hlt), Fin.ne_of_gt hlt]

lemma length_index_take (slot : Slot) :
    (comparison.take id stamp slot).index.length = comparison.index.length := by
  have hadvance : (comparison.advanceTo id slot.1).index.length = comparison.index.length :=
    StoreState.length_foldl_modify _ _ _
  rw [take, meet, ← hadvance]
  split
  · exact List.length_modify _ _ _
  · split
    · split <;> rfl
    · exact List.length_modify _ _ _

lemma length_index_run (slots : List Slot) :
    (comparison.run id stamp slots).index.length = comparison.index.length := by
  induction slots generalizing comparison with
  | nil => exact StoreState.length_foldl_modify _ _ _
  | cons slot slots ih => exact ih.trans (length_index_take slot)

end Comparison

/-! ## Records -/

namespace EntityRecord

variable {record : EntityRecord} {schema : Schema} {version : Nat} {id : EntityId}

/-- Looking for a key in two lists with the same keys, side by side. -/
lemma find?_zip {slots : List Slot} {versions : List (ComponentId × Nat)}
    (h : versions.map Prod.fst = slots.map Prod.fst) (c : ComponentId) :
    (slots.zip (versions.map Prod.snd)).find? (·.1.1 == c) =
      (slots.find? (·.1 == c)).bind fun slot =>
        (versions.find? (·.1 == c)).map fun stamp => (slot, stamp.2) := by
  induction slots generalizing versions with
  | nil => rfl
  | cons slot slots ih =>
    cases versions with
    | nil => cases h
    | cons stamp versions =>
      obtain ⟨hc, hrest⟩ := List.cons.inj h
      rw [List.map_cons, List.zip_cons_cons, List.find?_cons, List.find?_cons, List.find?_cons]
      dsimp only
      rw [hc]
      cases hslot : slot.1 == c with
      | true => rfl
      | false => exact ih hrest

lemma WellFormed.map_fst_stampedSlots (h : record.WellFormed schema version id) :
    record.stampedSlots.map Prod.fst = record.entity.slots := by
  refine List.map_fst_zip ?_
  have hlength := congrArg List.length h.map_fst_versions
  simpa [Entity.components] using Nat.le_of_eq hlength.symm

lemma WellFormed.ascending_stampedSlots (h : record.WellFormed schema version id) :
    record.stampedSlots.Pairwise (·.1.1 < ·.1.1) := by
  have hascending := h.ascending
  rwa [← h.map_fst_stampedSlots, List.pairwise_map] at hascending

lemma WellFormed.hasOld_stampedSlots (h : record.WellFormed schema version id) (c : ComponentId) :
    Comparison.hasOld record.stampedSlots c = record.entity.has c := by
  rw [Entity.has, ← h.map_fst_stampedSlots, List.any_map]
  rfl

/-- The version that a slot keeps can be read off the old slot beside it.  This is where the pass
and the lookup by component meet. -/
lemma WellFormed.kept?_stampedSlots (h : record.WellFormed schema version id) (slot : Slot) :
    Comparison.kept? record.stampedSlots slot = record.keptVersion? slot := by
  rw [Comparison.kept?, stampedSlots, find?_zip h.map_fst_versions, keptVersion?, Entity.get?,
    version?]
  cases record.entity.slots.find? (·.1 == slot.1) with
  | none => rfl
  | some old => cases record.versions.find? (·.1 == slot.1) <;> simp

end EntityRecord

namespace Comparison

open StoreState

variable {state : StoreState} {id : EntityId}

lemma hasOld_start (hs : state.WellFormed) (c : ComponentId) :
    hasOld (start state id).old c = (state.get? id).any (·.has c) := by
  rw [start, get?]
  cases hrecord : state.entities.get? id with
  | none => rfl
  | some record => exact (hs.records id record hrecord).hasOld_stampedSlots c

lemma kept?_start (hs : state.WellFormed) (slot : Slot) :
    kept? (start state id).old slot =
      (state.entities.get? id).bind (·.keptVersion? slot) := by
  rw [start]
  cases hrecord : state.entities.get? id with
  | none => rfl
  | some record => exact (hs.records id record hrecord).kept?_stampedSlots slot

lemma ascending_start (hs : state.WellFormed) (id : EntityId) :
    (start state id).old.Pairwise (·.1.1 < ·.1.1) := by
  rw [start]
  cases hrecord : state.entities.get? id with
  | none => exact List.Pairwise.nil
  | some record => exact (hs.records id record hrecord).ascending_stampedSlots

lemma nodup_components_entity (entity : Entity) : entity.components.Nodup :=
  List.pairwise_map.mpr (entity.ascending.imp Fin.ne_of_lt)

lemma nodup_lostComponents (old? : Option Entity) (new : Entity) :
    (lostComponents old? new).Nodup := by
  cases old? with
  | none => exact List.nodup_nil
  | some old => exact (nodup_components_entity old).filter _

lemma nodup_gainedComponents (old? : Option Entity) (new : Entity) :
    (gainedComponents old? new).Nodup := by
  cases old? with
  | none => exact nodup_components_entity new
  | some old => exact (nodup_components_entity new).filter _

/-- The comparison finds which versions are kept. -/
theorem versions_run_start (hs : state.WellFormed) (entity : Entity) :
    ((start state entity.id).run entity.id (state.version + 1) entity.slots).versions =
      (state.registeredRecord entity).versions := by
  rw [versions_run entity.ascending (ascending_start hs entity.id), registeredRecord]
  exact List.map_congr_left fun slot _ => by rw [kept?_start hs]

lemma exists_has_iff {old? : Option Entity} {c : ComponentId} :
    (∃ old, old? = some old ∧ old.has c = true) ↔ old?.any (·.has c) = true :=
  (Option.any_eq_true _ _).symm

/-- Registering a value moves its entity between what it had and what it has now.  This is the form
in which the index of a pass can be compared with it, entry by entry. -/
lemma getElem?_reindex_register (state : StoreState) (entity : Entity) (c : ComponentId) :
    (reindex state.index entity.id (lostComponents (state.get? entity.id) entity)
        (gainedComponents (state.get? entity.id) entity))[c.val]? =
      state.index[c.val]?.map
        (moved entity.id ((state.get? entity.id).any (·.has c)) (entity.has c)) := by
  have hlost : ∀ c, c ∈ lostComponents (state.get? entity.id) entity ↔
      (state.get? entity.id).any (·.has c) = true ∧ entity.has c = false := by
    intro c
    rw [mem_lostComponents, exists_has_iff]
  have hgained : ∀ c, c ∈ gainedComponents (state.get? entity.id) entity ↔
      (state.get? entity.id).any (·.has c) = false ∧ entity.has c = true := by
    intro c
    rw [mem_gainedComponents, exists_has_iff, Bool.not_eq_true, and_comm]
  exact getElem?_reindex state.index entity.id (nodup_lostComponents _ _)
    (nodup_gainedComponents _ _) hlost hgained c

/-- The comparison finds what was lost and gained. -/
theorem index_run_start (hs : state.WellFormed) (entity : Entity) :
    ((start state entity.id).run entity.id (state.version + 1) entity.slots).index =
      reindex state.index entity.id (lostComponents (state.get? entity.id) entity)
        (gainedComponents (state.get? entity.id) entity) := by
  apply List.ext_getElem?
  intro i
  by_cases hi : i < state.index.length
  · -- the index has an entry for every component of the schema, and no other
    rw [hs.index_length] at hi
    have hlt : i < maxComponents := Nat.lt_of_lt_of_le hi state.schema.length_le
    rw [getElem?_reindex_register state entity ⟨i, hlt⟩,
      index_run entity.ascending (ascending_start hs entity.id) ⟨i, hlt⟩, hasOld_start hs]
    rfl
  · have hle := Nat.le_of_not_lt hi
    rw [List.getElem?_eq_none (by rwa [length_index_run]),
      List.getElem?_eq_none (by rwa [length_reindex])]

/-- The comparison finds what is written.  Here components that were lost count as changed, as they
do in a commit. -/
theorem changed_run_start (hs : state.WellFormed) (entity : Entity) :
    ((start state entity.id).run entity.id (state.version + 1) entity.slots).changed =
      .ofList (lostComponents (state.get? entity.id) entity ++
        writtenComponents (state.entities.get? entity.id) entity) := by
  ext c
  have hwritten : (entity.slots.any fun slot =>
      slot.1 == c && (kept? (start state entity.id).old slot).isNone) = true ↔
      c ∈ writtenComponents (state.entities.get? entity.id) entity := by
    rw [List.any_eq_true, writtenComponents, List.mem_map]
    refine exists_congr fun slot => ?_
    rw [kept?_start hs, List.mem_filter, Bool.and_eq_true, beq_iff_eq, and_assoc]
    exact and_congr_right fun _ => and_comm
  have hnow : entity.slots.any (·.1 == c) = entity.has c := rfl
  rw [changed_run entity.ascending (ascending_start hs entity.id), hasOld_start hs,
    Bool.eq_iff_iff, ComponentSet.contains_ofList, List.mem_append, mem_lostComponents,
    exists_has_iff, Bool.or_eq_true, hwritten]
  simp [start, hnow]

end Comparison

end SceneEngine
