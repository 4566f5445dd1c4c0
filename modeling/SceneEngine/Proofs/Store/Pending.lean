import SceneEngine.Proofs.Ordered.Collections
import SceneEngine.Proofs.Store.Components
import SceneEngine.Store.Basic

/-!
# What a consumer holds about an entity

A consumer folds everything that happens to an entity into one `Pending` record: the value it had
when it left, whether it is new, and which components changed.  Each event rewrites the record of
its own entity and no other, so a consumer can be followed one entity at a time.  This module gives
the equations for that.

## What becomes of a record

`Pending.after` says what a step makes of a record.  It depends on whether the entity was and is a
member, on the value it had before, and on the changes that count; which command it was does not
matter.  The three events of a consumer are cases of it, described by what is found under an id
afterwards (`Consumer.pendingOf_enter`, `Consumer.pendingOf_update`, `Consumer.pendingOf_leave`),
and so are the steps that concern all entities at once: forgetting and starting anew
(`Consumer.pendingOf_forget`, `Store.pendingOf_enterAll`).

A consumer may drop a record that says nothing or keep it.  An absent record counts as a blank one,
so the equations do not tell the two apart; that none is kept is shown in `Proofs/Store/Announcing`.

## What is handed out

A drain goes through the records and appends to three lists.  `Consumer.drain_eq` separates the
lists, and `OrderedMap.filter_flatMap` finds in each what carries a given id: it comes from the one
record of that id.  So draining hands out, entity by entity, what the record says
(`Consumer.removed_drain`, `Consumer.new_drain`, `Consumer.updated_drain`).

`Proofs/Store/Consumers` turns this into statements about commands.
-/

namespace SceneEngine

/-! ## Entries under a key -/

/-- Of everything that comes from the entries of a map, what carries a key comes from the entry of
that key. -/
lemma OrderedMap.filter_flatMap {κ α β : Type} [DecidableEq κ] (m : OrderedMap κ α)
    {f : κ × α → List β} {key : β → κ} (hf : ∀ e ∈ m.entries, ∀ b ∈ f e, key b = e.1) (k : κ) :
    (m.entries.flatMap f).filter (fun b => decide (key b = k)) =
      ((m.get? k).map fun a => f (k, a)).getD [] := by
  obtain ⟨entries, hnodup⟩ := m
  unfold get?
  induction entries with
  | nil => rfl
  | cons e entries ih =>
    rw [List.map_cons, List.nodup_cons] at hnodup
    have hf' : ∀ e ∈ entries, ∀ b ∈ f e, key b = e.1 :=
      fun e he => hf e (List.mem_cons_of_mem _ he)
    rw [List.flatMap_cons, List.filter_append, List.find?_cons]
    by_cases he : e.1 = k
    · -- the key is not met again
      have hrest : (entries.flatMap f).filter (fun b => decide (key b = k)) = [] := by
        rw [List.filter_eq_nil_iff]
        intro b hb hk
        obtain ⟨e', he', hbe'⟩ := List.mem_flatMap.mp hb
        have hkey : key b = e'.1 := hf' e' he' b hbe'
        have hsame : e'.1 = e.1 := hkey.symm.trans ((of_decide_eq_true hk).trans he.symm)
        exact hnodup.1 (hsame ▸ List.mem_map_of_mem he')
      have hfirst : (f e).filter (fun b => decide (key b = k)) = f e := by
        rw [List.filter_eq_self]
        exact fun b hb => decide_eq_true ((hf e List.mem_cons_self b hb).trans he)
      rw [hrest, hfirst, List.append_nil, beq_iff_eq.mpr he]
      simp [← he]
    · have hfirst : (f e).filter (fun b => decide (key b = k)) = [] := by
        rw [List.filter_eq_nil_iff]
        intro b hb hk
        exact he ((hf e List.mem_cons_self b hb).symm.trans (of_decide_eq_true hk))
      rw [hfirst, List.nil_append, beq_eq_false_iff_ne.mpr he]
      exact ih hnodup.2 hf'

/-! ## Events -/

namespace Pending

/-- What is to be handed out about an entity after a step, given whether it was and is a member, the
value it had before and the changes that count.  An entity that leaves while it is new takes its
arrival back, and anything it left behind earlier stays. -/
def after (p : Pending) (was now : Bool) (last? : Option Entity)
    (watched : ComponentSet) : Pending :=
  match was, now with
  | false, false => p
  | false, true => { p with isNew := true, changed := ∅ }
  | true, false =>
    if p.isNew then { p with isNew := false, changed := ∅ }
    else { p with removed? := last?, changed := ∅ }
  | true, true => { p with changed := p.changed.union watched }

@[simp] lemma after_self (p : Pending) (b : Bool) (last? : Option Entity) :
    p.after b b last? ∅ = p := by
  cases b <;> simp [after]

/-- While an entity is marked as new exactly as long as it is a member, nothing is to be handed out
as removed that was not before. -/
lemma after_of_isNew {p : Pending} {was now : Bool} {last? : Option Entity}
    {watched : ComponentSet} (h : p.isNew = was) :
    (p.after was now last? watched).isNew = now ∧
      (p.after was now last? watched).removed? = p.removed? := by
  cases was <;> cases now <;> simp [after, h]

lemma removed?_after {p : Pending} {was now : Bool} {last? : Option Entity}
    {watched : ComponentSet} {last : Entity}
    (h : (p.after was now last? watched).removed? = some last) :
    p.removed? = some last ∨ last? = some last := by
  unfold after at h
  split at h
  · exact Or.inl h
  · exact Or.inl h
  · split at h
    · exact Or.inl h
    · exact Or.inr h
  · exact Or.inl h

end Pending

namespace Consumer

variable {consumer : Consumer} {id id' : EntityId}

@[simp] lemma pendingOf_mk_empty (id : EntityId) : pendingOf {} id = {} := rfl

lemma pendingOf_enter : (consumer.enter id).pendingOf id' =
    if id' = id then { consumer.pendingOf id with isNew := true, changed := ∅ }
    else consumer.pendingOf id' := by
  unfold pendingOf enter
  rw [OrderedMap.get?_upsert]
  by_cases hid : id' = id <;> simp [hid]

lemma pendingOf_update (watched : ComponentSet) : (consumer.update id watched).pendingOf id' =
    if id' = id then
      { consumer.pendingOf id with changed := (consumer.pendingOf id).changed.union watched }
    else consumer.pendingOf id' := by
  unfold update
  split
  next hempty =>
    rw [ComponentSet.isEmpty_iff.mp hempty, ComponentSet.union_empty]
    by_cases hid : id' = id <;> simp [hid]
  · unfold pendingOf
    rw [OrderedMap.get?_upsert]
    by_cases hid : id' = id <;> simp [hid]

lemma pendingOf_leave (last : Entity) : (consumer.leave id last).pendingOf id' =
    if id' = id then (consumer.pendingOf id).after true false (some last) ∅
    else consumer.pendingOf id' := by
  have hafter : ∀ p : Pending, p.after true false (some last) ∅ =
      if p.isNew then { p with isNew := false, changed := ∅ }
      else { p with removed? := some last, changed := ∅ } := fun _ => rfl
  unfold leave
  simp only [← hafter]
  split
  next hempty =>
    -- nothing is left to say, which is what an absent record says
    have hnothing : (consumer.pendingOf id).after true false (some last) ∅ = {} := by
      generalize (consumer.pendingOf id).after true false (some last) ∅ = p at hempty
      obtain ⟨removed?, isNew, changed⟩ := p
      simp only [Pending.isEmpty, Bool.and_eq_true, Option.isNone_iff_eq_none,
        Bool.not_eq_true', ComponentSet.isEmpty_iff] at hempty
      obtain ⟨⟨rfl, rfl⟩, rfl⟩ := hempty
      rfl
    rw [hnothing]
    unfold pendingOf
    rw [OrderedMap.get?_erase, OrderedMap.get?_upsert]
    by_cases hid : id' = id <;> simp [hid]
  · unfold pendingOf
    rw [OrderedMap.get?_upsert]
    by_cases hid : id' = id <;> simp [hid]

lemma pendingOf_forget : consumer.forget.pendingOf id =
    { consumer.pendingOf id with isNew := false, changed := ∅ } := by
  unfold pendingOf forget
  rw [OrderedMap.get?_filter, OrderedMap.get?_mapValues]
  cases consumer.pending.get? id with
  | none => rfl
  | some p => cases hremoved : p.removed? <;> simp [Option.filter, hremoved]

lemma pendingOf_foldl_enter (ids : List EntityId) (consumer : Consumer) :
    (ids.foldl enter consumer).pendingOf id =
      if id ∈ ids then { consumer.pendingOf id with isNew := true, changed := ∅ }
      else consumer.pendingOf id := by
  induction ids generalizing consumer with
  | nil => simp
  | cons first ids ih =>
    rw [List.foldl_cons, ih, pendingOf_enter]
    by_cases hfirst : id = first
    · subst hfirst
      simp
    · by_cases hmem : id ∈ ids <;> simp [hmem, hfirst]

end Consumer

lemma Store.pendingOf_enterAll {live : LiveQuery} {consumer : Consumer} {id : EntityId} :
    (enterAll live consumer).pendingOf id =
      if id ∈ live.members then { consumer.pendingOf id with isNew := true, changed := ∅ }
      else consumer.pendingOf id := by
  rw [enterAll, Consumer.pendingOf_foldl_enter]
  simp only [OrderedSet.mem_toList]

/-! ## Draining -/

namespace Consumer

variable {consumer : Consumer} {state : StoreState}

/-- Draining lists what the records say, one record after another. -/
lemma drain_eq (consumer : Consumer) (state : StoreState) :
    (consumer.drain state).1 =
      { removed := consumer.pending.entries.flatMap fun e => e.2.removed?.toList
        new := consumer.pending.entries.flatMap fun e =>
          if e.2.isNew then (state.get? e.1).toList else []
        updated := consumer.pending.entries.flatMap fun e =>
          if e.2.changed.isEmpty then []
          else ((state.get? e.1).map fun current => ⟨current, e.2.changed⟩).toList } := by
  have hfold : ∀ (entries : List (EntityId × Pending)) (delta : Delta),
      entries.foldl (fun delta e => deliver state delta e.1 e.2) delta =
        { removed := delta.removed ++ entries.flatMap fun e => e.2.removed?.toList
          new := delta.new ++ entries.flatMap fun e =>
            if e.2.isNew then (state.get? e.1).toList else []
          updated := delta.updated ++ entries.flatMap fun e =>
            if e.2.changed.isEmpty then []
            else ((state.get? e.1).map fun current => ⟨current, e.2.changed⟩).toList } := by
    intro entries
    induction entries with
    | nil => simp
    | cons e entries ih =>
      intro delta
      rw [List.foldl_cons, ih]
      -- an entity that is not registered is neither new nor updated, whatever its record says
      cases hcurrent : state.get? e.1 with
      | none => simp [deliver, hcurrent]
      | some current =>
        cases hnew : e.2.isNew <;> cases hchanged : e.2.changed.isEmpty <;>
          simp [deliver, hcurrent, hnew, hchanged]
  exact (hfold consumer.pending.entries {}).trans (by simp)

/-- What comes from one record, when nothing comes from an absent one. -/
lemma filter_flatMap_pending {β : Type} (f : EntityId × Pending → List β) (key : β → EntityId)
    (hf : ∀ e ∈ consumer.pending.entries, ∀ b ∈ f e, key b = e.1) (id : EntityId)
    (hnone : f (id, {}) = []) :
    (consumer.pending.entries.flatMap f).filter (fun b => decide (key b = id)) =
      f (id, consumer.pendingOf id) := by
  rw [consumer.pending.filter_flatMap hf]
  unfold pendingOf
  cases consumer.pending.get? id with
  | none => exact hnone.symm
  | some p => rfl

/-- An entity is handed out as removed when its record says so. -/
lemma removed_drain
    (hremoved : ∀ id last, (consumer.pendingOf id).removed? = some last → last.id = id)
    (id : EntityId) :
    (consumer.drain state).1.removed.filter (fun entity => decide (entity.id = id)) =
      (consumer.pendingOf id).removed?.toList := by
  rw [drain_eq]
  apply filter_flatMap_pending (fun e => e.2.removed?.toList) Entity.id
  · intro e he last hlast
    have hget : consumer.pendingOf e.1 = e.2 := by
      rw [pendingOf, OrderedMap.get?_eq_some_iff.mpr he]
      rfl
    exact hremoved e.1 last (hget ▸ Option.mem_toList.mp hlast)
  · rfl

/-- An entity is handed out as new, with its current value, when its record says so. -/
lemma new_drain (hstate : ∀ id current, state.get? id = some current → current.id = id)
    (id : EntityId) :
    (consumer.drain state).1.new.filter (fun entity => decide (entity.id = id)) =
      if (consumer.pendingOf id).isNew then (state.get? id).toList else [] := by
  rw [drain_eq]
  apply filter_flatMap_pending
    (fun e => if e.2.isNew then (state.get? e.1).toList else []) Entity.id
  · intro e _ current hcurrent
    split at hcurrent
    · exact hstate e.1 current (Option.mem_toList.mp hcurrent)
    · cases hcurrent
  · rfl

/-- An entity is handed out as updated, with its current value, when its record lists changes. -/
lemma updated_drain (hstate : ∀ id current, state.get? id = some current → current.id = id)
    (id : EntityId) :
    (consumer.drain state).1.updated.filter (fun update => decide (update.entity.id = id)) =
      if (consumer.pendingOf id).changed.isEmpty then []
      else ((state.get? id).map fun current =>
        ⟨current, (consumer.pendingOf id).changed⟩).toList := by
  rw [drain_eq]
  apply filter_flatMap_pending
    (fun e => if e.2.changed.isEmpty then []
      else ((state.get? e.1).map fun current => Updated.mk current e.2.changed).toList)
    (fun update => update.entity.id)
  · intro e _ update hupdate
    split at hupdate
    · cases hupdate
    · obtain ⟨current, hcurrent, rfl⟩ := Option.map_eq_some_iff.mp (Option.mem_toList.mp hupdate)
      exact hstate e.1 current hcurrent
  · rfl

end Consumer

end SceneEngine
