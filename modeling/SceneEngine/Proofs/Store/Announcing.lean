import SceneEngine.Proofs.Store.Delivery
import SceneEngine.Proofs.Store.Registering

/-!
# When there is something to hand out

A consumer keeps records for entities, and announces something as long as it keeps one.  Whoever
asks a consumer relies on that answer twice: when it says no, a drain would have been in vain; when
it says yes, a drain hands out something.  This module shows that the answer is right in both
directions after any run, and that a consumer which has been drained stays silent until a commit
concerns it.

## What could go wrong

Two things could make a consumer announce without having anything to say.  A record might be blank,
kept by a commit that changed nothing the query looks at.  `Consumer.Tidy` excludes that: whoever
enters or is updated gets a record that says something, and what is blank after leaving or after a
reset is dropped.  Or a record might speak about an entity that can no longer be handed out: an
update of an entity that has left would be skipped by the drain, since it has no current value.
`Pending.Fits` excludes that: only members are new or changed.  It also says that a member that left
before is new, so that whoever learns of the removal learns of the return in the same delta.

## The invariant

`Store.Announcing` collects both for all consumers of a store, next to what is known of them already
(`Store.Accountable`).  Every command keeps it (`Store.announcing_perform`), hence every run does.
From it come `Announcing.isEmpty_drain_iff`, that a delta is empty just when all records are blank,
and `Announcing.coherent_drain`, that a delta mentions each entity once under each heading.

## Silence

`Moment.Unnoticed` says when a consumer has no part in a command: it is not reset, and a commit is
about an entity that is a member neither before nor after.  A consumer without records keeps none as
long as nothing else happens (`Store.hasPending_run_of_unnoticed`).  The main result is
`Store.announces_exactly`.
-/

namespace SceneEngine

/-! ## Records that fit -/

namespace Pending

/-- What is to be handed out about an entity fits whether it is a member.  This is about one record
only, so that it can be followed through `Pending.after` in four cases. -/
structure Fits (p : Pending) (isMember : Bool) : Prop where
  /-- Only a member is handed out as new. -/
  new : p.isNew = true → isMember = true
  /-- Only a member is handed out as updated. -/
  changed : p.changed.isEmpty = false → isMember = true
  /-- What left and came back is new: a delta never takes away an entity that is still there without
  giving it back. -/
  returned : p.removed?.isSome = true → isMember = true → p.isNew = true

variable {p : Pending} {was now : Bool} {last? : Option Entity} {watched : ComponentSet}

lemma fits_blank (isMember : Bool) : Fits {} isMember where
  new h := by cases h
  changed h := by cases h
  returned h := by cases h

/-- A reset marks members as new and forgets what changed.  What was removed stays in the record,
and if the entity is a member again it is new as well. -/
lemma fits_reset (p : Pending) (isMember : Bool) :
    Fits { p with isNew := isMember, changed := ∅ } isMember where
  new h := h
  changed h := by cases h
  returned _ h := h

/-- What is no member may only be removed. -/
lemma fits_false (hnew : p.isNew = false) (hchanged : p.changed = ∅) : p.Fits false where
  new h := absurd (hnew.symm.trans h) Bool.false_ne_true
  changed h := by
    rw [hchanged] at h
    cases h
  returned _ h := by cases h

/-- Whatever an entity does, its record fits afterwards.  The four cases are those of leaving,
entering, staying in and staying out. -/
lemma Fits.after (h : p.Fits was) : (p.after was now last? watched).Fits now := by
  cases was with
  | false =>
    cases now with
    | false => exact h
    | true => exact ⟨fun _ => rfl, fun _ => rfl, fun _ _ => rfl⟩
  | true =>
    cases now with
    | false =>
      unfold Pending.after
      -- an entity that was new was never handed out, so its arrival is taken back
      cases hnew : p.isNew with
      | true => exact fits_false rfl rfl
      | false => exact fits_false rfl rfl
    | true => exact ⟨fun _ => rfl, fun _ => rfl, h.returned⟩

/-- A record is not blank when it says one of three things. -/
lemma isEmpty_eq_false_iff : p.isEmpty = false ↔
    p.removed?.isSome = true ∨ p.isNew = true ∨ p.changed.isEmpty = false := by
  rw [isEmpty]
  cases p.removed? <;> cases p.isNew <;> simp

end Pending

/-! ## Records that are kept -/

namespace Consumer

/-- No record that is kept is blank.  A consumer asks only whether it keeps any record, and this
makes the answer right. -/
def Tidy (consumer : Consumer) : Prop :=
  ∀ id p, consumer.pending.get? id = some p → p.isEmpty = false

variable {consumer : Consumer} {id : EntityId}

lemma tidy_empty : Tidy {} := by
  intro id p h
  cases h

/-- Writing a record that is not blank keeps a consumer tidy. -/
lemma Tidy.upsert (h : consumer.Tidy) {f : Pending → Pending}
    (hf : (f (consumer.pendingOf id)).isEmpty = false) :
    Tidy ⟨consumer.pending.upsert id {} f⟩ := by
  intro id' p hp
  rw [OrderedMap.get?_upsert] at hp
  split at hp
  · obtain rfl := Option.some.inj hp
    exact hf
  · exact h id' p hp

lemma Tidy.enter (h : consumer.Tidy) (id : EntityId) : (consumer.enter id).Tidy :=
  h.upsert (Pending.isEmpty_eq_false_iff.mpr (.inr (.inl rfl)))

lemma Tidy.update (h : consumer.Tidy) (id : EntityId) (changed : ComponentSet) :
    (consumer.update id changed).Tidy := by
  rw [Consumer.update]
  split
  · exact h
  next hsome =>
    refine h.upsert (Pending.isEmpty_eq_false_iff.mpr (.inr (.inr ?_)))
    rw [ComponentSet.isEmpty_union, Bool.eq_false_iff.mpr hsome, Bool.and_false]

/-- An entity that leaves is recorded as removed, which is not blank, or its record is dropped. -/
lemma Tidy.leave (h : consumer.Tidy) (id : EntityId) (last : Entity) :
    (consumer.leave id last).Tidy := by
  rw [Consumer.leave]
  split
  · -- the record of the entity is dropped
    intro id' p hp
    rw [OrderedMap.get?_erase] at hp
    split at hp
    · cases hp
    next hid =>
      rw [OrderedMap.get?_upsert, if_neg hid] at hp
      exact h id' p hp
  next hsome => exact h.upsert (Bool.eq_false_iff.mpr hsome)

lemma Tidy.observe (h : consumer.Tidy) (id : EntityId) (transition : Transition) :
    (consumer.observe id transition).Tidy := by
  cases transition with
  | enters => exact h.enter id
  | leaves last => exact h.leave id last
  | stays changed => exact h.update id changed

/-- Forgetting keeps what is removed. -/
lemma tidy_forget (consumer : Consumer) : consumer.forget.Tidy := by
  intro id p hp
  rw [forget, OrderedMap.get?_filter, Option.filter_eq_some_iff] at hp
  exact Pending.isEmpty_eq_false_iff.mpr (.inl hp.2)

lemma Tidy.enterAll (h : consumer.Tidy) (live : LiveQuery) :
    (Store.enterAll live consumer).Tidy :=
  List.foldlRecOn live.members.toList Consumer.enter h fun _ h id _ => h.enter id

/-- A tidy consumer has something to hand out when a record says so.  Records that are not kept
count as blank, so the question can be put to every entity. -/
lemma Tidy.hasPending_iff (h : consumer.Tidy) :
    consumer.hasPending = true ↔ ∃ id, (consumer.pendingOf id).isEmpty = false := by
  have hentries : consumer.hasPending = true ↔ consumer.pending.entries ≠ [] := by
    simp [hasPending, OrderedMap.isEmpty]
  rw [hentries]
  constructor
  · intro hsome
    obtain ⟨⟨id, p⟩, hentry⟩ := List.exists_mem_of_ne_nil _ hsome
    have hget := OrderedMap.get?_eq_some_iff.mpr hentry
    refine ⟨id, ?_⟩
    rw [pendingOf, hget]
    exact h id p hget
  · rintro ⟨id, hid⟩ hnone
    have hget : consumer.pending.get? id = none := by
      rw [OrderedMap.get?, hnone]
      rfl
    rw [pendingOf, hget] at hid
    cases hid

end Consumer

/-! ## The invariant -/

namespace Store

variable {schema : Schema} {store : Store} {consumer : ConsumerId}

/-- Consumers are tidy, and their records fit who is a member.  Both are about all consumers of a
store, whether they are asked or not, since a commit reaches all of them. -/
structure Announcing (schema : Schema) (store : Store) : Prop extends store.Accountable schema where
  /-- No consumer keeps a blank record. -/
  tidy : ∀ entry ∈ store.consumers, entry.2.Tidy
  /-- Each record fits whether its entity is a member of the query of the consumer. -/
  fits : ∀ consumer id, (store.pendingOf consumer id).Fits (store.isMember consumer id)

lemma announcing_empty (schema : Schema) (historyDepth : Nat) :
    (Store.empty schema historyDepth).Announcing schema where
  toAccountable := accountable_empty schema historyDepth
  tidy := fun _ h => absurd h List.not_mem_nil
  fits consumer id := by
    have hissued : (Store.empty schema historyDepth).consumers[consumer.index]? = none := rfl
    obtain ⟨hmember, hpending⟩ := notIssued hissued id
    rw [hmember, hpending]
    exact Pending.fits_blank false

lemma Announcing.tidy_perform (hs : store.Announcing schema) (command : StoreCommand) :
    ∀ entry ∈ (store.perform command).consumers, entry.2.Tidy := by
  refine hs.toAccountable.consumers_perform hs.tidy ?_ ?_ ?_ ?_ command
  · intro entry hentry live _ next _ _
    cases live.transition? next.2 with
    | none => exact hs.tidy entry hentry
    | some transition => exact (hs.tidy entry hentry).observe _ transition
  · exact fun _ live _ => Consumer.tidy_empty.enterAll live
  · exact fun entry _ live => (Consumer.tidy_forget entry.2).enterAll live
  · exact fun _ _ => Consumer.tidy_empty

/-- Every command keeps records fitting.  A drain leaves blank records, a reset marks the members,
and any other command rewrites each record as the membership of its entity says. -/
lemma Announcing.fits_perform (hs : store.Announcing schema) (command : StoreCommand)
    (consumer : ConsumerId) (id : EntityId) :
    ((store.perform command).pendingOf consumer id).Fits
      ((store.perform command).isMember consumer id) := by
  by_cases hdrain : command = .drain consumer
  · rw [hdrain, (pendingOf_drain hs.toAccountable consumer id).1]
    exact Pending.fits_blank _
  · by_cases hreset : command = .resetConsumer consumer
    · obtain ⟨hpending, hmember⟩ := pendingOf_reset hs.toAccountable consumer id
      rw [hreset, hpending, hmember]
      exact Pending.fits_reset _ _
    · have hafter := Moment.pendingOf_after ⟨store, command⟩ hs.toAccountable hdrain hreset id
      rw [Moment.after] at hafter
      rw [hafter]
      exact (hs.fits consumer id).after

lemma announcing_perform (store : Store) (command : StoreCommand) (hs : store.Announcing schema) :
    (store.perform command).Announcing schema where
  toAccountable := accountable_perform store command hs.toAccountable
  tidy := hs.tidy_perform command
  fits := hs.fits_perform command

lemma announcing_run (schema : Schema) (historyDepth : Nat) (commands : List StoreCommand) :
    ((Store.empty schema historyDepth).run commands).Announcing schema :=
  run_preserves announcing_perform (announcing_empty schema historyDepth) commands

lemma Announcing.hasPending_iff (hs : store.Announcing schema) :
    store.hasPending consumer = true ↔ ∃ id, (store.pendingOf consumer id).isEmpty = false := by
  cases hissued : store.consumers[consumer.index]? with
  | none =>
    have hconsumer : store.consumer consumer = .error (.unknownHandle .consumer) := by
      rw [Store.consumer, hissued]
    simp [Store.hasPending, pendingOf, hconsumer, Pending.isEmpty, ComponentSet.isEmpty_iff]
  | some entry =>
    have hconsumer : store.consumer consumer = .ok entry := consumer_eq_ok_iff.mpr hissued
    simp only [Store.hasPending, pendingOf, hconsumer]
    exact (hs.tidy entry (List.mem_of_getElem? hissued)).hasPending_iff

end Store

/-! ## What is handed out -/

/-- A delta mentions each entity once under each heading.  What is new or updated is a member, and a
member that was removed is new.  Nothing here depends on the order in which the entries stand. -/
structure Delta.Coherent (delta : Delta) (isMember : EntityId → Bool) : Prop where
  removed_nodup : (delta.removed.map Entity.id).Nodup
  new_nodup : (delta.new.map Entity.id).Nodup
  updated_nodup : (delta.updated.map fun update => update.entity.id).Nodup
  new_members : ∀ entity ∈ delta.new, isMember entity.id = true
  updated_members : ∀ update ∈ delta.updated, isMember update.entity.id = true
  returned : ∀ entity ∈ delta.removed, isMember entity.id = true →
    entity.id ∈ delta.new.map Entity.id

/-- Keys are distinct when no two elements have the same. -/
lemma nodup_map_of_filter {α β : Type} [DecidableEq β] {l : List α} {key : α → β}
    (h : ∀ b, (l.filter fun a => decide (key a = b)).length ≤ 1) : (l.map key).Nodup := by
  rw [List.nodup_iff_count_le_one]
  intro b
  rw [List.count, List.countP_map, List.countP_eq_length_filter]
  exact h b

namespace Store

variable {schema : Schema} {store next : Store} {consumer : ConsumerId} {delta : Delta}
  {live : LiveQuery} {command : StoreCommand} {id : EntityId}

/-- What is drained is coherent.  Each heading has at most one entry for an entity because each is
read off its one record, and the rest is what `Pending.Fits` says. -/
lemma Announcing.coherent_drain (hs : store.Announcing schema)
    (h : store.drain consumer = .ok (delta, next)) : delta.Coherent (store.isMember consumer) := by
  have hfilter := filter_drain hs.toAccountable h
  obtain ⟨hremoved, hnew, hupdated⟩ := mem_drain hs.toAccountable h
  have hfits := hs.fits consumer
  -- a heading lists for an entity what is in an option, so it has at most one entry for it
  have hlength : ∀ {α : Type} (o : Option α), o.toList.length ≤ 1 := by
    intro α o
    cases o <;> simp
  refine ⟨nodup_map_of_filter fun id => ?_, nodup_map_of_filter fun id => ?_,
    nodup_map_of_filter fun id => ?_, fun entity hentity => ?_, fun update hupdate => ?_,
    fun entity hentity hmember => ?_⟩
  · rw [(hfilter id).1]
    exact hlength _
  · rw [(hfilter id).2.1]
    split
    · exact hlength _
    · exact Nat.zero_le 1
  · rw [(hfilter id).2.2]
    split
    · exact Nat.zero_le 1
    · exact hlength _
  · exact (hfits entity.id).new ((hnew entity).mp hentity).1
  · exact (hfits update.entity.id).changed ((hupdated update).mp hupdate).1
  · have hsome := (hremoved entity.id).mp (List.mem_map_of_mem hentity)
    have hreturned := (hfits entity.id).returned hsome hmember
    obtain ⟨current, hcurrent⟩ :=
      Option.isSome_iff_exists.mp (hs.toAccountable.isSome_get? hmember)
    have hid : current.id = entity.id := hs.current.2.id_eq hcurrent
    rw [← hid] at hreturned hcurrent ⊢
    exact List.mem_map_of_mem ((hnew current).mpr ⟨hreturned, hcurrent⟩)

/-- A delta is empty when no record has anything to say.  The direction that needs the invariant is
the other one: a record that says something is about an entity that can be handed out. -/
lemma Announcing.isEmpty_drain_iff (hs : store.Announcing schema)
    (h : store.drain consumer = .ok (delta, next)) :
    delta.isEmpty = false ↔ ∃ id, (store.pendingOf consumer id).isEmpty = false := by
  obtain ⟨hremoved, hnew, hupdated⟩ := mem_drain hs.toAccountable h
  have hfits := hs.fits consumer
  -- what is said about a member can be handed out, because it is registered
  have hcurrent : ∀ id, store.isMember consumer id = true →
      ∃ current : Entity, current.id = id ∧ store.get? current.id = some current := by
    intro id hmember
    obtain ⟨current, hcurrent⟩ :=
      Option.isSome_iff_exists.mp (hs.toAccountable.isSome_get? hmember)
    have hid : current.id = id := hs.current.2.id_eq hcurrent
    exact ⟨current, hid, hid ▸ hcurrent⟩
  have hempty : delta.isEmpty = false ↔
      delta.removed ≠ [] ∨ delta.new ≠ [] ∨ delta.updated ≠ [] := by
    rw [Delta.isEmpty]
    cases delta.removed <;> cases delta.new <;> cases delta.updated <;> simp
  rw [hempty]
  simp only [Pending.isEmpty_eq_false_iff]
  constructor
  · rintro (hsome | hsome | hsome)
    · obtain ⟨entity, hentity⟩ := List.exists_mem_of_ne_nil _ hsome
      exact ⟨entity.id, .inl ((hremoved _).mp (List.mem_map_of_mem hentity))⟩
    · obtain ⟨entity, hentity⟩ := List.exists_mem_of_ne_nil _ hsome
      exact ⟨entity.id, .inr (.inl ((hnew entity).mp hentity).1)⟩
    · obtain ⟨update, hupdate⟩ := List.exists_mem_of_ne_nil _ hsome
      exact ⟨update.entity.id, .inr (.inr ((hupdated update).mp hupdate).1)⟩
  · rintro ⟨id, hsome | hsome | hsome⟩
    · obtain ⟨entity, hentity, -⟩ := List.mem_map.mp ((hremoved id).mpr hsome)
      exact .inl (List.ne_nil_of_mem hentity)
    · obtain ⟨current, rfl, hget⟩ := hcurrent id ((hfits id).new hsome)
      exact .inr (.inl (List.ne_nil_of_mem ((hnew current).mpr ⟨hsome, hget⟩)))
    · obtain ⟨current, rfl, hget⟩ := hcurrent id ((hfits id).changed hsome)
      exact .inr (.inr (List.ne_nil_of_mem
        ((hupdated ⟨current, (store.pendingOf consumer current.id).changed⟩).mpr
          ⟨hsome, hget, rfl⟩)))

end Store

/-! ## Silence -/

/-- A consumer does not notice what happens at a moment: it is not reset, and a commit is about an
entity that is a member neither before nor after.  Drains and new consumers of the same query are
not noticed either. -/
def Moment.Unnoticed (moment : Moment) (consumer : ConsumerId) : Prop :=
  moment.command ≠ .resetConsumer consumer ∧
    ∀ commit, moment.before.effect? moment.command = some commit →
      moment.before.isMember consumer commit.id = false ∧
        moment.after.isMember consumer commit.id = false

namespace Store

variable {schema : Schema} {store : Store} {consumer : ConsumerId} {live : LiveQuery}
  {command : StoreCommand} {id : EntityId}

/-- A command that commits nothing about an entity leaves it a member or not, and changes nothing of
it that counts.  Other queries and consumers may come in the meantime. -/
lemma isMember_perform_of_ne (hs : store.Accountable schema)
    (hquery : store.queryOf consumer = .ok live)
    (hother : ∀ commit, store.effect? command = some commit → commit.id ≠ id) :
    (store.perform command).isMember consumer id = store.isMember consumer id ∧
      Moment.watched ⟨store, command⟩ consumer id = ∅ := by
  obtain ⟨live', hquery', hsame⟩ := queryOf_perform hs hquery command
  have hget : (store.perform command).get? id = store.get? id := by
    rcases perform_cases hs.current.2 command with
      ⟨-, hcurrent⟩ | ⟨next, record?, hproposal, hadvance, hperform⟩
    · rw [get?, hcurrent, get?]
    · have hne := hother next.2 (effect?_of_advances hproposal hadvance)
      rw [hperform, get?_commit hadvance, if_neg (Ne.symm hne)]
  constructor
  · rw [isMember_eq_any (accountable_perform store command hs) hquery', hget, hsame,
      isMember_eq_any hs hquery]
  · rw [Moment.watched, hquery]
    dsimp only
    split
    next commit _ heffect hok =>
      rw [if_neg (hother commit heffect)]
    · rfl

/-- What is not noticed leaves a consumer without anything to hand out.  An entity that is no member
before or after has a blank record afterwards, and about every other entity nothing is committed. -/
lemma pendingOf_eq_blank_of_unnoticed (hs : store.Accountable schema)
    (hquery : store.queryOf consumer = .ok live)
    (hblank : ∀ id, store.pendingOf consumer id = {})
    (hunnoticed : Moment.Unnoticed ⟨store, command⟩ consumer) (id : EntityId) :
    (store.perform command).pendingOf consumer id = {} := by
  obtain ⟨hreset, hcommits⟩ := hunnoticed
  by_cases hdrain : command = .drain consumer
  · rw [hdrain]
    exact (pendingOf_drain hs consumer id).1
  · have hafter := Moment.pendingOf_after ⟨store, command⟩ hs hdrain hreset id
    dsimp only at hafter
    rw [hblank, Moment.after] at hafter
    rw [hafter]
    -- the commit is about this entity, which stays out of the query, or about another one
    by_cases hcommit : ∃ commit, store.effect? command = some commit ∧ commit.id = id
    · obtain ⟨commit, heffect, rfl⟩ := hcommit
      obtain ⟨hbefore, hnow⟩ := hcommits commit heffect
      dsimp only [Moment.after] at hbefore hnow
      rw [hbefore, hnow]
      rfl
    · obtain ⟨hmember, hwatched⟩ := isMember_perform_of_ne hs hquery
        fun commit heffect hid => hcommit ⟨commit, heffect, hid⟩
      rw [hmember, hwatched, Pending.after_self]

/-- As long as nothing is noticed, a consumer without anything to hand out stays so.  The induction
is on the commands; blank records are what it carries from one to the next. -/
lemma hasPending_run_of_unnoticed (hs : store.Announcing schema)
    (hquery : store.queryOf consumer = .ok live)
    (hblank : ∀ id, store.pendingOf consumer id = {}) (later : List StoreCommand)
    (hunnoticed : ∀ moment ∈ store.moments later, moment.Unnoticed consumer) :
    (store.run later).hasPending consumer = false := by
  induction later generalizing store live with
  | nil =>
    rw [run_nil, Bool.eq_false_iff]
    intro hpending
    obtain ⟨id, hid⟩ := hs.hasPending_iff.mp hpending
    rw [hblank id] at hid
    cases hid
  | cons command later ih =>
    obtain ⟨hfirst, hrest⟩ := List.forall_mem_cons.mp hunnoticed
    obtain ⟨live', hquery', -⟩ := queryOf_perform hs.toAccountable hquery command
    exact ih (announcing_perform store command hs) hquery'
      (pendingOf_eq_blank_of_unnoticed hs.toAccountable hquery hblank hfirst) hrest

/-- **Nothing is announced without need.**  After any run, a consumer announces something just when
its next drain hands out a delta that is not empty.  A delta mentions entities once and fits the
members.  After a drain nothing is announced as long as the consumer is not reset and commits are
about entities that are members neither before nor after. -/
theorem announces_exactly (schema : Schema) (historyDepth : Nat) (commands : List StoreCommand)
    (consumer : ConsumerId) :
    (((Store.empty schema historyDepth).run commands).hasPending consumer = true ↔
      ∃ delta next, ((Store.empty schema historyDepth).run commands).drain consumer =
        .ok (delta, next) ∧ delta.isEmpty = false) ∧
    ∀ delta next, ((Store.empty schema historyDepth).run commands).drain consumer =
        .ok (delta, next) →
      delta.Coherent (((Store.empty schema historyDepth).run commands).isMember consumer) ∧
      ∀ later, (∀ moment ∈ next.moments later, moment.Unnoticed consumer) →
        (next.run later).hasPending consumer = false := by
  have hs := announcing_run schema historyDepth commands
  generalize (Store.empty schema historyDepth).run commands = store at hs ⊢
  refine ⟨?_, fun delta next hdrain => ⟨hs.coherent_drain hdrain, fun later hunnoticed => ?_⟩⟩
  · rw [hs.hasPending_iff]
    constructor
    · intro hsome
      -- a handle that was never given out announces nothing and cannot be drained
      cases hissued : store.consumers[consumer.index]? with
      | none =>
        obtain ⟨id, hid⟩ := hsome
        rw [(notIssued hissued id).2] at hid
        cases hid
      | some entry =>
        obtain ⟨live, -, hserves⟩ := hs.toAccountable.serves hissued
        exact ⟨_, _, hserves.drain_eq, (hs.isEmpty_drain_iff hserves.drain_eq).mpr hsome⟩
    · rintro ⟨delta, next, hdrain, hsome⟩
      exact (hs.isEmpty_drain_iff hdrain).mp hsome
  · have hnext : store.perform (.drain consumer) = next := by
      rw [perform, hdrain, except_map_ok, orSame_ok]
    obtain ⟨entry, hentry, -⟩ := bind_eq_ok_iff.mp hdrain
    obtain ⟨live, -, hserves⟩ := hs.toAccountable.serves (consumer_eq_ok_iff.mp hentry)
    obtain ⟨live', hquery, -⟩ :=
      queryOf_perform hs.toAccountable hserves.queryOf_eq (.drain consumer)
    have hblank := fun id => (pendingOf_drain hs.toAccountable consumer id).1
    rw [hnext] at hquery hblank
    exact hasPending_run_of_unnoticed (hnext ▸ announcing_perform store _ hs) hquery hblank later
      hunnoticed

/-- An entity without the component, registered after the consumer of `typedCommands` was drained,
is not announced. -/
theorem announces_exactly_typed :
    ((Store.empty typedSchema 0).run typedCommands).hasPending ⟨0⟩ = true ∧
    ∃ delta next, ((Store.empty typedSchema 0).run typedCommands).drain ⟨0⟩ = .ok (delta, next) ∧
      delta.isEmpty = false ∧
      (next.effect? (.register (.bare ⟨2⟩))).isSome = true ∧
      (next.run [.register (.bare ⟨2⟩)]).hasPending ⟨0⟩ = false := by
  obtain ⟨hpending, hdrained⟩ := announces_exactly typedSchema 0 typedCommands ⟨0⟩
  have hsome : ((Store.empty typedSchema 0).run typedCommands).hasPending ⟨0⟩ = true := by
    decide +kernel
  obtain ⟨delta, next, hdrain, hdelta⟩ := hpending.mp hsome
  have hnext : next = ((Store.empty typedSchema 0).run typedCommands).perform (.drain ⟨0⟩) := by
    rw [perform, hdrain, except_map_ok, orSame_ok]
  have hmembers : ((next.effect? (.register (.bare ⟨2⟩))).all fun commit =>
      !next.isMember ⟨0⟩ commit.id &&
        !(next.perform (.register (.bare ⟨2⟩))).isMember ⟨0⟩ commit.id) = true := by
    rw [hnext]
    decide +kernel
  refine ⟨hsome, delta, next, hdrain, hdelta, by rw [hnext]; decide +kernel,
    (hdrained delta next hdrain).2 _ ?_⟩
  intro moment hmoment
  obtain rfl := List.mem_singleton.mp hmoment
  refine ⟨by simp, fun commit heffect => ?_⟩
  rw [heffect, Option.all_some, Bool.and_eq_true, Bool.not_eq_true', Bool.not_eq_true'] at hmembers
  exact hmembers

end Store

end SceneEngine
