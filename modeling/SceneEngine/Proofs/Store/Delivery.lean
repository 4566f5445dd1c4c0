import Mathlib.Data.List.Induction
import SceneEngine.Proofs.Store.Consumers

/-!
# What a drain hands out

Between two drains a consumer sees a stretch of a run.  What the second drain hands out is
determined by that stretch alone: for each entity by when it entered and left the members of the
query, which of its changes counted, and whether the first drain found it among the members.  How
often it came and went in between makes no difference to whoever drains.

## What should be handed out

`Delta.Reports` says it for each entity, with the values and not only with the ids:

* an entity that was seen and left is removed, with the value it had before it left for the first
  time, whatever it is by now;
* a member that was not seen, or that left in between, is new, with its current value;
* a member with changes that count since it last entered is updated, with all of these changes.

These are read off the moments of the stretch (`firstLeaving?`, `changesSinceEntry`), without any
mention of the records that a consumer keeps.

## Why it is

The record that a consumer holds about an entity sums up the stretch so far, whatever comes next.
`Summarizes` is this invariant, and it has a case for each way in which a moment can treat an
entity: `Summarizes.enters`, `Summarizes.stays`, `Summarizes.leaves`, and nothing at all;
`Summarizes.append` puts them together, and `Store.summarizes_run` is the induction over the
stretch.  A stretch starts where a consumer is created or drained (`Store.StartsCollecting`), and
has no drain or reset of this consumer in it; what others do is left open.  After a reset a removal
can get lost, which is the subject of `Proofs/Store/Replay`.

The main result is `Store.drain_reports`.
-/

namespace SceneEngine

/-! ## Stretches of a run -/

/-- The first moment of a stretch at which an entity leaves a query.  Whoever has seen the entity is
told the value it had then. -/
def firstLeaving? (history : List Moment) (consumer : ConsumerId) (id : EntityId) :
    Option Moment :=
  history.find? fun moment => moment.leaves consumer id

/-- The moments of a stretch since an entity last entered a query, or all of them if it never did.
-/
def sinceEntry (history : List Moment) (consumer : ConsumerId) (id : EntityId) : List Moment :=
  (history.reverse.takeWhile fun moment => !moment.enters consumer id).reverse

/-- The changes that count for a query while an entity stayed a member, since it last entered.  What
changed before is contained in what is handed out as new. -/
def changesSinceEntry (history : List Moment) (consumer : ConsumerId) (id : EntityId) :
    ComponentSet :=
  ((sinceEntry history consumer id).filter fun moment => moment.stays consumer id).foldl
    (fun changed moment => changed.union (moment.watched consumer id)) ∅

section

variable {history : List Moment} {moment : Moment} {consumer : ConsumerId} {id : EntityId}

lemma firstLeaving?_append :
    firstLeaving? (history ++ [moment]) consumer id =
      (firstLeaving? history consumer id).or
        (if moment.leaves consumer id then some moment else none) := by
  unfold firstLeaving?
  rw [List.find?_append, List.find?_singleton]

lemma changesSinceEntry_append :
    changesSinceEntry (history ++ [moment]) consumer id =
      if moment.enters consumer id then ∅
      else if moment.stays consumer id then
        (changesSinceEntry history consumer id).union (moment.watched consumer id)
      else changesSinceEntry history consumer id := by
  unfold changesSinceEntry sinceEntry
  rw [List.reverse_append, List.reverse_singleton, List.singleton_append, List.takeWhile_cons]
  cases henters : moment.enters consumer id with
  | true => rfl
  | false => cases hstays : moment.stays consumer id <;> simp [hstays]

end

/-- What a delta says about a stretch of a run, given which entities were seen before it and the
store `now` at its end.  Filtering by entity fixes how often an entity is mentioned, and the values
are those that the store had registered. -/
structure Delta.Reports (delta : Delta) (consumer : ConsumerId) (seen : EntityId → Bool)
    (history : List Moment) (now : Store) : Prop where
  /-- An entity that was seen and left is removed, with the value it had before it left for the
  first time. -/
  removed : ∀ id,
    (delta.removed.filter fun entity => decide (entity.id = id)).map some =
      if seen id then
        ((firstLeaving? history consumer id).map fun moment => moment.before.get? id).toList
      else []
  /-- A member that was not seen, or left in between, is new. -/
  new : ∀ id,
    (delta.new.filter fun entity => decide (entity.id = id)).map some =
      if now.isMember consumer id && (!seen id || (firstLeaving? history consumer id).isSome) then
        [now.get? id]
      else []
  /-- A member with changes that count is updated. -/
  updated : ∀ id,
    (delta.updated.filter fun update => decide (update.entity.id = id)).map
        (fun update => (some update.entity, update.changed)) =
      if now.isMember consumer id && !(changesSinceEntry history consumer id).isEmpty then
        [(now.get? id, changesSinceEntry history consumer id)]
      else []

/-! ## Records along a stretch -/

/-- The record of an entity sums up a stretch of a run, given the first moment of it at which the
entity left and the changes since it last entered.  The record alone does not tell whether the
entity was seen; it only fits that. -/
structure Summarizes (p : Pending) (id : EntityId) (seen isMember : Bool)
    (left? : Option Moment) (changes : ComponentSet) : Prop where
  /-- What is to be handed out as removed is the value before the first leaving, for whoever has
  seen the entity. -/
  removed?_eq : p.removed?.map some =
    if seen then left?.map fun moment => moment.before.get? id else none
  /-- A member is new if it was not seen, or has been gone in between. -/
  isNew_eq : p.isNew = (isMember && (!seen || left?.isSome))
  /-- The changes of a member are kept, those of others forgotten. -/
  changed_eq : p.changed = if isMember then changes else ∅
  /-- What was seen and never left is still there. -/
  stayed : seen = true → left? = none → isMember = true

namespace Summarizes

variable {p : Pending} {id : EntityId} {seen isMember : Bool} {left? : Option Moment}
  {changes watched : ComponentSet} {last? : Option Entity}

/-- An entity that enters is new, and its earlier changes no longer count. -/
lemma enters (h : Summarizes p id seen false left? changes) :
    Summarizes (p.after false true last? watched) id seen true left? ∅ where
  removed?_eq := h.removed?_eq
  isNew_eq := by
    have hnotSeen : (!seen || left?.isSome) = true := by
      cases hseen : seen with
      | false => rfl
      | true =>
        cases hleft : left? with
        | none => exact absurd (h.stayed hseen hleft) Bool.false_ne_true
        | some moment => rfl
    rw [hnotSeen]
    rfl
  changed_eq := rfl
  stayed := fun _ _ => rfl

/-- An entity that stays adds its changes to those that are kept. -/
lemma stays (h : Summarizes p id seen true left? changes) :
    Summarizes (p.after true true last? watched) id seen true left? (changes.union watched) where
  removed?_eq := h.removed?_eq
  isNew_eq := h.isNew_eq
  changed_eq := by
    change p.changed.union watched = _
    rw [h.changed_eq]
    rfl
  stayed := h.stayed

/-- An entity that leaves takes its changes with it.  If it was new, there is nothing to take back,
unless it was seen and left before; otherwise its last value is kept. -/
lemma leaves {moment : Moment} (h : Summarizes p id seen true left? changes)
    (hregistered : (moment.before.get? id).isSome = true) :
    Summarizes (p.after true false (moment.before.get? id) watched) id seen false
      (left?.or (some moment)) changes := by
  have hleft : left?.or (some moment) ≠ none := by cases left? <;> simp
  have hnew := h.isNew_eq
  rw [Bool.true_and] at hnew
  unfold Pending.after
  cases hunseen : p.isNew with
  | true =>
    refine ⟨?_, rfl, rfl, fun _ h => absurd h hleft⟩
    -- if the entity was seen it left before, and that is what is handed out
    change p.removed?.map some = _
    rw [h.removed?_eq]
    rw [hunseen] at hnew
    cases hseen : seen with
    | false => rfl
    | true =>
      rw [hseen, Bool.not_true, Bool.false_or] at hnew
      obtain ⟨first, hfirst⟩ := Option.isSome_iff_exists.mp hnew.symm
      rw [hfirst, Option.some_or]
  | false =>
    refine ⟨?_, rfl, rfl, fun _ h => absurd h hleft⟩
    rw [hunseen, eq_comm, Bool.or_eq_false_iff, Option.isSome_eq_false_iff,
      Option.isNone_iff_eq_none, Bool.not_eq_false'] at hnew
    obtain ⟨last, hlast⟩ := Option.isSome_iff_exists.mp hregistered
    rw [hnew.1, hnew.2, Option.none_or, hlast]
    simp [hlast]

/-- One more moment is summed up by what it does to the record. -/
lemma append {history : List Moment} {moment : Moment} {consumer : ConsumerId}
    (h : Summarizes p id seen (moment.before.isMember consumer id)
      (firstLeaving? history consumer id) (changesSinceEntry history consumer id))
    (hregistered : moment.before.isMember consumer id = true →
      (moment.before.get? id).isSome = true) :
    Summarizes
      (p.after (moment.before.isMember consumer id) (moment.after.isMember consumer id)
        (moment.before.get? id) (moment.watched consumer id))
      id seen (moment.after.isMember consumer id)
      (firstLeaving? (history ++ [moment]) consumer id)
      (changesSinceEntry (history ++ [moment]) consumer id) := by
  rw [firstLeaving?_append, changesSinceEntry_append]
  unfold Moment.enters Moment.leaves Moment.stays
  -- the four ways of being a member before and after
  cases hwas : moment.before.isMember consumer id with
  | false =>
    rw [hwas] at h
    cases moment.after.isMember consumer id with
    | false => simpa [Pending.after] using h
    | true => simpa using h.enters
  | true =>
    rw [hwas] at h
    cases moment.after.isMember consumer id with
    | false => simpa using h.leaves (hregistered hwas)
    | true => simpa using h.stays

end Summarizes

namespace Store

variable {schema : Schema} {store start : Store} {consumer : ConsumerId}

/-- Where a consumer starts to collect, and which entities it has seen by then: at its creation
none, at a drain the members. -/
inductive StartsCollecting (store : Store) (consumer : ConsumerId) :
    (EntityId → Bool) → Store → Prop where
  /-- A consumer is created. -/
  | created {query : QueryId} {start : Store}
    (h : store.createConsumer query = .ok (consumer, start)) :
    StartsCollecting store consumer (fun _ => false) start
  /-- A consumer is drained. -/
  | drained {delta : Delta} {start : Store} (h : store.drain consumer = .ok (delta, start)) :
    StartsCollecting store consumer (start.isMember consumer) start

/-- At the start of a stretch there is nothing to sum up: a consumer that is created has every
member as new, and one that is drained has blank records. -/
lemma StartsCollecting.summarizes {seen : EntityId → Bool} (hs : store.Accountable schema)
    (h : store.StartsCollecting consumer seen start) :
    start.Accountable schema ∧ consumer.index < start.consumers.length ∧
      ∀ id, Summarizes (start.pendingOf consumer id) id (seen id) (start.isMember consumer id)
        none ∅ := by
  cases h with
  | @created query _ h =>
    have hstart : store.perform (.createConsumer query) = start := by
      rw [perform, h, except_map_ok, orSame_ok]
    obtain ⟨live, -, hcreated⟩ := bind_eq_ok_iff.mp h
    cases hcreated
    have hissued : store.consumers[(ConsumerId.mk store.consumers.length).index]? = none :=
      List.getElem?_eq_none (Nat.le_refl _)
    refine ⟨hstart ▸ accountable_perform store _ hs, ?_, fun id => ?_⟩
    · rw [List.length_append, List.length_singleton]
      exact Nat.lt_succ_self _
    · have hpending :=
        Moment.pendingOf_after_of_notIssued ⟨store, .createConsumer query⟩ hs hissued id
      rw [Moment.after, hstart, (notIssued hissued id).1, (notIssued hissued id).2] at hpending
      rw [hpending]
      cases isMember _ _ id <;> constructor <;> simp [Pending.after]
  | drained h =>
    have hstart : store.perform (.drain consumer) = start := by
      rw [perform, h, except_map_ok, orSame_ok]
    refine ⟨hstart ▸ accountable_perform store _ hs, ?_, fun id => ?_⟩
    · cases hissued : store.consumers[consumer.index]? with
      | none =>
        rw [drain, Store.consumer, hissued] at h
        cases h
      | some entry =>
        obtain ⟨live, -, hserves⟩ := hs.serves hissued
        rw [hserves.drain_eq] at h
        cases h
        rw [Store.setConsumer, List.length_set]
        exact (List.getElem?_eq_some_iff.mp hissued).1
    · have hpending := (pendingOf_drain hs consumer id).1
      rw [hstart] at hpending
      rw [hpending]
      cases start.isMember consumer id <;> constructor <;> simp

/-- Consumers are never given up. -/
lemma length_consumers_le (hs : store.current.WellFormed) (command : StoreCommand) :
    store.consumers.length ≤ (store.perform command).consumers.length := by
  have hstep := step_perform hs command
  generalize store.perform command = next at hstep
  cases hstep with
  | commits _ hadvance => simp [commit_eq hadvance.effective]
  | startsConsumer => simp
  | resets | drains => simp [setConsumer]
  | idle | startsQuery | caches => exact Nat.le_refl _

/-- The records of a consumer sum up every stretch without a drain or a reset of it.  The induction
is on the stretch from its end, because what counts is the last entry. -/
lemma summarizes_run {seen : EntityId → Bool} (hs : store.Accountable schema)
    (h : store.StartsCollecting consumer seen start) (commands : List StoreCommand)
    (hquiet : ∀ command ∈ commands,
      command ≠ .drain consumer ∧ command ≠ .resetConsumer consumer) :
    (start.run commands).Accountable schema ∧
      consumer.index < (start.run commands).consumers.length ∧
      ∀ id, Summarizes ((start.run commands).pendingOf consumer id) id (seen id)
        ((start.run commands).isMember consumer id)
        (firstLeaving? (start.moments commands) consumer id)
        (changesSinceEntry (start.moments commands) consumer id) := by
  induction commands using List.reverseRecOn with
  | nil => exact h.summarizes hs
  | append_singleton commands command ih =>
    obtain ⟨hnow, hissued, hsummary⟩ :=
      ih fun command hcommand => hquiet command (List.mem_append_left _ hcommand)
    obtain ⟨hdrain, hreset⟩ := hquiet command (List.mem_append_right _ List.mem_cons_self)
    rw [run_append, moments_append]
    refine ⟨accountable_perform _ command hnow,
      Nat.lt_of_lt_of_le hissued (length_consumers_le hnow.current.2 command), fun id => ?_⟩
    have hpending := Moment.pendingOf_after ⟨start.run commands, command⟩ hnow hdrain hreset id
    rw [Moment.after] at hpending
    rw [run_cons, run_nil, hpending]
    exact (hsummary id).append hnow.isSome_get?

/-- **A drain hands out what happened since the last one.**  After a consumer was created or
drained, and then not reset, its next drain succeeds and reports the stretch in between. -/
theorem drain_reports (schema : Schema) (historyDepth : Nat) (earlier commands : List StoreCommand)
    {consumer : ConsumerId} {seen : EntityId → Bool} {start : Store}
    (hstart : ((Store.empty schema historyDepth).run earlier).StartsCollecting consumer seen start)
    (hquiet : ∀ command ∈ commands,
      command ≠ .drain consumer ∧ command ≠ .resetConsumer consumer) :
    ∃ delta next, (start.run commands).drain consumer = .ok (delta, next) ∧
      delta.Reports consumer seen (start.moments commands) (start.run commands) := by
  have hs := accountable_run schema historyDepth earlier
  obtain ⟨hnow, hissued, hsummary⟩ := summarizes_run hs hstart commands hquiet
  obtain ⟨live, -, hserves⟩ := hnow.serves (List.getElem?_eq_getElem hissued)
  refine ⟨_, _, hserves.drain_eq, ?_⟩
  have hregistered : ∀ id, (start.run commands).isMember consumer id = true →
      ∃ current, (start.run commands).get? id = some current :=
    fun id h => Option.isSome_iff_exists.mp (hnow.isSome_get? h)
  constructor
  · intro id
    rw [(filter_drain hnow hserves.drain_eq id).1, ← Option.toList_map,
      (hsummary id).removed?_eq]
    cases seen id <;> rfl
  · intro id
    rw [(filter_drain hnow hserves.drain_eq id).2.1, (hsummary id).isNew_eq]
    cases hmember : (start.run commands).isMember consumer id with
    | false => rfl
    | true =>
      obtain ⟨current, hcurrent⟩ := hregistered id hmember
      rw [hcurrent]
      split <;> rfl
  · intro id
    rw [(filter_drain hnow hserves.drain_eq id).2.2, (hsummary id).changed_eq]
    cases hmember : (start.run commands).isMember consumer id with
    | false => rfl
    | true =>
      obtain ⟨current, hcurrent⟩ := hregistered id hmember
      rw [hcurrent]
      cases hempty : (changesSinceEntry (start.moments commands) consumer id).isEmpty <;>
        simp [hempty]

/-- The consumer of `typedCommands` is drained, then its member goes, and it is drained again. -/
theorem drain_reports_typed :
    ∃ seen start,
      ((Store.empty typedSchema 0).run typedCommands).StartsCollecting ⟨0⟩ seen start ∧
        ∃ delta next, (start.run [.deregister ⟨1⟩]).drain ⟨0⟩ = .ok (delta, next) ∧
          delta.Reports ⟨0⟩ seen (start.moments [.deregister ⟨1⟩])
            (start.run [.deregister ⟨1⟩]) := by
  have hok :
      (((Store.empty typedSchema 0).run typedCommands).drain ⟨0⟩).toOption.isSome = true := by
    decide +kernel
  obtain ⟨⟨delta, start⟩, hdrain⟩ := Option.isSome_iff_exists.mp hok
  have hstart := StartsCollecting.drained (toOption_eq_some_iff.mp hdrain)
  exact ⟨_, start, hstart,
    drain_reports typedSchema 0 typedCommands [.deregister ⟨1⟩] hstart (by simp)⟩

end Store

end SceneEngine
