import Mathlib.Data.Finset.Basic
import Mathlib.Data.List.Induction
import SceneEngine.Proofs.Store.Consumers

/-!
# Reading deltas

A reader of a consumer knows its query by the deltas alone: it takes out what is removed and puts in
what is new.  Without resets its view is the members after every drain.  A reset marks the members
as new, also those that were handed out before; when such an entity leaves before the next drain,
the consumer takes it for one that nobody has seen, and its removal is never handed out.  This
module shows that these are the only entities that a reader gets wrong.

## What a reader knows

`Delta.replay` is what a reader makes of a delta, and `Store.view` what it has made of all deltas of
a run.  `Store.ReplaysExactly` is that the view is the members after every drain.

## What it may overlook

`Store.Steady` says that an entity was a member at the last drain and has been ever since: it was
handed out, and nothing happened to it.  `Store.Remarked` says that a reset came upon such an
entity, and `Store.Overlooks` that it left before the next drain.  All three speak of members and
commands only, not of the records of the consumer.

## Why there is nothing else

As long as a reader has been right, every entity has one of three standings (`Store.Standing`): it
is steady, it was marked again, or the next drain will say what the reader has to know.  A command
that neither drains nor resets keeps a standing (`Standing.append`), a reset turns steady into
marked again (`Standing.reset`), and at a drain the reader is wrong just about those that were
marked again and left (`Standing.mem_view_drain_iff`).  If there are none, everything stands anew
(`Standing.drain`).

The main result is `Store.replaysExactly_iff`, and `Store.not_forall_replaysExactly` a run in which
a reader overlooks something.
-/

namespace SceneEngine

/-! ## Views -/

/-- The view of a reader after a delta.  What is removed goes first, since an entity that left and
came back is under both headings. -/
def Delta.replay (delta : Delta) (view : Finset EntityId) : Finset EntityId :=
  (view \ (delta.removed.map Entity.id).toFinset) ∪ (delta.new.map Entity.id).toFinset

/-- The view of the reader of a consumer after a moment.  Only drains of this consumer are read. -/
def Moment.read (moment : Moment) (consumer : ConsumerId) (view : Finset EntityId) :
    Finset EntityId :=
  match moment.command with
  | .drain drained =>
    if drained = consumer then
      match moment.before.drain consumer with
      | .ok (delta, _) => delta.replay view
      | .error _ => view
    else view
  | _ => view

lemma Delta.mem_replay {delta : Delta} {view : Finset EntityId} {id : EntityId} :
    id ∈ delta.replay view ↔
      (id ∈ view ∧ delta.removed.filter (fun entity => decide (entity.id = id)) = []) ∨
        delta.new.filter (fun entity => decide (entity.id = id)) ≠ [] := by
  unfold Delta.replay
  rw [Finset.mem_union, Finset.mem_sdiff, List.mem_toFinset, List.mem_toFinset, ne_eq,
    List.filter_eq_nil_iff, List.filter_eq_nil_iff]
  simp

namespace Store

/-- The view of the reader of a consumer after a run, at first empty. -/
def view (store : Store) (consumer : ConsumerId) (commands : List StoreCommand) :
    Finset EntityId :=
  (store.moments commands).foldl (fun view moment => moment.read consumer view) ∅

/-- After every drain of a consumer in a run, the view of its reader is the members. -/
def ReplaysExactly (store : Store) (consumer : ConsumerId) (commands : List StoreCommand) : Prop :=
  ∀ done, done ++ [.drain consumer] <+: commands → ∀ id,
    id ∈ store.view consumer (done ++ [.drain consumer]) ↔
      (store.run (done ++ [.drain consumer])).isMember consumer id = true

/-- An entity was a member at the last drain of a consumer and at every point since. -/
def Steady (store : Store) (consumer : ConsumerId) (id : EntityId)
    (commands : List StoreCommand) : Prop :=
  ∃ before quiet, commands = before ++ .drain consumer :: quiet ∧ .drain consumer ∉ quiet ∧
    ∀ part, part <+: quiet →
      (store.run (before ++ .drain consumer :: part)).isMember consumer id = true

/-- Since the last drain of a consumer there was a reset of it, up to which an entity was
steadily a member. -/
def Remarked (store : Store) (consumer : ConsumerId) (id : EntityId)
    (commands : List StoreCommand) : Prop :=
  ∃ before rest, commands = before ++ .resetConsumer consumer :: rest ∧ .drain consumer ∉ rest ∧
    store.Steady consumer id before

/-- At some drain of a consumer in a run, an entity that was marked again by a reset is no longer
a member. -/
def Overlooks (store : Store) (consumer : ConsumerId) (id : EntityId)
    (commands : List StoreCommand) : Prop :=
  ∃ before after, commands = before ++ .drain consumer :: after ∧
    store.Remarked consumer id before ∧ (store.run before).isMember consumer id = false

/-! ## One more command -/

section

variable {schema : Schema} {store : Store} {consumer : ConsumerId} {id : EntityId}
  {commands : List StoreCommand} {command : StoreCommand}

lemma run_append_singleton (store : Store) (commands : List StoreCommand)
    (command : StoreCommand) :
    store.run (commands ++ [command]) = (store.run commands).perform command := by
  rw [run_append, run_cons, run_nil]

lemma view_append_singleton (store : Store) (consumer : ConsumerId)
    (commands : List StoreCommand) (command : StoreCommand) :
    store.view consumer (commands ++ [command]) =
      Moment.read ⟨store.run commands, command⟩ consumer (store.view consumer commands) := by
  unfold view
  rw [moments_append, List.foldl_append]
  rfl

lemma not_steady_nil : ¬store.Steady consumer id [] := by
  rintro ⟨before, quiet, h, -⟩
  exact List.append_ne_nil_of_right_ne_nil _ (List.cons_ne_nil _ _) h.symm

lemma not_remarked_nil : ¬store.Remarked consumer id [] := by
  rintro ⟨before, rest, h, -⟩
  exact List.append_ne_nil_of_right_ne_nil _ (List.cons_ne_nil _ _) h.symm

/-- Right after a drain the members are steady. -/
lemma steady_drain : store.Steady consumer id (commands ++ [.drain consumer]) ↔
    (store.run (commands ++ [.drain consumer])).isMember consumer id = true := by
  constructor
  · rintro ⟨before, quiet, h, hquiet, hmember⟩
    rw [h]
    exact hmember quiet (List.prefix_refl _)
  · intro h
    refine ⟨commands, [], rfl, List.not_mem_nil, fun part hpart => ?_⟩
    rw [List.prefix_nil.mp hpart]
    exact h

/-- After any other command the steady entities are those that are still members. -/
lemma steady_append (hdrain : command ≠ .drain consumer) :
    store.Steady consumer id (commands ++ [command]) ↔
      store.Steady consumer id commands ∧
        (store.run (commands ++ [command])).isMember consumer id = true := by
  constructor
  · rintro ⟨before, quiet, h, hquiet, hmember⟩
    rcases append_singleton_eq_iff.mp h with ⟨-, -, hlast⟩ | ⟨quiet, rfl, rfl⟩
    · exact absurd hlast hdrain
    · refine ⟨⟨before, quiet, rfl, fun hmem => hquiet (List.mem_append_left _ hmem),
        fun part hpart => hmember part (hpart.trans (List.prefix_append _ _))⟩, ?_⟩
      rw [h]
      exact hmember _ (List.prefix_refl _)
  · rintro ⟨⟨before, quiet, rfl, hquiet, hmember⟩, hnow⟩
    refine ⟨before, quiet ++ [command], by simp, ?_, fun part hpart => ?_⟩
    · intro hmem
      rcases List.mem_append.mp hmem with hmem | hmem
      · exact hquiet hmem
      · exact hdrain (List.mem_singleton.mp hmem).symm
    · rcases List.prefix_concat_iff.mp hpart with rfl | hpart
      · simpa using hnow
      · exact hmember part hpart

lemma not_remarked_drain : ¬store.Remarked consumer id (commands ++ [.drain consumer]) := by
  rintro ⟨before, rest, h, hrest, -⟩
  rcases append_singleton_eq_iff.mp h with ⟨-, -, hlast⟩ | ⟨rest, rfl, -⟩
  · cases hlast
  · exact hrest (List.mem_append_right _ List.mem_cons_self)

/-- A reset marks the steady entities again. -/
lemma remarked_reset : store.Remarked consumer id (commands ++ [.resetConsumer consumer]) ↔
    store.Steady consumer id commands ∨ store.Remarked consumer id commands := by
  constructor
  · rintro ⟨before, rest, h, hrest, hsteady⟩
    rcases append_singleton_eq_iff.mp h with ⟨-, rfl, -⟩ | ⟨rest, rfl, rfl⟩
    · exact Or.inl hsteady
    · exact Or.inr ⟨before, rest, rfl, fun hmem => hrest (List.mem_append_left _ hmem), hsteady⟩
  · rintro (hsteady | ⟨before, rest, rfl, hrest, hsteady⟩)
    · exact ⟨commands, [], rfl, List.not_mem_nil, hsteady⟩
    · exact ⟨before, rest ++ [.resetConsumer consumer], by simp, by simpa using hrest, hsteady⟩

lemma remarked_append (hdrain : command ≠ .drain consumer)
    (hreset : command ≠ .resetConsumer consumer) :
    store.Remarked consumer id (commands ++ [command]) ↔ store.Remarked consumer id commands := by
  constructor
  · rintro ⟨before, rest, h, hrest, hsteady⟩
    rcases append_singleton_eq_iff.mp h with ⟨-, -, hlast⟩ | ⟨rest, rfl, rfl⟩
    · exact absurd hlast hreset
    · exact ⟨before, rest, rfl, fun hmem => hrest (List.mem_append_left _ hmem), hsteady⟩
  · rintro ⟨before, rest, rfl, hrest, hsteady⟩
    exact ⟨before, rest ++ [command], by simp, by simpa [hrest] using hdrain.symm, hsteady⟩

lemma not_overlooks_nil : ¬store.Overlooks consumer id [] := by
  rintro ⟨before, after, h, -⟩
  exact List.append_ne_nil_of_right_ne_nil _ (List.cons_ne_nil _ _) h.symm

lemma overlooks_append : store.Overlooks consumer id (commands ++ [command]) ↔
    store.Overlooks consumer id commands ∨
      (command = .drain consumer ∧ store.Remarked consumer id commands ∧
        (store.run commands).isMember consumer id = false) := by
  constructor
  · rintro ⟨before, after, h, hremarked, hgone⟩
    rcases append_singleton_eq_iff.mp h with ⟨-, rfl, hlast⟩ | ⟨after, rfl, rfl⟩
    · exact Or.inr ⟨hlast, hremarked, hgone⟩
    · exact Or.inl ⟨before, after, rfl, hremarked, hgone⟩
  · rintro (⟨before, after, rfl, hremarked, hgone⟩ | ⟨rfl, hremarked, hgone⟩)
    · exact ⟨before, after ++ [command], by simp, hremarked, hgone⟩
    · exact ⟨commands, [], rfl, hremarked, hgone⟩

lemma replaysExactly_append : store.ReplaysExactly consumer (commands ++ [command]) ↔
    store.ReplaysExactly consumer commands ∧
      (command = .drain consumer → ∀ id,
        id ∈ store.view consumer (commands ++ [command]) ↔
          (store.run (commands ++ [command])).isMember consumer id = true) := by
  constructor
  · intro h
    refine ⟨fun done hdone => h done (hdone.trans (List.prefix_append _ _)), ?_⟩
    rintro rfl
    exact h commands (List.prefix_refl _)
  · rintro ⟨hbefore, hlast⟩ done hdone
    rcases List.prefix_concat_iff.mp hdone with hall | hdone
    · obtain ⟨rfl, hcommand⟩ := List.append_inj' hall rfl
      obtain rfl := List.singleton_inj.mp hcommand
      exact hlast rfl
    · exact hbefore done hdone

lemma Steady.isMember (h : store.Steady consumer id commands) :
    (store.run commands).isMember consumer id = true := by
  obtain ⟨before, quiet, rfl, -, hmember⟩ := h
  exact hmember quiet (List.prefix_refl _)

/-! ## What a reader gets right -/

lemma read_of_ne (hdrain : command ≠ .drain consumer) (view : Finset EntityId) :
    Moment.read ⟨store, command⟩ consumer view = view := by
  unfold Moment.read
  split
  next drained hcommand =>
    have hother : drained ≠ consumer := by
      rintro rfl
      exact hdrain hcommand
    rw [if_neg hother]
  · rfl

/-- After a drain a reader knows what was new and what was not removed. -/
lemma mem_read_drain (hs : store.Accountable schema) (view : Finset EntityId) :
    id ∈ Moment.read ⟨store, .drain consumer⟩ consumer view ↔
      ((store.pendingOf consumer id).isNew = true ∧ (store.get? id).isSome = true) ∨
        (id ∈ view ∧ (store.pendingOf consumer id).removed? = none) := by
  unfold Moment.read
  simp only [if_true]
  cases hissued : store.consumers[consumer.index]? with
  | none =>
    rw [(notIssued hissued id).2, drain, Store.consumer, hissued]
    simp
  | some entry =>
    obtain ⟨live, -, hserves⟩ := hs.serves hissued
    obtain ⟨hremoved, hnew, -⟩ := filter_drain hs hserves.drain_eq id
    rw [hserves.drain_eq]
    dsimp only
    rw [Delta.mem_replay, hremoved, hnew]
    cases (store.pendingOf consumer id).isNew <;>
      cases (store.pendingOf consumer id).removed? <;> cases store.get? id <;> simp

/-- How an entity stands with a consumer and its reader, as long as the reader was right.  Each case
says what is in the record of the entity and in the view, which is enough to say the same after the
next command. -/
inductive Standing (store : Store) (consumer : ConsumerId) (id : EntityId)
    (commands : List StoreCommand) : Prop where
  /-- It was handed out, and nothing happened to it since. -/
  | steady (hsteady : store.Steady consumer id commands)
    (hremarked : ¬store.Remarked consumer id commands)
    (hremoved : ((store.run commands).pendingOf consumer id).removed? = none)
    (hnew : ((store.run commands).pendingOf consumer id).isNew = false)
    (hview : id ∈ store.view consumer commands)
  /-- It was handed out, and then marked again; its leaving will not be handed out. -/
  | remarked (hremarked : store.Remarked consumer id commands)
    (hremoved : ((store.run commands).pendingOf consumer id).removed? = none)
    (hnew : ((store.run commands).pendingOf consumer id).isNew =
      (store.run commands).isMember consumer id)
    (hview : id ∈ store.view consumer commands)
  /-- The next drain will say what the reader has to know. -/
  | settled (hsteady : ¬store.Steady consumer id commands)
    (hremarked : ¬store.Remarked consumer id commands)
    (hnew : ((store.run commands).pendingOf consumer id).isNew =
      (store.run commands).isMember consumer id)
    (hview : id ∈ store.view consumer commands →
      ((store.run commands).pendingOf consumer id).removed?.isSome = true)

lemma standing_nil (schema : Schema) (historyDepth : Nat) :
    (Store.empty schema historyDepth).Standing consumer id [] := by
  have hissued : (Store.empty schema historyDepth).consumers[consumer.index]? = none :=
    List.getElem?_nil
  obtain ⟨hmember, hpending⟩ := notIssued hissued id
  refine .settled not_steady_nil not_remarked_nil ?_ fun h => absurd h (Finset.notMem_empty id)
  rw [run_nil, hpending, hmember]

/-- A command that neither drains nor resets keeps the standing of an entity, or settles it. -/
lemma Standing.append (hs : (store.run commands).Accountable schema)
    (h : store.Standing consumer id commands) (hdrain : command ≠ .drain consumer)
    (hreset : command ≠ .resetConsumer consumer) :
    store.Standing consumer id (commands ++ [command]) := by
  have hview : id ∈ store.view consumer (commands ++ [command]) ↔
      id ∈ store.view consumer commands := by
    rw [view_append_singleton, read_of_ne hdrain]
  have hpending := Moment.pendingOf_after ⟨store.run commands, command⟩ hs hdrain hreset id
  have hafter : Moment.after ⟨store.run commands, command⟩ = store.run (commands ++ [command]) :=
    (run_append_singleton store commands command).symm
  rw [hafter] at hpending
  dsimp only at hpending
  cases h with
  | steady hsteady hremarked hremoved hnew hmem =>
    rw [hsteady.isMember] at hpending
    have hremarked' := mt (remarked_append hdrain hreset).mp hremarked
    cases hnow : (store.run (commands ++ [command])).isMember consumer id with
    | true =>
      rw [hnow] at hpending
      refine .steady ((steady_append hdrain).mpr ⟨hsteady, hnow⟩) hremarked' ?_ ?_ (hview.mpr hmem)
      · rw [hpending]
        exact hremoved
      · rw [hpending]
        exact hnew
    | false =>
      -- it leaves, and the consumer remembers that
      rw [hnow] at hpending
      refine .settled (fun h => ?_) hremarked' ?_ fun _ => ?_
      · exact Bool.false_ne_true (hnow.symm.trans h.isMember)
      · rw [hpending, hnow]
        simp [Pending.after, hnew]
      · rw [hpending]
        simpa [Pending.after, hnew] using hs.isSome_get? hsteady.isMember
  | remarked hremarked hremoved hnew hmem =>
    obtain ⟨hnew', hremoved'⟩ := Pending.after_of_isNew hnew
    refine .remarked ((remarked_append hdrain hreset).mpr hremarked) ?_ ?_ (hview.mpr hmem)
    · rw [hpending, hremoved', hremoved]
    · rw [hpending, hnew']
  | settled hsteady hremarked hnew hmem =>
    obtain ⟨hnew', hremoved'⟩ := Pending.after_of_isNew hnew
    refine .settled (fun h => hsteady ((steady_append hdrain).mp h).1)
      (mt (remarked_append hdrain hreset).mp hremarked) ?_ fun h => ?_
    · rw [hpending, hnew']
    · rw [hpending, hremoved']
      exact hmem (hview.mp h)

/-- A reset marks an entity again if it was steady. -/
lemma Standing.reset (hs : (store.run commands).Accountable schema)
    (h : store.Standing consumer id commands) :
    store.Standing consumer id (commands ++ [.resetConsumer consumer]) := by
  have hdrain : StoreCommand.resetConsumer consumer ≠ .drain consumer := nofun
  have hview : id ∈ store.view consumer (commands ++ [.resetConsumer consumer]) ↔
      id ∈ store.view consumer commands := by
    rw [view_append_singleton, read_of_ne hdrain]
  obtain ⟨hpending, hmember⟩ := pendingOf_reset hs consumer id
  rw [← run_append_singleton] at hpending hmember
  have hnew : ((store.run (commands ++ [.resetConsumer consumer])).pendingOf consumer id).isNew =
      (store.run (commands ++ [.resetConsumer consumer])).isMember consumer id := by
    rw [hpending, hmember]
  have hremoved :
      ((store.run (commands ++ [.resetConsumer consumer])).pendingOf consumer id).removed? =
        ((store.run commands).pendingOf consumer id).removed? := by
    rw [hpending]
  cases h with
  | steady hsteady _ hnone _ hmem =>
    exact .remarked (remarked_reset.mpr (Or.inl hsteady)) (hremoved.trans hnone) hnew
      (hview.mpr hmem)
  | remarked hremarked hnone _ hmem =>
    exact .remarked (remarked_reset.mpr (Or.inr hremarked)) (hremoved.trans hnone) hnew
      (hview.mpr hmem)
  | settled hsteady hremarked _ hmem =>
    refine .settled (fun h => hsteady ((steady_append hdrain).mp h).1) (fun h => ?_) hnew
      fun h => ?_
    · exact (remarked_reset.mp h).elim hsteady hremarked
    · rw [hremoved]
      exact hmem (hview.mp h)

/-- At a drain a reader is wrong about the entities that were marked again and left, and right about
all others. -/
lemma Standing.mem_view_drain_iff (hs : (store.run commands).Accountable schema)
    (h : store.Standing consumer id commands) :
    (id ∈ store.view consumer (commands ++ [.drain consumer]) ↔
        (store.run (commands ++ [.drain consumer])).isMember consumer id = true) ↔
      ¬(store.Remarked consumer id commands ∧
        (store.run commands).isMember consumer id = false) := by
  rw [view_append_singleton, mem_read_drain hs, run_append_singleton,
    (pendingOf_drain hs consumer id).2]
  have hregistered : (store.run commands).isMember consumer id = true →
      ((store.run commands).get? id).isSome = true := hs.isSome_get?
  cases h with
  | steady hsteady hremarked hremoved hnew hmem =>
    simp [hsteady.isMember, hremarked, hremoved, hmem]
  | remarked hremarked hremoved hnew hmem =>
    cases hmember : (store.run commands).isMember consumer id <;>
      simp [hremarked, hremoved, hmem]
  | settled hsteady hremarked hnew hmem =>
    rw [hnew]
    cases hmember : (store.run commands).isMember consumer id with
    | false =>
      have hgone : ¬(id ∈ store.view consumer commands ∧
          ((store.run commands).pendingOf consumer id).removed? = none) := by
        rintro ⟨hview, hnone⟩
        simpa [hnone] using hmem hview
      simp [hremarked, hgone]
    | true => simp [hremarked, hregistered hmember]

/-- After a drain an entity about which the reader is right stands anew. -/
lemma Standing.drain (hs : (store.run commands).Accountable schema)
    (hright : id ∈ store.view consumer (commands ++ [.drain consumer]) ↔
      (store.run (commands ++ [.drain consumer])).isMember consumer id = true) :
    store.Standing consumer id (commands ++ [.drain consumer]) := by
  have hpending := (pendingOf_drain hs consumer id).1
  rw [← run_append_singleton] at hpending
  cases hmember : (store.run (commands ++ [.drain consumer])).isMember consumer id with
  | true =>
    refine .steady (steady_drain.mpr hmember) not_remarked_drain ?_ ?_ (hright.mpr hmember)
    · rw [hpending]
    · rw [hpending]
  | false =>
    have hgone : id ∉ store.view consumer (commands ++ [.drain consumer]) := by
      rw [hright, hmember]
      exact Bool.false_ne_true
    refine .settled (fun h => ?_) not_remarked_drain ?_ fun h => absurd h hgone
    · exact Bool.false_ne_true (hmember.symm.trans h.isMember)
    · rw [hpending, hmember]

end

/-- **A reader is right unless it overlooks something.**  In a run the view of a reader is the
members after every drain exactly when no entity that was handed out, and marked again by a reset
while it was still there, has left by the next drain. -/
theorem replaysExactly_iff (schema : Schema) (historyDepth : Nat) (consumer : ConsumerId)
    (commands : List StoreCommand) :
    (Store.empty schema historyDepth).ReplaysExactly consumer commands ↔
      ∀ id, ¬(Store.empty schema historyDepth).Overlooks consumer id commands := by
  -- as long as the reader is right, every entity has a standing
  suffices h : ((Store.empty schema historyDepth).ReplaysExactly consumer commands ↔
      ∀ id, ¬(Store.empty schema historyDepth).Overlooks consumer id commands) ∧
      ((Store.empty schema historyDepth).ReplaysExactly consumer commands →
        ∀ id, (Store.empty schema historyDepth).Standing consumer id commands) from h.1
  induction commands using List.reverseRecOn with
  | nil =>
    refine ⟨⟨fun _ _ => not_overlooks_nil, fun _ done hdone => ?_⟩, fun _ _ => standing_nil _ _⟩
    have hnil := List.prefix_nil.mp hdone
    exact absurd hnil (List.append_ne_nil_of_right_ne_nil _ (List.cons_ne_nil _ _))
  | append_singleton commands command ih =>
    obtain ⟨hiff, hstanding⟩ := ih
    have hs := accountable_run schema historyDepth commands
    by_cases hdrain : command = .drain consumer
    · subst hdrain
      constructor
      · constructor
        · intro h id hoverlooks
          obtain ⟨hbefore, hlast⟩ := replaysExactly_append.mp h
          rcases overlooks_append.mp hoverlooks with hold | ⟨-, hmissed⟩
          · exact hiff.mp hbefore id hold
          · exact ((hstanding hbefore id).mem_view_drain_iff hs).mp (hlast rfl id) hmissed
        · intro h
          have hbefore := hiff.mpr fun id hold => h id (overlooks_append.mpr (Or.inl hold))
          refine replaysExactly_append.mpr ⟨hbefore, fun _ id => ?_⟩
          exact ((hstanding hbefore id).mem_view_drain_iff hs).mpr fun hmissed =>
            h id (overlooks_append.mpr (Or.inr ⟨rfl, hmissed⟩))
      · intro h id
        exact Standing.drain hs ((replaysExactly_append.mp h).2 rfl id)
    · have hoverlooks : ∀ id,
          (Store.empty schema historyDepth).Overlooks consumer id (commands ++ [command]) ↔
            (Store.empty schema historyDepth).Overlooks consumer id commands := by
        intro id
        rw [overlooks_append]
        exact or_iff_left fun h => hdrain h.1
      have hreplays : (Store.empty schema historyDepth).ReplaysExactly consumer
          (commands ++ [command]) ↔
            (Store.empty schema historyDepth).ReplaysExactly consumer commands := by
        rw [replaysExactly_append]
        exact and_iff_left fun h => absurd h hdrain
      simp only [hoverlooks, hreplays]
      refine ⟨hiff, fun h id => ?_⟩
      by_cases hreset : command = .resetConsumer consumer
      · exact hreset ▸ (hstanding h id).reset hs
      · exact (hstanding h id).append hs hdrain hreset

/-- A reader does not get every run right: the member of `typedCommands` is handed out, marked
again by a reset, and gone by the next drain. -/
theorem not_forall_replaysExactly :
    ¬∀ (schema : Schema) (historyDepth : Nat) (consumer : ConsumerId)
      (commands : List StoreCommand),
      (Store.empty schema historyDepth).ReplaysExactly consumer commands := by
  intro h
  have hlast := h typedSchema 0 ⟨0⟩
    (typedCommands ++ [.drain ⟨0⟩, .resetConsumer ⟨0⟩, .deregister ⟨1⟩] ++ [.drain ⟨0⟩])
    _ (List.prefix_refl _) ⟨1⟩
  revert hlast
  decide +kernel

end Store

end SceneEngine
