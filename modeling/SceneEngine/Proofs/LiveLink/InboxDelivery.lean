import SceneEngine.LiveLink.Inbox
import SceneEngine.Proofs.Ordered.Collections

/-!
# What an inbox hands out

Messages arrive at any time and are taken between frames.  A gate can hold the inbox while some work
is done, and then messages accumulate.  Nothing may get lost, doubled or out of order meanwhile, and
nothing may be handed out too early or held too long.  This module shows that, for everything that
can be done with an inbox and its gates in any order.

## Histories

A history is a list of commands (`InboxCommand`): messages are sent, gates made, opened, abandoned,
looked at and given to the inbox, and messages are taken.  What should happen is read off the
history alone: which messages were sent, which gates are pending (`IsPending`), and which gate was
the newest that was to hold the inbox (`LastHold`).  A gate may be given to the inbox after it was
opened, or when it was never made; nothing excludes that.

## Gates

What a gate is found to be depends on whether its handle is still around.  A gate remembers what it
was found to be, and `Gate.Sound` says what keeps this memory right.  The handles of an inbox are
what a history says about gates (`isPending_iff`), so a look at a gate finds it pending exactly when
the history says so (`Inbox.Polls`).

## The invariant

A message is at any time in one of three places: among those that have arrived, among those held
back, or handed out.  Read in the opposite order the three make up what was sent: this is the main
part of `Inbox.Accounts`.  It also says that the newest gate holds the inbox unless it is pending no
more (`Inbox.TracksHold`).  Every command keeps it (`Accounts.perform`), with one lemma for each,
and `Accounts.take` says what is handed out.

The main result is `Inbox.delivers_in_order`.  `Inbox.isHeld_iff` says the same of the question
whether the inbox is held.
-/

namespace SceneEngine.LiveLink

/-! ## Histories -/

/-- What can be done with an inbox.  The handle of a gate is used or dropped by someone else. -/
inductive InboxCommand where
  /-- A message arrives. -/
  | send (message : Message)
  /-- A gate is made, and its handle given to whoever asked. -/
  | newGate (label : String)
  /-- The handle of a gate is used. -/
  | openGate (id : GateId)
  /-- The handle of a gate is dropped. -/
  | abandonGate (id : GateId)
  /-- Someone looks at a gate. -/
  | pollGate (id : GateId)
  /-- A gate is to hold the inbox. -/
  | holdUntil (id : GateId)
  /-- Someone asks whether the inbox is held. -/
  | isHeld
  /-- The messages that are ready are taken. -/
  | take

namespace InboxCommand

/-- The message that a command sends. -/
def message? : InboxCommand → Option Message
  | .send message => some message
  | _ => none

/-- Whether a command makes a gate. -/
def makesGate : InboxCommand → Bool
  | .newGate _ => true
  | _ => false

/-- What a command does with the handles of the gates made so far. -/
def passHandles : InboxCommand → List Bool → List Bool
  | .newGate _, handles => handles ++ [true]
  | .openGate id, handles | .abandonGate id, handles => handles.set id.index false
  | _, handles => handles

end InboxCommand

variable {history before before' after after' : List InboxCommand} {command : InboxCommand}
  {id id' : GateId}

/-- The messages that were sent. -/
def sent (history : List InboxCommand) : List Message := history.filterMap InboxCommand.message?

/-- How many gates were made. -/
def gatesMade (history : List InboxCommand) : Nat := history.countP InboxCommand.makesGate

/-- A gate is pending from when it is made until its handle is used or dropped.  Gates are known by
the order in which they were made. -/
def IsPending (history : List InboxCommand) (id : GateId) : Prop :=
  ∃ before label after, history = before ++ .newGate label :: after ∧
    gatesMade before = id.index ∧ .openGate id ∉ after ∧ .abandonGate id ∉ after

/-- Which handles are around, in the order in which the gates were made. -/
def handlesLeft (history : List InboxCommand) : List Bool :=
  history.foldl (fun handles command => command.passHandles handles) []

/-- The newest gate that was to hold the inbox, with what was done before and since. -/
def LastHold (history before : List InboxCommand) (id : GateId) (after : List InboxCommand) :
    Prop :=
  history = before ++ .holdUntil id :: after ∧ ∀ other, .holdUntil other ∉ after

lemma sent_concat : sent (history ++ [command]) = sent history ++ command.message?.toList := by
  unfold sent
  rw [List.filterMap_append]
  cases command <;> rfl

lemma gatesMade_concat :
    gatesMade (history ++ [command]) = gatesMade history + command.makesGate.toNat := by
  unfold gatesMade
  rw [List.countP_append, List.countP_singleton]
  cases command <;> rfl

lemma gatesMade_le_append (history later : List InboxCommand) :
    gatesMade history ≤ gatesMade (history ++ later) := by
  unfold gatesMade
  rw [List.countP_append]
  omega

/-- A gate is pending after a command that makes it, and stays pending under a command that does
not touch its handle. -/
lemma isPending_concat :
    IsPending (history ++ [command]) id ↔
      (command.makesGate = true ∧ gatesMade history = id.index) ∨
        (IsPending history id ∧ command ≠ .openGate id ∧ command ≠ .abandonGate id) := by
  constructor
  · rintro ⟨before, label, after, hsplit, hmade, hopen, habandon⟩
    rcases append_singleton_eq_iff.mp hsplit with ⟨-, rfl, rfl⟩ | ⟨after, rfl, rfl⟩
    · exact Or.inl ⟨rfl, hmade⟩
    · simp only [List.mem_append, List.mem_singleton, not_or] at hopen habandon
      exact Or.inr ⟨⟨before, label, after, rfl, hmade, hopen.1, habandon.1⟩,
        Ne.symm hopen.2, Ne.symm habandon.2⟩
  · rintro (⟨hmakes, hmade⟩ | ⟨⟨before, label, after, rfl, hmade, hopen, habandon⟩, hne, hne'⟩)
    · cases command with
      | newGate label =>
        exact ⟨history, label, [], rfl, hmade, List.not_mem_nil, List.not_mem_nil⟩
      | _ => cases hmakes
    · refine ⟨before, label, after ++ [command], by simp, hmade, ?_, ?_⟩
      · simpa [hopen] using Ne.symm hne
      · simpa [habandon] using Ne.symm hne'

lemma lastHold_concat :
    LastHold (history ++ [command]) before id after ↔
      (after = [] ∧ before = history ∧ command = .holdUntil id) ∨
        ((∀ other, command ≠ .holdUntil other) ∧
          ∃ since, after = since ++ [command] ∧ LastHold history before id since) := by
  constructor
  · rintro ⟨hsplit, hnone⟩
    rcases append_singleton_eq_iff.mp hsplit with ⟨rfl, rfl, rfl⟩ | ⟨since, rfl, rfl⟩
    · exact Or.inl ⟨rfl, rfl, rfl⟩
    · simp only [List.mem_append, List.mem_singleton, not_or] at hnone
      exact Or.inr ⟨fun other => Ne.symm (hnone other).2,
        since, rfl, rfl, fun other => (hnone other).1⟩
  · rintro (⟨rfl, rfl, rfl⟩ | ⟨hother, since, rfl, rfl, hnone⟩)
    · exact ⟨rfl, fun _ => List.not_mem_nil⟩
    · refine ⟨by simp, fun other => ?_⟩
      simpa [hnone other] using Ne.symm (hother other)

/-- There is only one newest gate. -/
lemma LastHold.unique (h : LastHold history before id after)
    (h' : LastHold history before' id' after') : id = id' := by
  -- on the history from its end: the last hold is the newest, whatever came before
  induction history using List.reverseRecOn generalizing after after' with
  | nil => exact absurd h.1 (by simp)
  | append_singleton history command ih =>
    rcases lastHold_concat.mp h with ⟨-, -, rfl⟩ | ⟨hother, since, -, hsince⟩
    · rcases lastHold_concat.mp h' with ⟨-, -, hid⟩ | ⟨hother, -⟩
      · exact InboxCommand.holdUntil.inj hid
      · exact absurd rfl (hother id)
    · rcases lastHold_concat.mp h' with ⟨-, -, rfl⟩ | ⟨-, since', -, hsince'⟩
      · exact absurd rfl (hother id')
      · exact ih hsince hsince'

lemma LastHold.gatesMade_le (h : LastHold history before id after) :
    gatesMade before ≤ gatesMade history := by
  rw [h.1]
  exact gatesMade_le_append before _

lemma handlesLeft_concat :
    handlesLeft (history ++ [command]) = command.passHandles (handlesLeft history) := by
  unfold handlesLeft
  rw [List.foldl_append]
  rfl

lemma length_handlesLeft (history : List InboxCommand) :
    (handlesLeft history).length = gatesMade history := by
  induction history using List.reverseRecOn with
  | nil => rfl
  | append_singleton history command ih =>
    rw [handlesLeft_concat, gatesMade_concat, ← ih]
    cases command <;> simp [InboxCommand.passHandles, InboxCommand.makesGate]

lemma GateId.index_inj {id id' : GateId} : id.index = id'.index ↔ id = id' :=
  ⟨fun h => congrArg GateId.mk h, congrArg GateId.index⟩

lemma getElem?_set_false_eq_true {handles : List Bool} {i j : Nat} :
    (handles.set i false)[j]? = some true ↔ handles[j]? = some true ∧ i ≠ j := by
  rw [List.getElem?_set]
  by_cases h : i = j <;> simp [h]

/-- A gate is pending exactly while its handle is around.  The left side speaks of the history, the
right side can be computed. -/
lemma isPending_iff : IsPending history id ↔ (handlesLeft history)[id.index]? = some true := by
  induction history using List.reverseRecOn with
  | nil =>
    refine iff_of_false ?_ nofun
    rintro ⟨before, label, after, hsplit, -⟩
    simp at hsplit
  | append_singleton history command ih =>
    have hlength := length_handlesLeft history
    rw [isPending_concat, ih, handlesLeft_concat]
    cases command with
    | newGate label =>
      -- the new handle stands behind those of the gates made before
      simp only [InboxCommand.makesGate, InboxCommand.passHandles, true_and]
      -- a gate that was not made yet is not pending, and the one that is made now is
      by_cases hlt : id.index < (handlesLeft history).length
      · rw [List.getElem?_append_left hlt]
        simp only [ne_eq, reduceCtorEq, not_false_eq_true, and_true, or_iff_right_iff_imp]
        omega
      · have hnone : (handlesLeft history)[id.index]? = none :=
          List.getElem?_eq_none (Nat.le_of_not_lt hlt)
        rw [List.getElem?_append_right (Nat.le_of_not_lt hlt), List.getElem?_singleton, hnone]
        simp only [reduceCtorEq, false_and, or_false, ite_eq_left_iff, imp_false, not_not]
        omega
    | openGate other =>
      rw [InboxCommand.passHandles, getElem?_set_false_eq_true]
      simp [InboxCommand.makesGate, GateId.index_inj]
    | abandonGate other =>
      rw [InboxCommand.passHandles, getElem?_set_false_eq_true]
      simp [InboxCommand.makesGate, GateId.index_inj]
    | _ => simp [InboxCommand.makesGate, InboxCommand.passHandles]

lemma IsPending.index_lt (h : IsPending history id) : id.index < gatesMade history := by
  rw [← length_handlesLeft]
  exact (List.getElem?_eq_some_iff.mp (isPending_iff.mp h)).1

/-! ## Gates -/

namespace Gate

/-- While its handle is around, a gate is not settled and no signal is on its way; it is never
settled as pending. -/
structure Sound (gate : Gate) : Prop where
  /-- A gate with a handle has not been found open or abandoned. -/
  unsettled : gate.hasHandle = true → gate.signal = false ∧ gate.settled? = none
  /-- What a gate remembers is final. -/
  settled : gate.settled? ≠ some .pending

variable {gate : Gate}

lemma sound_fresh (label : String) : Sound { label } := ⟨fun _ => ⟨rfl, rfl⟩, nofun⟩

lemma sound_openWithHandle (h : gate.Sound) : gate.openWithHandle.Sound := by
  unfold openWithHandle
  split
  · exact ⟨nofun, h.settled⟩
  · exact h

lemma sound_dropHandle (h : gate.Sound) : gate.dropHandle.Sound := ⟨nofun, h.settled⟩

lemma hasHandle_openWithHandle : gate.openWithHandle.hasHandle = false := by
  unfold openWithHandle
  split
  · rfl
  next h => exact Bool.eq_false_iff.mpr h

/-- Looking at a gate leaves its handle alone, and finds the gate pending exactly while the handle
is around. -/
lemma poll_spec (h : gate.Sound) :
    gate.poll.2.Sound ∧ gate.poll.2.hasHandle = gate.hasHandle ∧
      (gate.poll.1 = .pending ↔ gate.hasHandle = true) := by
  unfold poll
  split
  next state hsettled =>
    have hstate : state ≠ .pending := fun heq => h.settled (heq ▸ hsettled)
    refine ⟨h, rfl, iff_of_false hstate fun hhandle => ?_⟩
    exact absurd ((h.unsettled hhandle).2.symm.trans hsettled) nofun
  next hsettled =>
    split
    next hsignal =>
      have hhandle : gate.hasHandle ≠ true := by
        intro hhandle
        exact Bool.false_ne_true ((h.unsettled hhandle).1.symm.trans hsignal)
      exact ⟨⟨fun hhandle' => absurd hhandle' hhandle, nofun⟩, rfl, iff_of_false nofun hhandle⟩
    next =>
      split
      next hhandle => exact ⟨h, rfl, iff_of_true rfl hhandle⟩
      next hhandle =>
        exact ⟨⟨fun hhandle' => absurd hhandle' hhandle, nofun⟩, rfl, iff_of_false nofun hhandle⟩

end Gate

namespace Inbox

variable {inbox : Inbox}

/-- The gates are sound. -/
def GatesSound (inbox : Inbox) : Prop := ∀ gate ∈ inbox.gates, gate.Sound

/-- Which handles are still around, in the order in which the gates were made. -/
def handles (inbox : Inbox) : List Bool := inbox.gates.map Gate.hasHandle

/-- The handle of a gate that was made is still around. -/
def HasHandle (inbox : Inbox) (id : GateId) : Prop := inbox.handles[id.index]? = some true

lemma gatesSound_modifyGate {f : Gate → Gate} (h : inbox.GatesSound)
    (hf : ∀ gate, inbox.gates[id.index]? = some gate → (f gate).Sound) :
    (inbox.modifyGate id f).GatesSound := by
  intro gate hgate
  obtain ⟨i, hi⟩ := List.mem_iff_getElem?.mp hgate
  unfold modifyGate at hi
  rw [List.getElem?_modify] at hi
  by_cases hid : id.index = i
  · subst hid
    obtain ⟨old, hold, rfl⟩ : ∃ old, inbox.gates[id.index]? = some old ∧ f old = gate := by
      simpa using hi
    exact hf old hold
  · have hold : inbox.gates[i]? = some gate := by simpa [hid] using hi
    exact h gate (List.mem_of_getElem? hold)

/-- Using or dropping a handle takes it away. -/
lemma handles_modifyGate_of_drops {f : Gate → Gate} (hf : ∀ gate, (f gate).hasHandle = false) :
    (inbox.modifyGate id f).handles = inbox.handles.set id.index false := by
  refine List.ext_getElem? fun i => ?_
  unfold handles modifyGate
  rw [List.getElem?_map, List.getElem?_modify, List.getElem?_set, List.getElem?_map,
    List.length_map]
  by_cases hid : id.index = i
  · subst hid
    cases hgate : inbox.gates[id.index]? with
    | none => simpa using hgate
    | some gate => simp [hf, (List.getElem?_eq_some_iff.mp hgate).1]
  · simp [hid]

lemma handles_modifyGate_of_keeps {f : Gate → Gate}
    (hf : ∀ gate, inbox.gates[id.index]? = some gate → (f gate).hasHandle = gate.hasHandle) :
    (inbox.modifyGate id f).handles = inbox.handles := by
  refine List.ext_getElem? fun i => ?_
  unfold handles modifyGate
  rw [List.getElem?_map, List.getElem?_modify, List.getElem?_map]
  by_cases hid : id.index = i
  · subst hid
    cases hgate : inbox.gates[id.index]? with
    | none => rfl
    | some gate => simp [hf gate hgate]
  · simp [hid]

/-- What a look at a gate does and finds.  It is the same for gates that were never made, which are
not pending. -/
structure Polls (inbox : Inbox) (id : GateId) (state : GateState) (next : Inbox) : Prop where
  /-- Nothing but the gates is touched, -/
  same : next = { inbox with gates := next.gates }
  /-- which are sound afterwards -/
  sound : next.GatesSound
  /-- and have the handles they had. -/
  handles : next.handles = inbox.handles
  /-- It finds the gate pending while its handle is around. -/
  pending_iff : state = .pending ↔ inbox.HasHandle id

lemma polls_pollGate (h : inbox.GatesSound) (id : GateId) :
    inbox.Polls id (inbox.pollGate id).1 (inbox.pollGate id).2 := by
  cases hgate : inbox.gates[id.index]? with
  | none =>
    have hpoll : inbox.pollGate id = (.abandoned, inbox) := by simp [pollGate, hgate]
    rw [hpoll]
    refine ⟨rfl, h, rfl, iff_of_false nofun fun hhandle => ?_⟩
    simp [HasHandle, Inbox.handles, hgate] at hhandle
  | some gate =>
    have hpoll : inbox.pollGate id = (gate.poll.1, inbox.modifyGate id fun _ => gate.poll.2) := by
      simp [pollGate, hgate]
    obtain ⟨hsound, hkeeps, hpending⟩ := Gate.poll_spec (h gate (List.mem_of_getElem? hgate))
    rw [hpoll]
    refine ⟨rfl, gatesSound_modifyGate h fun _ _ => hsound, ?_, ?_⟩
    · refine handles_modifyGate_of_keeps fun old hold => ?_
      rw [Option.some.inj (hold.symm.trans hgate), hkeeps]
    · simpa [HasHandle, Inbox.handles, hgate] using hpending

/-! ## Runs -/

/-- Carries out a command; what is handed out comes first. -/
def perform (inbox : Inbox) : InboxCommand → List Message × Inbox
  | .send message => ([], (inbox.send message).2)
  | .newGate label => ([], (inbox.newGate label).2)
  | .openGate id => ([], inbox.openGate id)
  | .abandonGate id => ([], inbox.abandonGate id)
  | .pollGate id => ([], (inbox.pollGate id).2)
  | .holdUntil id => ([], (inbox.holdUntil id).1)
  | .isHeld => ([], inbox.isHeld.2)
  | .take => (inbox.take.1, inbox.take.2.1)

/-- What is taken: everything that was found, unless the gate is found pending. -/
lemma perform_take_cases (inbox : Inbox) :
    (inbox.gate? = none ∧ inbox.perform .take = inbox.collect.release) ∨
      ∃ id, inbox.gate? = some id ∧
        (((inbox.collect.pollGate id).1 = .pending ∧
            inbox.perform .take = ([], (inbox.collect.pollGate id).2)) ∨
          ((inbox.collect.pollGate id).1 ≠ .pending ∧
            inbox.perform .take = (inbox.collect.pollGate id).2.release)) := by
  have hgate : inbox.collect.gate? = inbox.gate? := rfl
  cases hheld : inbox.gate? with
  | none => exact Or.inl ⟨rfl, by simp [perform, take, hgate, hheld]⟩
  | some id =>
    refine Or.inr ⟨id, rfl, ?_⟩
    cases hstate : (inbox.collect.pollGate id).1 with
    | pending => exact Or.inl ⟨rfl, by simp [perform, take, hgate, hheld, hstate]⟩
    | opened => exact Or.inr ⟨nofun, by simp [perform, take, hgate, hheld, hstate]⟩
    | abandoned => exact Or.inr ⟨nofun, by simp [perform, take, hgate, hheld, hstate]⟩

/-- Everything that a history hands out, and the inbox that it leaves. -/
def replay (history : List InboxCommand) : List Message × Inbox :=
  history.foldl (fun (handed, inbox) command =>
    (handed ++ (inbox.perform command).1, (inbox.perform command).2)) ([], {})

lemma replay_concat :
    replay (history ++ [command]) =
      ((replay history).1 ++ ((replay history).2.perform command).1,
        ((replay history).2.perform command).2) := by
  unfold replay
  rw [List.foldl_append]
  rfl

/-- The newest gate holds an inbox unless it is pending no more: what is left of a history in the
field that names the gate. -/
structure TracksHold (gate? : Option GateId) (history : List InboxCommand) : Prop where
  /-- The gate that holds the inbox is the newest one that was to. -/
  lastHold : ∀ id, gate? = some id → ∃ before after, LastHold history before id after
  /-- If no gate does, the newest one was not pending, or is so no more. -/
  released : gate? = none → ∀ before id after, LastHold history before id after →
    IsPending before id → ¬ IsPending history id

namespace TracksHold

variable {gate? : Option GateId}

lemma hold (history : List InboxCommand) (id : GateId) :
    TracksHold (some id) (history ++ [.holdUntil id]) where
  lastHold _ h :=
    ⟨history, [], lastHold_concat.mpr (Or.inl ⟨rfl, rfl, by rw [Option.some.inj h]⟩)⟩
  released := nofun

/-- A gate that was pending when it was to hold the inbox, and is so no more, is never pending
again. -/
lemma keep (h : TracksHold gate? history) (hcommand : ∀ other, command ≠ .holdUntil other) :
    TracksHold gate? (history ++ [command]) where
  lastHold id hid := by
    obtain ⟨before, since, hlast⟩ := h.lastHold id hid
    exact ⟨before, _, lastHold_concat.mpr (Or.inr ⟨hcommand, since, rfl, hlast⟩)⟩
  released hnone before id after hlast hbefore := by
    -- the newest hold is not this command, so it lies before it
    rcases lastHold_concat.mp hlast with ⟨-, -, rfl⟩ | ⟨-, since, -, hlast⟩
    · exact absurd rfl (hcommand id)
    · rw [isPending_concat]
      rintro (⟨-, hmade⟩ | ⟨hpending, -⟩)
      -- the gate was made before the hold, so this command makes another one
      · have hlt := hbefore.index_lt
        have hle := hlast.gatesMade_le
        omega
      · exact h.released hnone before id since hlast hbefore hpending

lemma release (h : TracksHold (some id) history) (hid : ¬ IsPending history id) :
    TracksHold none history where
  lastHold := nofun
  released _ before other after hlast _ := by
    obtain ⟨before', after', hlast'⟩ := h.lastHold id rfl
    rw [hlast.unique hlast']
    exact hid

end TracksHold

/-- How an inbox accounts for its history, when `handed` was handed out.  This is the invariant;
every part of it is needed to keep another. -/
structure Accounts (history : List InboxCommand) (handed : List Message) (inbox : Inbox) :
    Prop where
  /-- The inbox has not gone away. -/
  isOpen : inbox.arriving.isOpen = true
  /-- No message is lost or doubled, and none has overtaken another. -/
  conserved : handed ++ inbox.held ++ inbox.arriving.pending = sent history
  /-- The gates are sound, -/
  sound : inbox.GatesSound
  /-- and have the handles that the history has left them. -/
  handles_eq : inbox.handles = handlesLeft history
  /-- The gate that holds the inbox is that of the history. -/
  tracksHold : TracksHold inbox.gate? history

variable {handed : List Message}

lemma Accounts.hasHandle_iff (h : inbox.Accounts history handed) :
    inbox.HasHandle id ↔ IsPending history id := by
  rw [isPending_iff, ← h.handles_eq]
  exact Iff.rfl

namespace Accounts

lemma start : Accounts [] [] {} where
  isOpen := rfl
  conserved := rfl
  sound := nofun
  handles_eq := rfl
  tracksHold := ⟨nofun, fun _ before _ _ h => absurd h.1 (by simp)⟩

/-- A command that sends nothing, touches no handle and holds nothing back only adds to the
history. -/
lemma idle (h : inbox.Accounts history handed) (hmessage : command.message? = none)
    (hhandles : ∀ handles, command.passHandles handles = handles)
    (hhold : ∀ other, command ≠ .holdUntil other) :
    inbox.Accounts (history ++ [command]) handed where
  isOpen := h.isOpen
  conserved := by rw [sent_concat, hmessage, h.conserved, Option.toList_none, List.append_nil]
  sound := h.sound
  handles_eq := by rw [handlesLeft_concat, hhandles, h.handles_eq]
  tracksHold := h.tracksHold.keep hhold

lemma collect (h : inbox.Accounts history handed) :
    inbox.collect.Accounts history handed where
  isOpen := h.isOpen
  conserved := by
    have hconserved := h.conserved
    simpa [Inbox.collect, EventQueue.drain] using hconserved
  sound := h.sound
  handles_eq := h.handles_eq
  tracksHold := h.tracksHold

lemma poll {state : GateState} {next : Inbox} (h : inbox.Accounts history handed)
    (hpoll : inbox.Polls id state next) : next.Accounts history handed where
  isOpen := by rw [hpoll.same]; exact h.isOpen
  conserved := by rw [hpoll.same]; exact h.conserved
  sound := hpoll.sound
  handles_eq := hpoll.handles.trans h.handles_eq
  tracksHold := by rw [hpoll.same]; exact h.tracksHold

lemma release (h : inbox.Accounts history handed) (hpending : inbox.arriving.pending = [])
    (hhold : TracksHold none history) :
    inbox.release.2.Accounts history (handed ++ inbox.release.1) ∧
      handed ++ inbox.release.1 = sent history := by
  have hsent : handed ++ inbox.held = sent history := by
    simpa [hpending] using h.conserved
  refine ⟨⟨h.isOpen, ?_, h.sound, h.handles_eq, hhold⟩, hsent⟩
  simpa [Inbox.release, hpending] using hsent

/-- Either the newest gate is pending and nothing is taken, or everything is handed out. -/
lemma take (h : inbox.Accounts history handed) :
    (inbox.perform .take).2.Accounts history (handed ++ (inbox.perform .take).1) ∧
      ((∃ id, inbox.gate? = some id ∧ IsPending history id ∧ (inbox.perform .take).1 = []) ∨
        (∀ id, inbox.gate? = some id → ¬ IsPending history id) ∧
          handed ++ (inbox.perform .take).1 = sent history) := by
  have hcollect := h.collect
  rcases inbox.perform_take_cases with ⟨hgate, htake⟩ | ⟨id, hgate, htake⟩
  · obtain ⟨haccounts, hsent⟩ := hcollect.release rfl (hgate ▸ h.tracksHold)
    rw [htake, hgate]
    exact ⟨haccounts, Or.inr ⟨nofun, hsent⟩⟩
  · have hpoll := polls_pollGate hcollect.sound id
    have hfound := hpoll.pending_iff.trans hcollect.hasHandle_iff
    rcases htake with ⟨hstate, htake⟩ | ⟨hstate, htake⟩
    · rw [htake, List.append_nil]
      exact ⟨hcollect.poll hpoll, Or.inl ⟨id, hgate, hfound.mp hstate, rfl⟩⟩
    -- the gate is found resolved, so what was held goes out with what has just arrived
    · have hresolved : ¬ IsPending history id := fun hpending => hstate (hfound.mpr hpending)
      have hnothing : (inbox.collect.pollGate id).2.arriving.pending = [] := by
        rw [hpoll.same]
        rfl
      obtain ⟨haccounts, hsent⟩ := (hcollect.poll hpoll).release hnothing
        ((hgate ▸ h.tracksHold).release hresolved)
      rw [htake]
      refine ⟨haccounts, Or.inr ⟨fun other hother => ?_, hsent⟩⟩
      rw [← Option.some.inj (hgate.symm.trans hother)]
      exact hresolved

lemma send (h : inbox.Accounts history handed) (message : Message) :
    (inbox.perform (.send message)).2.Accounts (history ++ [.send message]) handed := by
  have hsend : (inbox.perform (.send message)).2 =
      { inbox with arriving := ⟨inbox.arriving.pending ++ [message], true⟩ } := by
    simp [perform, Inbox.send, EventQueue.send, h.isOpen]
  rw [hsend]
  refine ⟨rfl, ?_, h.sound, ?_, h.tracksHold.keep nofun⟩
  · rw [sent_concat, ← h.conserved]
    simp [InboxCommand.message?]
  · rw [handlesLeft_concat]
    exact h.handles_eq

lemma newGate (h : inbox.Accounts history handed) (label : String) :
    (inbox.newGate label).2.Accounts (history ++ [.newGate label]) handed where
  isOpen := h.isOpen
  conserved := by
    rw [sent_concat, ← h.conserved]
    exact (List.append_nil _).symm
  sound := by
    intro gate hgate
    rcases List.mem_append.mp hgate with hgate | hgate
    · exact h.sound gate hgate
    · rw [List.mem_singleton.mp hgate]
      exact Gate.sound_fresh label
  handles_eq := by
    rw [handlesLeft_concat, ← h.handles_eq]
    exact List.map_append
  tracksHold := h.tracksHold.keep nofun

/-- The handle of a gate is used or dropped. -/
lemma drop {f : Gate → Gate} (h : inbox.Accounts history handed)
    (hf : ∀ gate, (f gate).hasHandle = false) (hsound : ∀ gate, gate.Sound → (f gate).Sound)
    (hcommand : command = .openGate id ∨ command = .abandonGate id) :
    (inbox.modifyGate id f).Accounts (history ++ [command]) handed where
  isOpen := h.isOpen
  conserved := by
    rw [sent_concat, ← h.conserved]
    rcases hcommand with rfl | rfl <;> exact (List.append_nil _).symm
  sound := gatesSound_modifyGate h.sound fun gate hgate =>
    hsound gate (h.sound gate (List.mem_of_getElem? hgate))
  handles_eq := by
    rw [handlesLeft_concat, handles_modifyGate_of_drops hf, h.handles_eq]
    rcases hcommand with rfl | rfl <;> rfl
  tracksHold := h.tracksHold.keep (by rcases hcommand with rfl | rfl <;> exact nofun)

lemma holdUntil (h : inbox.Accounts history handed) (id : GateId) :
    (inbox.holdUntil id).1.Accounts (history ++ [.holdUntil id]) handed where
  isOpen := h.isOpen
  conserved := by
    rw [sent_concat, ← h.conserved]
    exact (List.append_nil _).symm
  sound := h.sound
  handles_eq := by
    rw [handlesLeft_concat]
    exact h.handles_eq
  tracksHold := TracksHold.hold history id

lemma isHeld (h : inbox.Accounts history handed) :
    inbox.isHeld.2.Accounts history handed ∧
      (inbox.isHeld.1 = true ↔ ∃ id, inbox.gate? = some id ∧ IsPending history id) := by
  unfold Inbox.isHeld
  split
  next hgate => exact ⟨h, iff_of_false nofun (by simp [hgate])⟩
  next id hgate =>
    have hpoll := polls_pollGate h.sound id
    have hfound := hpoll.pending_iff.trans h.hasHandle_iff
    exact ⟨h.poll hpoll, by simp [hgate, hfound]⟩

/-- Every command is accounted for. -/
lemma perform (h : inbox.Accounts history handed) (command : InboxCommand) :
    (inbox.perform command).2.Accounts (history ++ [command])
      (handed ++ (inbox.perform command).1) := by
  cases command with
  | send message => simpa [Inbox.perform] using h.send message
  | newGate label => simpa [Inbox.perform] using h.newGate label
  | openGate id =>
    simp only [Inbox.perform, List.append_nil]
    exact h.drop (fun _ => Gate.hasHandle_openWithHandle) (fun _ => Gate.sound_openWithHandle)
      (Or.inl rfl)
  | abandonGate id =>
    simp only [Inbox.perform, List.append_nil]
    exact h.drop (fun _ => rfl) (fun _ => Gate.sound_dropHandle) (Or.inr rfl)
  | pollGate id =>
    have hpoll := h.poll (polls_pollGate h.sound id)
    simp only [Inbox.perform, List.append_nil]
    exact hpoll.idle rfl (fun _ => rfl) nofun
  | holdUntil id => simpa [Inbox.perform] using h.holdUntil id
  | isHeld =>
    simp only [Inbox.perform, List.append_nil]
    exact h.isHeld.1.idle rfl (fun _ => rfl) nofun
  | take => exact h.take.1.idle rfl (fun _ => rfl) nofun

end Accounts

/-- An inbox accounts for its whole history. -/
theorem accounts_replay (history : List InboxCommand) :
    (replay history).2.Accounts history (replay history).1 := by
  induction history using List.reverseRecOn with
  | nil => exact Accounts.start
  | append_singleton history command ih =>
    rw [replay_concat]
    exact ih.perform command

/-- The gate that holds the inbox, if any does and is pending, is the newest one. -/
lemma Accounts.exists_gate?_iff (h : inbox.Accounts history handed)
    (hlast : LastHold history before id after) (hbefore : IsPending before id) :
    (∃ other, inbox.gate? = some other ∧ IsPending history other) ↔ IsPending history id := by
  -- no gate holds the inbox: then the newest one was let go because it was pending no more
  cases hgate : inbox.gate? with
  | none =>
    have hreleased := h.tracksHold.released hgate before id after hlast hbefore
    exact iff_of_false (by simp) hreleased
  | some other =>
    obtain ⟨before', after', hlast'⟩ := h.tracksHold.lastHold other hgate
    rw [hlast.unique hlast']
    simp

/-- What was handed out is a beginning of what was sent.  Nothing is taken while the newest gate is
pending that was to hold the inbox; otherwise everything is handed out that was sent. -/
theorem delivers_in_order (history : List InboxCommand) :
    (replay history).1 <+: sent history ∧
      (∀ before id after, LastHold history before id after → IsPending before id →
        IsPending history id → (replay history).2.take.1 = []) ∧
      ((∀ before id after, LastHold history before id after → ¬ IsPending history id) →
        (replay (history ++ [.take])).1 = sent history) := by
  have haccounts := accounts_replay history
  obtain ⟨-, htake⟩ := haccounts.take
  refine ⟨?_, ?_, ?_⟩
  · rw [← haccounts.conserved, List.append_assoc]
    exact List.prefix_append _ _
  · intro before id after hlast hbefore hpending
    obtain ⟨other, hgate, hother⟩ := (haccounts.exists_gate?_iff hlast hbefore).mpr hpending
    rcases htake with ⟨-, -, -, hnothing⟩ | ⟨hresolved, -⟩
    · exact hnothing
    · exact absurd hother (hresolved other hgate)
  · intro hnone
    rw [replay_concat]
    rcases htake with ⟨id, hgate, hpending, -⟩ | ⟨-, hsent⟩
    · obtain ⟨before, after, hlast⟩ := haccounts.tracksHold.lastHold id hgate
      exact absurd hpending (hnone before id after hlast)
    · exact hsent

/-- A message waits for the gate that it was sent behind. -/
theorem delivers_in_order_assets :
    let change : Message := ⟨.sceneChange, "a", .null⟩
    let waiting : List InboxCommand := [.newGate "assets", .holdUntil ⟨0⟩, .send change]
    (replay waiting).2.take.1 = [] ∧
      (replay (waiting ++ [.openGate ⟨0⟩] ++ [.take])).1 = [change] := by
  intro change waiting
  have hlast : LastHold waiting [.newGate "assets"] ⟨0⟩ [.send change] := ⟨rfl, by simp⟩
  refine ⟨(delivers_in_order waiting).2.1 _ _ _ hlast ?_ ?_, ?_⟩
  · exact isPending_iff.mpr rfl
  · exact isPending_iff.mpr rfl
  · refine (delivers_in_order (waiting ++ [.openGate ⟨0⟩])).2.2 fun before id after hother => ?_
    have hopened : LastHold (waiting ++ [.openGate ⟨0⟩]) [.newGate "assets"] ⟨0⟩
        [.send change, .openGate ⟨0⟩] := ⟨rfl, by simp⟩
    rw [hother.unique hopened, isPending_iff]
    nofun

/-- While the newest gate is pending, and only then, the inbox is found held. -/
theorem isHeld_iff (hlast : LastHold history before id after) (hbefore : IsPending before id) :
    (replay history).2.isHeld.1 = true ↔ IsPending history id := by
  have haccounts := accounts_replay history
  rw [← haccounts.exists_gate?_iff hlast hbefore]
  exact haccounts.isHeld.2

end Inbox

end SceneEngine.LiveLink
