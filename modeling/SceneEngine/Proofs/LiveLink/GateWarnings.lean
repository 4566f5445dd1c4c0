import Mathlib.Data.List.Perm.Subperm
import SceneEngine.Proofs.LiveLink.Polling

/-!
# What the warnings about gates say

An inbox warns about a gate that gives way to a newer one, and about one whose handle is found
dropped when messages are taken.  Both are meant to tell that some work has not come to its end.
This module says which warnings there are after any history, and when they tell the truth.

## Which gate holds an inbox

`Holds` says it of a history: the newest gate does, until it is found resolved when messages are
taken.  That the inbox agrees is `Inbox.gate?_eq_some_iff`.  A gate that was opened goes on to hold
the inbox until someone takes messages, since nobody looks before.

## Which warnings there are

`Replaced` and `ReleasedAbandoned` name the gates to warn about, by what has happened in the
history.  No gate is warned about twice: once it has given way or was released it holds the inbox no
more (`Warned.not_holds`).  For this gates are made before they are given to an inbox, and given
only once, as the handling of gates ensures (`WellFormed`).  `Inbox.GateWarning.Tells` says that a
log warns of some gates and of no others, each once, with the texts as they are, and
`Inbox.exists_tells_log` that the log of a history does so.

## Which are true

The warning about a gate that gives way says that it was replaced before it resolved, whatever has
become of it in the meantime: nobody looks at it when the newer gate comes.  So the log is truthful
just in case every gate that gives way is pending when it does.  This is
`Inbox.warnsTruthfully_iff`, and `Inbox.not_forall_warnsTruthfully` is a history in which a gate was
opened in time and is warned about all the same.
-/

namespace SceneEngine.LiveLink

variable {history : List InboxCommand} {command : InboxCommand} {id : GateId}

/-! ## Which gate holds an inbox -/

/-- A gate is made before it is given to an inbox, and is given away only once. -/
def WellFormed (history : List InboxCommand) : Prop :=
  ∀ before id after, history = before ++ .holdUntil id :: after →
    id.index < gatesMade before ∧ .holdUntil id ∉ before

/-- The newest gate holds an inbox until it is found resolved when messages are taken.  Looks in
between do not end that. -/
def Holds (history : List InboxCommand) (id : GateId) : Prop :=
  ∃ before after, LastHold history before id after ∧
    ∀ earlier later, after = earlier ++ .take :: later →
      IsPending (before ++ .holdUntil id :: earlier) id

lemma wellFormed_nil : WellFormed [] := fun before id after h => absurd h (by simp)

lemma WellFormed.of_append {later : List InboxCommand} (h : WellFormed (history ++ later)) :
    WellFormed history :=
  fun before id after hsplit => h before id (after ++ later) (by simp [hsplit])

lemma wellFormed_concat :
    WellFormed (history ++ [command]) ↔
      WellFormed history ∧
        ∀ id, command = .holdUntil id → id.index < gatesMade history ∧ .holdUntil id ∉ history := by
  constructor
  · intro h
    refine ⟨h.of_append, ?_⟩
    rintro id rfl
    exact h history id [] rfl
  · rintro ⟨h, hlast⟩ before id after hsplit
    rcases append_singleton_eq_iff.mp hsplit with ⟨-, rfl, rfl⟩ | ⟨after, rfl, rfl⟩
    · exact hlast id rfl
    · exact h before id after rfl

lemma WellFormed.hold (h : WellFormed history) (hmade : id.index < gatesMade history)
    (hnew : .holdUntil id ∉ history) : WellFormed (history ++ [.holdUntil id]) := by
  refine wellFormed_concat.mpr ⟨h, ?_⟩
  rintro other ⟨⟩
  exact ⟨hmade, hnew⟩

lemma WellFormed.append (h : WellFormed history) {later : List InboxCommand}
    (hnone : ∀ id, .holdUntil id ∉ later) : WellFormed (history ++ later) := by
  induction later using List.reverseRecOn with
  | nil => rwa [List.append_nil]
  | append_singleton later command ih =>
    simp only [List.mem_append, List.mem_singleton, not_or] at hnone
    rw [← List.append_assoc]
    exact wellFormed_concat.mpr
      ⟨ih fun id => (hnone id).1, fun id hid => absurd hid.symm (hnone id).2⟩

lemma holds_concat :
    Holds (history ++ [command]) id ↔
      command = .holdUntil id ∨
        ((∀ other, command ≠ .holdUntil other) ∧ Holds history id ∧
          (command = .take → IsPending history id)) := by
  constructor
  · rintro ⟨before, after, hlast, htakes⟩
    rcases lastHold_concat.mp hlast with ⟨-, -, rfl⟩ | ⟨hother, since, rfl, hbefore⟩
    · exact Or.inl rfl
    · refine Or.inr ⟨hother, ⟨before, since, hbefore, fun earlier later hsplit => ?_⟩, ?_⟩
      · exact htakes earlier (later ++ [command]) (by simp [hsplit])
      · rintro rfl
        rw [hbefore.1]
        exact htakes since [] rfl
  · rintro (rfl | ⟨hother, ⟨before, since, hlast, htakes⟩, htake⟩)
    · exact ⟨history, [], lastHold_concat.mpr (Or.inl ⟨rfl, rfl, rfl⟩),
        fun earlier later hsplit => absurd hsplit (by simp)⟩
    · refine ⟨before, since ++ [command],
        lastHold_concat.mpr (Or.inr ⟨hother, since, rfl, hlast⟩), fun earlier later hsplit => ?_⟩
      rcases append_singleton_eq_iff.mp hsplit with ⟨-, rfl, rfl⟩ | ⟨later, rfl, rfl⟩
      · rw [← hlast.1]
        exact htake rfl
      · exact htakes earlier later rfl

lemma Holds.given (h : Holds history id) : .holdUntil id ∈ history := by
  obtain ⟨before, after, ⟨rfl, -⟩, -⟩ := h
  simp

lemma Holds.index_lt (h : Holds history id) (hwell : WellFormed history) :
    id.index < gatesMade history := by
  obtain ⟨before, after, ⟨hsplit, -⟩, -⟩ := h
  have hmade := (hwell before id after hsplit).1
  rw [hsplit]
  exact Nat.lt_of_lt_of_le hmade (gatesMade_le_append before _)

/-! ## Gates to warn about -/

/-- A gate gave way to a newer one, pending or not. -/
def Replaced (history : List InboxCommand) (id : GateId) : Prop :=
  Happened (fun before command => (∃ newer, command = .holdUntil newer) ∧ Holds before id) history

/-- A gate gave way to a newer one while it was pending. -/
def ReplacedPending (history : List InboxCommand) (id : GateId) : Prop :=
  Happened (fun before command =>
    (∃ newer, command = .holdUntil newer) ∧ Holds before id ∧ IsPending before id) history

/-- A gate held the inbox when messages were taken, and had lost its handle unused. -/
def ReleasedAbandoned (history : List InboxCommand) (id : GateId) : Prop :=
  Happened (fun before command =>
    command = .take ∧ Holds before id ∧ WasAbandoned before id) history

lemma ReplacedPending.replaced (h : ReplacedPending history id) : Replaced history id := by
  obtain ⟨before, command, after, hsplit, hnewer, hholds, -⟩ := h
  exact ⟨before, command, after, hsplit, hnewer, hholds⟩

/-- A gate was replaced or released abandoned. -/
def Warned (history : List InboxCommand) (id : GateId) : Prop :=
  Replaced history id ∨ ReleasedAbandoned history id

lemma WasAbandoned.not_isPending (h : WasAbandoned history id) : ¬ IsPending history id := by
  have hreports := (Inbox.stateAfter_eq_iff h.index_lt rfl).mpr h
  rw [← Inbox.stateAfter_eq_pending_iff, hreports]
  nofun

namespace Warned

lemma exists_holds (h : Warned history id) :
    ∃ before after, history = before ++ after ∧ Holds before id := by
  rcases h with ⟨before, command, after, hsplit, -, hholds⟩ |
    ⟨before, command, after, hsplit, -, hholds, -⟩
  · exact ⟨before, command :: after, hsplit, hholds⟩
  · exact ⟨before, command :: after, hsplit, hholds⟩

lemma given (h : Warned history id) : .holdUntil id ∈ history := by
  obtain ⟨before, after, rfl, hholds⟩ := h.exists_holds
  exact List.mem_append_left after hholds.given

lemma index_lt (h : Warned history id) (hwell : WellFormed history) :
    id.index < gatesMade history := by
  obtain ⟨before, after, rfl, hholds⟩ := h.exists_holds
  exact Nat.lt_of_lt_of_le (hholds.index_lt hwell.of_append) (gatesMade_le_append before after)

lemma concat_iff :
    Warned (history ++ [command]) id ↔
      Warned history id ∨
        (Holds history id ∧
          ((∃ newer, command = .holdUntil newer) ∨
            (command = .take ∧ WasAbandoned history id))) := by
  unfold Warned Replaced ReleasedAbandoned
  rw [happened_concat, happened_concat]
  tauto

/-- A gate to warn about holds the inbox no more, and never will again. -/
lemma not_holds (h : Warned history id) (hwell : WellFormed history) : ¬ Holds history id := by
  induction history using List.reverseRecOn with
  | nil => simpa using h.given
  | append_singleton history command ih =>
    obtain ⟨hwell, hgiven⟩ := wellFormed_concat.mp hwell
    rw [holds_concat]
    rintro (rfl | ⟨hother, hholds, htake⟩)
    · -- the gate is given to the inbox a second time
      refine (hgiven id rfl).2 ?_
      rcases concat_iff.mp h with hwarned | ⟨hholds, -⟩
      · exact hwarned.given
      · exact hholds.given
    · rcases concat_iff.mp h with hwarned | ⟨-, ⟨newer, hnewer⟩ | ⟨rfl, habandoned⟩⟩
      · exact ih hwarned hwell hholds
      · exact hother newer hnewer
      · exact habandoned.not_isPending (htake rfl)

end Warned

/-! ## The gate that holds an inbox -/

namespace Inbox

variable {inbox : Inbox}

/-- A look at a gate finds the same before and after the messages that have arrived are put with
the others. -/
lemma pollGate_collect_fst (inbox : Inbox) (id : GateId) :
    (inbox.collect.pollGate id).1 = (inbox.pollGate id).1 := by
  rw [pollGate_fst, pollGate_fst]
  rfl

lemma gate?_perform (inbox : Inbox) (command : InboxCommand) :
    (inbox.perform command).2.gate? =
      match command with
      | .holdUntil id => some id
      | .take => inbox.gate?.filter fun id => (inbox.pollGate id).1 = .pending
      | _ => inbox.gate? := by
  cases command with
  | take =>
    rcases inbox.perform_take_cases with ⟨hgate, htake⟩ |
      ⟨id, hgate, ⟨hstate, htake⟩ | ⟨hstate, htake⟩⟩
    · rw [htake, hgate]
      rfl
    · rw [pollGate_collect_fst] at hstate
      rw [htake, pollGate_same, hgate, Option.filter_some_pos (by simpa using hstate)]
      exact hgate
    · rw [pollGate_collect_fst] at hstate
      rw [htake, hgate, Option.filter_some_neg (by simpa using hstate)]
      rfl
  | pollGate id => exact (Alike.look inbox rfl).2.gate?_eq
  | isHeld => exact (Alike.look inbox rfl).2.gate?_eq
  | _ => rfl

/-- The gate that holds an inbox follows from its history. -/
lemma gate?_eq_some_iff : (replay history).2.gate? = some id ↔ Holds history id := by
  induction history using List.reverseRecOn with
  | nil =>
    refine iff_of_false nofun fun h => ?_
    simpa using h.given
  | append_singleton history command ih =>
    rw [replay_concat, holds_concat, gate?_perform]
    cases command with
    | holdUntil other => simp
    | take => simp [Option.filter_eq_some_iff, ih, ← stateAfter_eq_pending_iff, stateAfter]
    | _ => simp [ih]

end Inbox

/-! ## Labels -/

/-- The label of the gate that a command makes. -/
def InboxCommand.label? : InboxCommand → Option String
  | .newGate label => some label
  | _ => none

/-- The labels of the gates in the order in which they were made. -/
def labels (history : List InboxCommand) : List String := history.filterMap InboxCommand.label?

lemma labels_concat : labels (history ++ [command]) = labels history ++ command.label?.toList := by
  unfold labels
  rw [List.filterMap_append]
  cases command <;> rfl

lemma length_labels (history : List InboxCommand) :
    (labels history).length = gatesMade history := by
  induction history using List.reverseRecOn with
  | nil => rfl
  | append_singleton history command ih =>
    rw [labels_concat, gatesMade_concat, List.length_append, ih]
    cases command <;> rfl

lemma map_label_modify_resolve (faces : List Face) (i : Nat) (state : GateState) :
    (faces.modify i (Face.resolve state)).map Face.label = faces.map Face.label := by
  refine List.ext_getElem? fun j => ?_
  rw [List.getElem?_map, List.getElem?_modify, List.getElem?_map]
  cases faces[j]? with
  | none => rfl
  | some face =>
    by_cases hij : i = j <;> by_cases hpending : face.state = .pending <;>
      simp [Face.resolve, hij, hpending]

namespace Inbox

lemma labelOf_replay (history : List InboxCommand) (id : GateId) :
    (replay history).2.labelOf id = ((labels history)[id.index]?).getD "" := by
  have hlabels : (replay history).2.faces.map Face.label = labels history := by
    induction history using List.reverseRecOn with
    | nil => rfl
    | append_singleton history command ih =>
      rw [faces_replay_concat, labels_concat, ← ih]
      cases command with
      | newGate label => exact List.map_append
      | openGate | abandonGate => exact (map_label_modify_resolve ..).trans (List.append_nil _).symm
      | _ => exact (List.append_nil _).symm
  rw [labelOf_eq, ← hlabels, List.getElem?_map]

end Inbox

/-! ## Warnings -/

/-- What an inbox warns about. -/
inductive GateWarning where
  /-- A gate was replaced by a newer one. -/
  | replaced (id : GateId)
  /-- A gate was found without its handle. -/
  | dropped (id : GateId)

namespace GateWarning

/-- The gate that a warning is about. -/
def gate : GateWarning → GateId
  | replaced id | dropped id => id

/-- What a warning says of a gate with this label. -/
def text (label : String) : GateWarning → String
  | replaced _ => "Link gate '" ++ label ++ "' replaced before it resolved."
  | dropped _ => "Link gate '" ++ label ++ "' was dropped unresolved; releasing messages."

/-- What is logged, when these are the labels of the gates. -/
def entry (names : List String) (warning : GateWarning) : LogEntry :=
  .warning (warning.text ((names[warning.gate.index]?).getD ""))

lemma entry_append {names : List String} {warning : GateWarning}
    (h : warning.gate.index < names.length) (more : List String) :
    warning.entry (names ++ more) = warning.entry names := by
  unfold entry
  rw [List.getElem?_append_left h]

end GateWarning

/-- A log warns of every gate that was `replaced` and of every one that was `dropped`, and says
nothing else and nothing twice. -/
structure Tells (names : List String) (log : Log) (replaced dropped : GateId → Prop)
    (warnings : List GateWarning) : Prop where
  /-- These are the entries of the log, in their order. -/
  log_eq : log = warnings.map (GateWarning.entry names)
  /-- No gate is warned about twice. -/
  once : (warnings.map GateWarning.gate).Nodup
  /-- The gates said to be replaced are these, -/
  replaced_iff : ∀ id, .replaced id ∈ warnings ↔ replaced id
  /-- and those said to be dropped are these. -/
  dropped_iff : ∀ id, .dropped id ∈ warnings ↔ dropped id

namespace Tells

variable {names : List String} {log log' : Log} {warnings warnings' : List GateWarning}
  {replaced replaced' dropped dropped' : GateId → Prop}

lemma nil (hreplaced : ∀ id, ¬ replaced id) (hdropped : ∀ id, ¬ dropped id) :
    Tells names [] replaced dropped [] where
  log_eq := rfl
  once := List.nodup_nil
  replaced_iff id := iff_of_false List.not_mem_nil (hreplaced id)
  dropped_iff id := iff_of_false List.not_mem_nil (hdropped id)

lemma gate_mem (h : Tells names log replaced dropped warnings) :
    id ∈ warnings.map GateWarning.gate ↔ replaced id ∨ dropped id := by
  rw [← h.replaced_iff, ← h.dropped_iff, List.mem_map]
  constructor
  · rintro ⟨warning | warning, hmem, rfl⟩
    · exact Or.inl hmem
    · exact Or.inr hmem
  · rintro (hmem | hmem)
    · exact ⟨_, hmem, rfl⟩
    · exact ⟨_, hmem, rfl⟩

/-- One log after another, when no gate is in both. -/
lemma append (h : Tells names log replaced dropped warnings)
    (h' : Tells names log' replaced' dropped' warnings')
    (hdisjoint : ∀ id, replaced id ∨ dropped id → ¬ (replaced' id ∨ dropped' id)) :
    Tells names (log ++ log') (fun id => replaced' id ∨ replaced id)
      (fun id => dropped' id ∨ dropped id) (warnings ++ warnings') where
  log_eq := by rw [h.log_eq, h'.log_eq, List.map_append]
  once := by
    rw [List.map_append, List.nodup_append']
    refine ⟨h.once, h'.once, fun id hid hid' => ?_⟩
    exact hdisjoint id (h.gate_mem.mp hid) (h'.gate_mem.mp hid')
  replaced_iff id := by rw [List.mem_append, h.replaced_iff, h'.replaced_iff, or_comm]
  dropped_iff id := by rw [List.mem_append, h.dropped_iff, h'.dropped_iff, or_comm]

/-- Gates that are made later change nothing about what is said of earlier ones. -/
lemma more (h : Tells names log replaced dropped warnings)
    (hmade : ∀ id, replaced id ∨ dropped id → id.index < names.length) (more : List String) :
    Tells (names ++ more) log replaced dropped warnings where
  log_eq := by
    rw [h.log_eq]
    refine List.map_congr_left fun warning hmem => (GateWarning.entry_append ?_ more).symm
    exact hmade _ (h.gate_mem.mp (List.mem_map_of_mem hmem))
  once := h.once
  replaced_iff := h.replaced_iff
  dropped_iff := h.dropped_iff

/-- The same log does not warn of fewer gates.  Two lists of warnings with the same entries are
equally long, so the smaller of them has all. -/
lemma replaced_of_subset (h : Tells names log replaced dropped warnings)
    (h' : Tells names log replaced' dropped warnings')
    (hsubset : ∀ id, replaced' id → replaced id) (hreplaced : replaced id) : replaced' id := by
  have hcontained : warnings' ⊆ warnings := by
    rintro (id | id) hmem
    · exact (h.replaced_iff id).mpr (hsubset id ((h'.replaced_iff id).mp hmem))
    · exact (h.dropped_iff id).mpr ((h'.dropped_iff id).mp hmem)
  have hlength : warnings.length = warnings'.length := by
    simpa using congrArg List.length (h.log_eq.symm.trans h'.log_eq)
  have hnodup : warnings'.Nodup := List.Nodup.of_map _ h'.once
  have hperm : warnings'.Perm warnings :=
    (List.Nodup.subperm hnodup hcontained).perm_of_length_le (Nat.le_of_eq hlength)
  rw [← h'.replaced_iff, hperm.mem_iff, h.replaced_iff]
  exact hreplaced

end Tells

/-- The entry that is logged by an event. -/
def InboxEvent.entry? : InboxEvent → Option LogEntry
  | .logged entry => some entry
  | .taken _ => none

namespace Inbox

/-- Everything that a history logs. -/
def log (history : List InboxCommand) : Log := (trace {} history).filterMap InboxEvent.entry?

lemma log_concat :
    log (history ++ [command]) = log history ++ (replay history).2.announced command := by
  unfold log
  rw [trace_concat, List.filterMap_append]
  congr 1
  cases command <;> simp [events, InboxEvent.entry?, List.filterMap_map, Function.comp_def]

lemma announced_holdUntil (inbox : Inbox) (newer : GateId) :
    inbox.announced (.holdUntil newer) =
      inbox.gate?.toList.map fun id =>
        .warning ((GateWarning.replaced id).text (inbox.labelOf id)) := by
  cases hgate : inbox.gate? <;> simp [announced, holdUntil, hgate, GateWarning.text]

lemma announced_take (inbox : Inbox) :
    inbox.announced .take =
      (inbox.gate?.filter fun id => (inbox.pollGate id).1 = .abandoned).toList.map fun id =>
        .warning ((GateWarning.dropped id).text (inbox.labelOf id)) := by
  cases hgate : inbox.gate? with
  | none =>
    have hcollect : inbox.collect.gate? = none := hgate
    simp [announced, take, hcollect]
  | some id =>
    have hcollect : inbox.collect.gate? = some id := hgate
    have hlabel : (inbox.collect.pollGate id).2.release.2.labelOf id = inbox.labelOf id :=
      (Alike.pollGate inbox.collect id).release.2.labelOf_eq id
    have hstate := inbox.pollGate_collect_fst id
    cases hfound : (inbox.pollGate id).1 with
    | abandoned =>
      rw [Option.filter_some_pos (by simp [hfound])]
      simp [announced, take, hcollect, hstate, hfound, hlabel, GateWarning.text]
    | pending | opened =>
      rw [Option.filter_some_neg (by simp [hfound])]
      simp [announced, take, hcollect, hstate, hfound]

/-- What a single command logs: a warning about the gate that gives way, about the one that is
released, or nothing. -/
lemma exists_tells_announced (hwell : WellFormed history) (command : InboxCommand) :
    ∃ warnings, Tells (labels history) ((replay history).2.announced command)
      (fun id => (∃ newer, command = .holdUntil newer) ∧ Holds history id)
      (fun id => command = .take ∧ Holds history id ∧ WasAbandoned history id) warnings := by
  cases command with
  | holdUntil newer =>
    refine ⟨(replay history).2.gate?.toList.map .replaced, ?_, ?_, fun id => ?_, fun id => ?_⟩
    · rw [announced_holdUntil, List.map_map]
      simp only [labelOf_replay]
      rfl
    · cases (replay history).2.gate? <;> simp
    · simp [gate?_eq_some_iff]
    · simp
  | take =>
    let found? := (replay history).2.gate?.filter fun id => stateAfter history id = .abandoned
    have hfound (id : GateId) :
        found? = some id ↔ Holds history id ∧ WasAbandoned history id := by
      rw [Option.filter_eq_some_iff, gate?_eq_some_iff, decide_eq_true_iff]
      exact and_congr_right fun hholds => stateAfter_eq_iff (hholds.index_lt hwell) rfl
    refine ⟨found?.toList.map .dropped, ?_, ?_, fun id => ?_, fun id => ?_⟩
    · rw [announced_take, List.map_map]
      simp only [labelOf_replay]
      rfl
    · cases found? <;> simp
    · simp
    · simp [hfound]
  | _ => exact ⟨[], Tells.nil (fun id => by simp) fun id => by simp⟩

/-- The log of a history has one warning for each gate that gave way to a newer one and for each
that was released abandoned. -/
lemma exists_tells_log (hwell : WellFormed history) :
    ∃ warnings, Tells (labels history) (log history) (Replaced history)
      (ReleasedAbandoned history) warnings := by
  induction history using List.reverseRecOn with
  | nil => exact ⟨[], Tells.nil (fun _ => happened_nil) fun _ => happened_nil⟩
  | append_singleton history command ih =>
    obtain ⟨hbefore, -⟩ := wellFormed_concat.mp hwell
    obtain ⟨warnings, htells⟩ := ih hbefore
    obtain ⟨new, hnew⟩ := exists_tells_announced hbefore command
    have happend := htells.append hnew fun id hwarned hagain =>
      Warned.not_holds hwarned hbefore (hagain.elim And.right fun h => h.2.1)
    refine ⟨warnings ++ new, ?_⟩
    rw [labels_concat, log_concat]
    unfold Replaced ReleasedAbandoned
    simp only [happened_concat]
    refine happend.more (fun id hid => ?_) _
    rw [length_labels]
    rcases hid with (⟨-, hholds⟩ | hreplaced) | ⟨-, hholds, -⟩ | hreleased
    · exact hholds.index_lt hbefore
    · exact Warned.index_lt (Or.inl hreplaced) hbefore
    · exact hholds.index_lt hbefore
    · exact Warned.index_lt (Or.inr hreleased) hbefore

/-- The log of a history warns of these gates and of no others, and of each of them once. -/
def WarnsOf (history : List InboxCommand) (replaced dropped : GateId → Prop) : Prop :=
  ∃ warnings, Tells (labels history) (log history) replaced dropped warnings

/-- Of the gates that give way, those are said to be replaced before they resolved that were
pending; of the gates that are released, those to be dropped that were abandoned. -/
def WarnsTruthfully (history : List InboxCommand) : Prop :=
  WarnsOf history (ReplacedPending history) (ReleasedAbandoned history)

/-- A truthful log leaves no gate out that has given way, since there is a warning about each. -/
lemma WarnsTruthfully.replacedPending (h : WarnsTruthfully history) (hwell : WellFormed history)
    (hreplaced : Replaced history id) : ReplacedPending history id := by
  obtain ⟨warnings, htruthful⟩ := h
  obtain ⟨warnings', htells⟩ := exists_tells_log hwell
  exact htells.replaced_of_subset htruthful (fun _ => ReplacedPending.replaced) hreplaced

/-- A log warns of the gates that gave way to newer ones and of those that were released
abandoned, and of none twice.  So it is truthful just in case every gate was pending that gave
way. -/
theorem warnsTruthfully_iff (hwell : WellFormed history) :
    WarnsOf history (Replaced history) (ReleasedAbandoned history) ∧
      (WarnsTruthfully history ↔ ∀ id, Replaced history id → ReplacedPending history id) := by
  refine ⟨exists_tells_log hwell, fun h id => h.replacedPending hwell, fun h => ?_⟩
  have hsame : Replaced history = ReplacedPending history :=
    funext fun id => propext ⟨h id, ReplacedPending.replaced⟩
  unfold WarnsTruthfully
  rw [← hsame]
  exact exists_tells_log hwell

/-- A pending gate gives way to one whose handle is dropped. -/
theorem warnsTruthfully_of_pending :
    let waiting : List InboxCommand := [.newGate "old", .newGate "new", .holdUntil ⟨0⟩]
    let displaced := waiting ++ [.holdUntil ⟨1⟩]
    let history := displaced ++ [.abandonGate ⟨1⟩] ++ [.take]
    WellFormed history ∧ WarnsTruthfully history ∧
      log history =
        [.warning "Link gate 'old' replaced before it resolved.",
          .warning "Link gate 'new' was dropped unresolved; releasing messages."] := by
  intro waiting displaced history
  have hmade : WellFormed [.newGate "old", .newGate "new"] := wellFormed_nil.append (by simp)
  have hwaiting : WellFormed waiting := hmade.hold (by decide) (by simp)
  have hdisplaced : WellFormed displaced := hwaiting.hold (by decide) (by simp [waiting])
  have hwell : WellFormed history := (hdisplaced.append (by simp)).append (by simp)
  refine ⟨hwell, (warnsTruthfully_iff hwell).2.mpr fun id hreplaced => ?_, rfl⟩
  rcases happened_concat.mp hreplaced with ⟨⟨newer, hnewer⟩, -⟩ | hreplaced
  · cases hnewer
  rcases happened_concat.mp hreplaced with ⟨⟨newer, hnewer⟩, -⟩ | hreplaced
  · cases hnewer
  -- only a gate that was given to the inbox and does not hold it any more was replaced
  have hgiven : id = ⟨0⟩ ∨ id = ⟨1⟩ := by
    simpa [displaced, waiting] using Warned.given (Or.inl hreplaced)
  rcases hgiven with rfl | rfl
  · refine ⟨waiting, .holdUntil ⟨1⟩, [.abandonGate ⟨1⟩, .take], rfl, ⟨_, rfl⟩, ?_, ?_⟩
    · exact gate?_eq_some_iff.mp rfl
    · exact isPending_iff.mpr rfl
  · have hholds : Holds displaced ⟨1⟩ := gate?_eq_some_iff.mp rfl
    exact absurd hholds (Warned.not_holds (Or.inl hreplaced) hdisplaced)

/-- The warning about a gate that gives way is logged although the gate was opened before. -/
theorem not_forall_warnsTruthfully :
    ¬ ∀ history, WellFormed history → WarnsTruthfully history := by
  intro hall
  let opened : List InboxCommand :=
    [.newGate "a", .newGate "b"] ++ [.holdUntil ⟨0⟩] ++ [.openGate ⟨0⟩]
  have hmade : WellFormed [.newGate "a", .newGate "b"] := wellFormed_nil.append (by simp)
  have hopened : WellFormed opened := (hmade.hold (by decide) (by simp)).append (by simp)
  have hwell : WellFormed (opened ++ [.holdUntil ⟨1⟩]) :=
    hopened.hold (by decide) (by simp [opened])
  have hholds : Holds opened ⟨0⟩ := gate?_eq_some_iff.mp rfl
  have hreplaced : Replaced (opened ++ [.holdUntil ⟨1⟩]) ⟨0⟩ :=
    happened_concat.mpr (Or.inl ⟨⟨_, rfl⟩, hholds⟩)
  rcases happened_concat.mp ((hall _ hwell).replacedPending hwell hreplaced) with
    ⟨-, -, hpending⟩ | hearlier
  · exact absurd (isPending_iff.mp hpending) nofun
  · exact Warned.not_holds (Or.inl (ReplacedPending.replaced hearlier)) hopened hholds

end Inbox

end SceneEngine.LiveLink
