import SceneEngine.Proofs.LiveLink.InboxDelivery

/-!
# Looking at gates

Looking at a gate changes it.  The first look takes the signal that its handle has sent, and what is
left is a gate without a handle and without a signal, as if the handle had been dropped.  That a
gate remembers what it was found to be is all that keeps a second look from telling something else.
This module shows that it is enough: whoever looks at gates, and however often, changes nothing for
others.

## Faces

What a look tells of a gate is its face (`Gate.face`): its label and its state.  A look changes no
face (`Gate.face_poll`), and every command does the same to the faces whether or not someone has
looked before (`Inbox.faces_perform`).  So a gate can be followed by its face alone.  It is pending
until its handle is used or dropped, and then the face says which of the two came first, for good
(`Inbox.stateAfter_eq_iff`, `Inbox.stateAfter_append`).

## What is seen from outside

`Inbox.trace` is what a history shows: the messages that are taken and the entries that are logged,
in their order.  Two inboxes that differ at most in what their gates remember of looks are alike
(`Inbox.Alike`).  A look leaves an inbox that is alike to the one before and shows nothing
(`Alike.look`), and any other command shows the same of inboxes that are alike and leaves them so
(`Alike.perform`).  Hence the same is seen with looks in between as without them (`Alike.trace_eq`).

The main result is `Inbox.looks_unnoticed`.
-/

namespace SceneEngine.LiveLink

variable {history : List InboxCommand} {command use : InboxCommand} {id : GateId}
  {state : GateState}

namespace InboxCommand

/-- Whether a command does more than look.  Asking whether the inbox is held is a look at the gate
that holds it. -/
def acts : InboxCommand → Bool
  | .pollGate _ | .isHeld => false
  | _ => true

/-- The gate that a command resolves, and what it makes of it. -/
def resolves? : InboxCommand → Option (GateId × GateState)
  | .openGate id => some (id, .opened)
  | .abandonGate id => some (id, .abandoned)
  | _ => none

lemma ne_pending_of_resolves? (h : use.resolves? = some (id, state)) : state ≠ .pending := by
  cases use <;> cases h <;> nofun

lemma resolves?_inj (h : use.resolves? = some (id, state))
    (h' : command.resolves? = some (id, state)) : command = use := by
  cases use <;> cases h <;> cases command <;> cases h' <;> rfl

end InboxCommand

/-- What is seen of an inbox from outside. -/
inductive InboxEvent where
  /-- An entry is logged. -/
  | logged (entry : LogEntry)
  /-- Messages are taken, or none. -/
  | taken (messages : List Message)

/-- At some point of a history a command came that, after what had come before it, is as described.
-/
def Happened (P : List InboxCommand → InboxCommand → Prop) (history : List InboxCommand) : Prop :=
  ∃ before command after, history = before ++ command :: after ∧ P before command

/-- A gate lost its handle to a command, and was pending until then. -/
def Spent (use : InboxCommand) (id : GateId) (history : List InboxCommand) : Prop :=
  Happened (fun before command => command = use ∧ IsPending before id) history

/-- The handle of a gate was used. -/
def WasOpened (history : List InboxCommand) (id : GateId) : Prop := Spent (.openGate id) id history

/-- The handle of a gate was dropped before it was used. -/
def WasAbandoned (history : List InboxCommand) (id : GateId) : Prop :=
  Spent (.abandonGate id) id history

lemma happened_nil {P : List InboxCommand → InboxCommand → Prop} : ¬ Happened P [] := by
  rintro ⟨before, command, after, hsplit, -⟩
  simp at hsplit

lemma happened_concat {P : List InboxCommand → InboxCommand → Prop} :
    Happened P (history ++ [command]) ↔ P history command ∨ Happened P history := by
  constructor
  · rintro ⟨before, last, after, hsplit, hP⟩
    rcases append_singleton_eq_iff.mp hsplit with ⟨-, rfl, rfl⟩ | ⟨after, rfl, rfl⟩
    · exact Or.inl hP
    · exact Or.inr ⟨before, last, after, rfl, hP⟩
  · rintro (hP | ⟨before, last, after, rfl, hP⟩)
    · exact ⟨history, command, [], rfl, hP⟩
    · exact ⟨before, last, after ++ [command], by simp, hP⟩

lemma spent_concat :
    Spent use id (history ++ [command]) ↔
      (command = use ∧ IsPending history id) ∨ Spent use id history := happened_concat

lemma Spent.index_lt (h : Spent use id history) : id.index < gatesMade history := by
  obtain ⟨before, last, after, rfl, -, hpending⟩ := h
  exact Nat.lt_of_lt_of_le hpending.index_lt (gatesMade_le_append before _)

/-! ## Faces -/

/-- What a look tells of a gate. -/
structure Face where
  /-- The name of the gate. -/
  label : String
  /-- What a look finds. -/
  state : GateState

/-- The handle of a gate is used or dropped: only a pending gate is changed by that. -/
def Face.resolve (state : GateState) (face : Face) : Face :=
  if face.state = .pending then { face with state } else face

namespace Gate

variable {gate : Gate}

/-- What a look tells of a gate. -/
def face (gate : Gate) : Face := ⟨gate.label, gate.poll.1⟩

/-- A second look tells the same as the first. -/
lemma face_poll (gate : Gate) : gate.poll.2.face = gate.face := by
  unfold face poll
  split
  next state hsettled => simp [hsettled]
  next hsettled =>
    split
    next => rfl
    next =>
      split
      next => simp [hsettled]
      next => rfl

/-- A gate is found pending while its handle is around, and not after that. -/
lemma face_state_eq_pending_iff (h : gate.Sound) :
    gate.face.state = .pending ↔ gate.hasHandle = true := (poll_spec h).2.2

lemma face_openWithHandle (h : gate.Sound) :
    gate.openWithHandle.face = gate.face.resolve .opened := by
  unfold openWithHandle Face.resolve
  simp only [face_state_eq_pending_iff h]
  split
  next hhandle => simp [face, poll, (h.unsettled hhandle).2]
  next => rfl

lemma face_dropHandle (h : gate.Sound) :
    gate.dropHandle.face = gate.face.resolve .abandoned := by
  unfold dropHandle Face.resolve
  simp only [face_state_eq_pending_iff h]
  split
  next hhandle => simp [face, poll, h.unsettled hhandle]
  next hhandle => rw [← Bool.eq_false_iff.mpr hhandle]

end Gate

/-- What a command does to what a look would tell of the gates. -/
def InboxCommand.passFaces (command : InboxCommand) (faces : List Face) : List Face :=
  match command with
  | .newGate label => faces ++ [⟨label, .pending⟩]
  | _ =>
    match command.resolves? with
    | some (id, state) => faces.modify id.index (Face.resolve state)
    | none => faces

namespace Inbox

variable {inbox inbox' : Inbox} {before before' : List InboxCommand}
  {handed handed' : List Message}

/-- What looks would tell of the gates of an inbox. -/
def faces (inbox : Inbox) : List Face := inbox.gates.map Gate.face

lemma faces_modifyGate {f : Gate → Gate} {g : Face → Face}
    (h : ∀ gate, inbox.gates[id.index]? = some gate → (f gate).face = g gate.face) :
    (inbox.modifyGate id f).faces = inbox.faces.modify id.index g := by
  refine List.ext_getElem? fun i => ?_
  unfold faces modifyGate
  rw [List.getElem?_map, List.getElem?_modify, List.getElem?_modify, List.getElem?_map]
  by_cases hid : id.index = i
  · subst hid
    cases hgate : inbox.gates[id.index]? with
    | none => rfl
    | some gate => simp [h gate hgate]
  · simp [hid]

/-- A look finds what the face of the gate says; a gate that was never made holds nothing back. -/
lemma pollGate_fst (inbox : Inbox) (id : GateId) :
    (inbox.pollGate id).1 = ((inbox.faces[id.index]?).map Face.state).getD .abandoned := by
  unfold pollGate faces
  rw [List.getElem?_map]
  cases inbox.gates[id.index]? <;> rfl

lemma faces_pollGate (inbox : Inbox) (id : GateId) :
    (inbox.pollGate id).2.faces = inbox.faces := by
  unfold pollGate
  split
  next => rfl
  next gate hgate =>
    have hkeeps : (inbox.modifyGate id fun _ => gate.poll.2).faces =
        inbox.faces.modify id.index fun face => face := by
      refine faces_modifyGate fun old hold => ?_
      rw [Option.some.inj (hold.symm.trans hgate)]
      exact gate.face_poll
    exact hkeeps.trans (List.modify_id ..)

lemma labelOf_eq (inbox : Inbox) (id : GateId) :
    inbox.labelOf id = ((inbox.faces[id.index]?).map Face.label).getD "" := by
  unfold labelOf faces
  rw [List.getElem?_map]
  cases inbox.gates[id.index]? <;> rfl

/-- Every command does the same to the faces, whatever the gates remember of looks. -/
lemma faces_perform (h : inbox.GatesSound) (command : InboxCommand) :
    (inbox.perform command).2.faces = command.passFaces inbox.faces := by
  have hsound : ∀ {id : GateId} {gate : Gate}, inbox.gates[id.index]? = some gate → gate.Sound :=
    fun hgate => h _ (List.mem_of_getElem? hgate)
  cases command with
  | send message => rfl
  | newGate label => exact List.map_append
  | openGate id => exact faces_modifyGate fun _ hgate => Gate.face_openWithHandle (hsound hgate)
  | abandonGate id => exact faces_modifyGate fun _ hgate => Gate.face_dropHandle (hsound hgate)
  | pollGate id => exact inbox.faces_pollGate id
  | holdUntil id => rfl
  | isHeld =>
    simp only [perform, isHeld]
    split
    next => rfl
    next id _ => exact inbox.faces_pollGate id
  | take =>
    rcases inbox.perform_take_cases with ⟨-, htake⟩ | ⟨id, -, ⟨-, htake⟩ | ⟨-, htake⟩⟩
    · rw [htake]
      rfl
    · rw [htake]
      exact inbox.collect.faces_pollGate id
    · rw [htake]
      exact inbox.collect.faces_pollGate id

/-! ## What a gate reports after a history -/

/-- What a look at a gate reports after a history. -/
def stateAfter (history : List InboxCommand) (id : GateId) : GateState :=
  ((replay history).2.pollGate id).1

lemma length_faces (history : List InboxCommand) :
    (replay history).2.faces.length = gatesMade history := by
  have hhandles := congrArg List.length (accounts_replay history).handles_eq
  rw [length_handlesLeft] at hhandles
  unfold faces
  unfold handles at hhandles
  rwa [List.length_map] at hhandles ⊢

lemma faces_replay_concat :
    (replay (history ++ [command])).2.faces = command.passFaces (replay history).2.faces := by
  rw [replay_concat]
  exact faces_perform (accounts_replay history).sound command

lemma stateAfter_eq_pending_iff : stateAfter history id = .pending ↔ IsPending history id := by
  have haccounts := accounts_replay history
  exact (polls_pollGate haccounts.sound id).pending_iff.trans haccounts.hasHandle_iff

/-- Only a pending gate changes its state, and only by the use or the loss of its handle. -/
lemma stateAfter_concat_cases (hmade : id.index < gatesMade history) (command : InboxCommand) :
    (stateAfter history id = .pending ∧
        command.resolves? = some (id, stateAfter (history ++ [command]) id)) ∨
      (stateAfter (history ++ [command]) id = stateAfter history id ∧
        (stateAfter history id = .pending → ∀ state, command.resolves? ≠ some (id, state))) := by
  -- everything is said about the face that the gate has before the command
  obtain ⟨face, hface⟩ : ∃ face, (replay history).2.faces[id.index]? = some face :=
    ⟨_, List.getElem?_eq_getElem (by rwa [length_faces])⟩
  have hresolve : ∀ {other : GateId} {state : GateState},
      command.resolves? = some (other, state) →
        (replay (history ++ [command])).2.faces =
          (replay history).2.faces.modify other.index (Face.resolve state) := by
    intro other state h
    rw [faces_replay_concat]
    cases command <;> simp_all [InboxCommand.passFaces, InboxCommand.resolves?]
  simp only [stateAfter, pollGate_fst, hface, Option.map_some, Option.getD_some]
  cases hresolves : command.resolves? with
  | none =>
    refine Or.inr ⟨?_, nofun⟩
    rw [faces_replay_concat]
    cases command with
    | newGate label =>
      rw [InboxCommand.passFaces, List.getElem?_append_left (by rwa [length_faces]), hface]
      rfl
    | openGate | abandonGate => cases hresolves
    | _ => simp [InboxCommand.passFaces, InboxCommand.resolves?, hface]
  | some resolved =>
    obtain ⟨other, state⟩ := resolved
    rw [hresolve hresolves, List.getElem?_modify, hface]
    by_cases hother : other = id
    · subst hother
      by_cases hpending : face.state = .pending
      · exact Or.inl ⟨hpending, by simp [Face.resolve, hpending]⟩
      · exact Or.inr ⟨by simp [Face.resolve, hpending], fun h => absurd h hpending⟩
    · refine Or.inr ⟨?_, fun _ state => ?_⟩
      · simp [GateId.index_inj, hother]
      · simp [hother]

/-- A gate that is not pending reports the same ever after. -/
lemma stateAfter_append (hmade : id.index < gatesMade history)
    (hstate : stateAfter history id ≠ .pending) (later : List InboxCommand) :
    stateAfter (history ++ later) id = stateAfter history id := by
  induction later using List.reverseRecOn with
  | nil => rw [List.append_nil]
  | append_singleton later command ih =>
    have hstill := Nat.lt_of_lt_of_le hmade (gatesMade_le_append history later)
    rw [← List.append_assoc]
    -- the gate is not pending, so the command cannot resolve it
    rcases stateAfter_concat_cases hstill command with ⟨hpending, -⟩ | ⟨hsame, -⟩
    · exact absurd (ih.symm.trans hpending) hstate
    · exact hsame.trans ih

/-- A gate reports what the command made of it that took its handle. -/
lemma stateAfter_eq_iff (hmade : id.index < gatesMade history)
    (huse : use.resolves? = some (id, state)) :
    stateAfter history id = state ↔ Spent use id history := by
  have hstate := InboxCommand.ne_pending_of_resolves? huse
  induction history using List.reverseRecOn with
  | nil => cases hmade
  | append_singleton history command ih =>
    rw [spent_concat]
    by_cases hbefore : id.index < gatesMade history
    · have hspent : stateAfter history id = state ↔ Spent use id history := ih hbefore
      rw [← hspent, ← stateAfter_eq_pending_iff]
      -- a gate made before: the command resolves it, or leaves its state and then is not the one
      -- that spent its handle
      rcases stateAfter_concat_cases hbefore command with ⟨hpending, hresolves⟩ | ⟨hsame, hnot⟩
      · rw [hpending]
        simp only [and_true, hstate.symm, or_false]
        constructor
        · rintro rfl
          exact InboxCommand.resolves?_inj huse hresolves
        · rintro rfl
          exact (Prod.mk.inj (Option.some.inj (hresolves.symm.trans huse))).2
      · rw [hsame, or_iff_right]
        rintro ⟨rfl, hpending⟩
        exact hnot hpending state huse
    · -- the gate is made by the command itself and is pending
      rw [gatesMade_concat] at hmade
      have hmakes : command.makesGate = true ∧ gatesMade history = id.index := by
        cases hmakes : command.makesGate <;> simp [hmakes] at hmade ⊢ <;> omega
      have hpending : stateAfter (history ++ [command]) id = .pending :=
        stateAfter_eq_pending_iff.mpr (isPending_concat.mpr (Or.inl hmakes))
      rw [hpending]
      refine iff_of_false hstate.symm ?_
      rintro (⟨-, hearlier⟩ | hearlier)
      · exact hbefore hearlier.index_lt
      · exact hbefore hearlier.index_lt

/-! ## What is seen from outside -/

/-- What a command logs. -/
def announced (inbox : Inbox) : InboxCommand → Log
  | .holdUntil id => (inbox.holdUntil id).2
  | .take => inbox.take.2.2
  | _ => []

/-- What is seen of a command. -/
def events (inbox : Inbox) (command : InboxCommand) : List InboxEvent :=
  let logged := (inbox.announced command).map .logged
  match command with
  | .take => logged ++ [.taken inbox.take.1]
  | _ => logged

/-- What is seen of commands that are carried out one after another. -/
def trace (inbox : Inbox) : List InboxCommand → List InboxEvent
  | [] => []
  | command :: rest => inbox.events command ++ (inbox.perform command).2.trace rest

lemma trace_append (inbox : Inbox) (history later : List InboxCommand) :
    inbox.trace (history ++ later) = inbox.trace history ++
      (history.foldl (fun inbox command => (inbox.perform command).2) inbox).trace later := by
  induction history generalizing inbox with
  | nil => rfl
  | cons command rest ih => rw [List.cons_append, trace, trace, ih, List.append_assoc]; rfl

lemma replay_snd (history : List InboxCommand) :
    (replay history).2 = history.foldl (fun inbox command => (inbox.perform command).2) {} := by
  induction history using List.reverseRecOn with
  | nil => rfl
  | append_singleton history command ih => rw [replay_concat, List.foldl_append, ← ih]; rfl

lemma trace_concat :
    trace {} (history ++ [command]) = trace {} history ++ (replay history).2.events command := by
  rw [trace_append, ← replay_snd, trace, trace, List.append_nil]

/-- Two inboxes that differ at most in what their gates remember of looks. -/
structure Alike (inbox inbox' : Inbox) : Prop where
  /-- They hold the same messages, and the same gate holds them. -/
  same : inbox = { inbox' with gates := inbox.gates }
  /-- Looks would find the same. -/
  faces : inbox.faces = inbox'.faces

lemma pollGate_same (inbox : Inbox) (id : GateId) :
    (inbox.pollGate id).2 = { inbox with gates := (inbox.pollGate id).2.gates } := by
  unfold pollGate
  split <;> rfl

namespace Alike

lemma refl (inbox : Inbox) : inbox.Alike inbox := ⟨rfl, rfl⟩

lemma trans {inbox'' : Inbox} (h : inbox.Alike inbox') (h' : inbox'.Alike inbox'') :
    inbox.Alike inbox'' where
  same := by rw [h.same, h'.same]
  faces := h.faces.trans h'.faces

lemma gate?_eq (h : inbox.Alike inbox') : inbox.gate? = inbox'.gate? := by rw [h.same]

lemma labelOf_eq (h : inbox.Alike inbox') (id : GateId) : inbox.labelOf id = inbox'.labelOf id := by
  rw [Inbox.labelOf_eq, Inbox.labelOf_eq, h.faces]

/-- A look leaves an inbox as it was, but for what the gate remembers. -/
lemma pollGate (inbox : Inbox) (id : GateId) : (inbox.pollGate id).2.Alike inbox :=
  ⟨inbox.pollGate_same id, inbox.faces_pollGate id⟩

lemma symm (h : inbox.Alike inbox') : inbox'.Alike inbox := ⟨by rw [h.same], h.faces.symm⟩

/-- A look finds the same in both. -/
lemma pollGate_fst (h : inbox.Alike inbox') (id : GateId) :
    (inbox.pollGate id).1 = (inbox'.pollGate id).1 := by
  rw [Inbox.pollGate_fst, Inbox.pollGate_fst, h.faces]

lemma collect (h : inbox.Alike inbox') : inbox.collect.Alike inbox'.collect :=
  ⟨by rw [h.same]; rfl, h.faces⟩

lemma release (h : inbox.Alike inbox') :
    inbox.release.1 = inbox'.release.1 ∧ inbox.release.2.Alike inbox'.release.2 :=
  ⟨by rw [h.same]; rfl, by rw [h.same]; rfl, h.faces⟩

/-- What is taken, what is left and what is logged is the same. -/
lemma take (h : inbox.Alike inbox') :
    inbox.take.1 = inbox'.take.1 ∧ inbox.take.2.1.Alike inbox'.take.2.1 ∧
      inbox.take.2.2 = inbox'.take.2.2 := by
  have hcollect := h.collect
  unfold Inbox.take
  simp only [hcollect.gate?_eq]
  split
  next => exact ⟨hcollect.release.1, hcollect.release.2, rfl⟩
  next id _ =>
    have hpoll : (inbox.collect.pollGate id).2.Alike (inbox'.collect.pollGate id).2 :=
      ((pollGate _ id).trans hcollect).trans (pollGate _ id).symm
    simp only [hcollect.pollGate_fst id]
    split
    next => exact ⟨rfl, hpoll, rfl⟩
    next => exact ⟨hpoll.release.1, hpoll.release.2, rfl⟩
    next =>
      have hlabel := hpoll.release.2.labelOf_eq id
      exact ⟨hpoll.release.1, hpoll.release.2, by rw [hlabel]⟩

/-- A look is not seen, and leaves the inbox as it was but for what the gates remember. -/
lemma look (inbox : Inbox) (h : command.acts = false) :
    inbox.events command = [] ∧ (inbox.perform command).2.Alike inbox := by
  cases command with
  | pollGate id => exact ⟨rfl, pollGate inbox id⟩
  | isHeld =>
    refine ⟨rfl, ?_⟩
    simp only [Inbox.perform, Inbox.isHeld]
    split
    next => exact refl inbox
    next id _ => exact pollGate inbox id
  | _ => cases h

/-- Every command does the same to two inboxes that differ in what they remember of looks. -/
lemma perform (h : inbox.Alike inbox') (hsound : inbox.GatesSound) (hsound' : inbox'.GatesSound)
    (command : InboxCommand) :
    inbox.events command = inbox'.events command ∧
      (inbox.perform command).2.Alike (inbox'.perform command).2 := by
  have hfaces : (inbox.perform command).2.faces = (inbox'.perform command).2.faces := by
    rw [faces_perform hsound, faces_perform hsound', h.faces]
  cases command with
  | send message => exact ⟨rfl, by rw [h.same]; rfl, hfaces⟩
  | newGate label => exact ⟨rfl, by rw [h.same]; rfl, hfaces⟩
  | openGate id => exact ⟨rfl, by rw [h.same]; rfl, hfaces⟩
  | abandonGate id => exact ⟨rfl, by rw [h.same]; rfl, hfaces⟩
  | holdUntil id =>
    refine ⟨?_, by rw [h.same]; rfl, hfaces⟩
    simp only [events, announced, Inbox.holdUntil, h.gate?_eq, h.labelOf_eq]
  | pollGate id => exact ⟨rfl, ((pollGate _ id).trans h).trans (pollGate _ id).symm⟩
  | isHeld => exact ⟨rfl, ((look inbox rfl).2.trans h).trans (look inbox' rfl).2.symm⟩
  | take =>
    obtain ⟨htaken, hleft, hlogged⟩ := h.take
    refine ⟨?_, hleft⟩
    simp only [events, announced, htaken, hlogged]

/-- Of two inboxes that differ in what they remember of looks, one may be looked at any number of
times: the same is seen of both.  The induction is on the history that has the looks in it. -/
lemma trace_eq (h : inbox.Alike inbox') (hbefore : inbox.Accounts before handed)
    (hbefore' : inbox'.Accounts before' handed') (history : List InboxCommand) :
    inbox.trace history = inbox'.trace (history.filter InboxCommand.acts) := by
  induction history generalizing inbox inbox' before before' handed handed' with
  | nil => rfl
  | cons command rest ih =>
    rw [trace]
    cases hacts : command.acts with
    | false =>
      obtain ⟨hunseen, halike⟩ := look inbox hacts
      rw [List.filter_cons_of_neg (by simp [hacts]), hunseen, List.nil_append]
      exact ih (halike.trans h) (hbefore.perform command) hbefore'
    | true =>
      obtain ⟨hseen, halike⟩ := h.perform hbefore.sound hbefore'.sound command
      rw [List.filter_cons_of_pos hacts, trace, hseen]
      rw [ih halike (hbefore.perform command) (hbefore'.perform command)]

end Alike

/-- Looks that are put in anywhere change nothing that is taken or logged.  A gate that reports
not to be pending reports the same ever after, and it reports to be open exactly when its handle
was used. -/
theorem looks_unnoticed :
    (∀ quiet noisy : List InboxCommand,
      noisy.filter InboxCommand.acts = quiet.filter InboxCommand.acts →
        trace {} noisy = trace {} quiet) ∧
      ∀ (history : List InboxCommand) (id : GateId), id.index < gatesMade history →
        (stateAfter history id = .opened ↔ WasOpened history id) ∧
          (stateAfter history id ≠ .pending →
            ∀ later, stateAfter (history ++ later) id = stateAfter history id) := by
  refine ⟨fun quiet noisy hsame => ?_, fun history id hmade => ⟨?_, stateAfter_append hmade⟩⟩
  · have hstart (history : List InboxCommand) :
        trace {} history = trace {} (history.filter InboxCommand.acts) :=
      (Alike.refl {}).trace_eq Accounts.start Accounts.start history
    rw [hstart noisy, hstart quiet, hsame]
  · exact stateAfter_eq_iff hmade rfl

/-- Between the use of its handle and the next frame, a gate is looked at twice. -/
theorem looks_unnoticed_assets :
    let change : Message := ⟨.sceneChange, "a", .null⟩
    let quiet : List InboxCommand :=
      [.newGate "assets", .holdUntil ⟨0⟩, .send change, .openGate ⟨0⟩, .take]
    let noisy : List InboxCommand :=
      [.newGate "assets", .holdUntil ⟨0⟩, .isHeld, .send change, .openGate ⟨0⟩, .isHeld, .isHeld,
        .take]
    trace {} quiet = [.taken [change]] ∧ trace {} noisy = trace {} quiet ∧
      stateAfter (noisy ++ [.isHeld]) ⟨0⟩ = stateAfter noisy ⟨0⟩ := by
  intro change quiet noisy
  refine ⟨rfl, looks_unnoticed.1 quiet noisy rfl, ?_⟩
  exact (looks_unnoticed.2 noisy ⟨0⟩ (by decide)).2 (by decide) _

end Inbox

end SceneEngine.LiveLink
