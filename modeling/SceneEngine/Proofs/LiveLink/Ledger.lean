import Mathlib.Data.List.TakeWhile
import SceneEngine.Proofs.LiveLink.Journeys

/-!
# What a journey comes to

However frames and signs of life are served, and whenever the inbox goes away, the courier loses,
reorders and miscounts nothing.  A `Ledger` says what that means for the log of a journey and the
state at its end:

* the attempts are those of the script, and refusals when it is over (`scripted`), and the frames of
  a connection arrive in the order in which the other side has them (`session`);
* what has come out of the inbox, and then what is in it, are the messages of the frames that
  arrived while it was there (`messages_eq`);
* the report counts connections, messages and frames without a message (`connections_eq`,
  `delivered_eq`, `malformed_eq`);
* between two attempts just one connection or refusal ends, one rest before the second (`paced`);
* there is no attempt once the inbox is gone (`quits`).

All but `paced` are read off the log along the journey: each is an equation between the log and the
state that holds at the start and that every move keeps, and what a move does was said before
(`Books`, `Follows`).  `paced` needs to know more than the log tells, namely what the phase of the
courier says about the last ending (`FitsPhase`): a rest that was begun at it lasts until
`ended + rest`, and the attempt comes at once when it is over.

How long a rest is, the courier leaves to its timer.  So the ledger is that of the time that the
timer makes of the reconnect delay, and it is that of the reconnect delay itself exactly if the
timer keeps this time or there was no rest between two attempts (`ledger_of_journey`).  With the
standard timer it is not for reconnect delays of more than thirty years
(`not_forall_ledger_reconnectDelay`).
-/

namespace SceneEngine.LiveLink.Rehearsal

/-! ## Reading a log -/

/-- What came of the attempts to connect. -/
def attemptsOf (log : List (Nat × Happening)) : List Attempt := log.filterMap (·.2.attempt?)

/-- The frames that arrived. -/
def framesOf (log : List (Nat × Happening)) : List Frame := log.filterMap (·.2.frame?)

/-- The messages that came out of the inbox. -/
def handedOut (log : List (Nat × Happening)) : List Message := log.flatMap (·.2.handed)

/-- What happened while the inbox was there. -/
def beforeDrop (log : List (Nat × Happening)) : List (Nat × Happening) :=
  log.takeWhile (!·.2.isDrop)

/-- When attempts were refused and connections ended. -/
def endings (log : List (Nat × Happening)) : List Nat := (log.filter (·.2.isEnd)).map Prod.fst

/-- What a journey comes to when rests last `rest`. -/
structure Ledger (rest : Nat) (attempts : List Attempt) (log : List (Nat × Happening))
    (r : Rehearsal) : Prop where
  /-- The attempts are those of the script, and refusals when it is over. -/
  scripted : ∃ n, attemptsOf log ++ r.attempts = attempts ++ List.replicate n (.refused exhausted)
  /-- The frames of a connection arrive in the order in which the other side has them. -/
  session : ∀ before t peer since, log = before ++ (t, .attempted (.accepted peer)) :: since →
    attemptsOf since = [] → framesOf since ++ r.connection.frames.map Prod.snd =
      peer.frames.map Prod.snd
  /-- What was put into the inbox are the messages of the frames that arrived while it was there. -/
  messages_eq : handedOut log ++ r.courier.inbox.pending =
    (framesOf (beforeDrop log)).filterMap Frame.message?
  connections_eq : r.courier.report.connections = (attemptsOf log).countP Attempt.isAccepted
  delivered_eq : r.courier.report.delivered = (handedOut log ++ r.courier.inbox.pending).length
  malformed_eq : r.courier.report.malformed = (framesOf log).countP Frame.isMalformed
  /-- Between two attempts exactly one connection or refusal ends, one rest before the second. -/
  paced : ∀ before t attempt between t' attempt' after,
    log = before ++ (t, .attempted attempt) :: between ++ (t', .attempted attempt') :: after →
    attemptsOf between = [] →
      ∃ ended, endings ((t, .attempted attempt) :: between) = [ended] ∧ t' = ended + rest
  /-- There are no attempts once the inbox is gone. -/
  quits : ∀ before t messages after, log = before ++ (t, .dropped messages) :: after →
    attemptsOf after = []

variable {r r' : Rehearsal} {happening : Happening} {timer : Timer} {settings : Settings}
  {attempts : List Attempt} {log : List (Nat × Happening)} {rest t now : Nat}

lemma attemptsOf_concat :
    attemptsOf (log ++ [(t, happening)]) = attemptsOf log ++ happening.attempt?.toList := by
  rw [attemptsOf, List.filterMap_append]
  cases happening <;> rfl

lemma framesOf_concat :
    framesOf (log ++ [(t, happening)]) = framesOf log ++ happening.frame?.toList := by
  rw [framesOf, List.filterMap_append]
  cases happening <;> rfl

lemma handedOut_concat :
    handedOut (log ++ [(t, happening)]) = handedOut log ++ happening.handed := by
  rw [handedOut, List.flatMap_append, List.flatMap_singleton, handedOut]

lemma endings_append (log log' : List (Nat × Happening)) :
    endings (log ++ log') = endings log ++ endings log' := by
  rw [endings, List.filter_append, List.map_append, endings, endings]

lemma endings_singleton_of_isEnd (hend : happening.isEnd = true) :
    endings [(t, happening)] = [t] := by
  simp [endings, hend]

lemma endings_singleton_of_not_isEnd (hend : happening.isEnd = false) :
    endings [(t, happening)] = [] := by
  simp [endings, hend]

/-- A frame arrives in time if the inbox has not gone away before. -/
lemma framesOf_beforeDrop_concat :
    framesOf (beforeDrop (log ++ [(t, happening)])) = framesOf (beforeDrop log) ++
      if log.any (·.2.isDrop) then [] else happening.frame?.toList := by
  unfold beforeDrop
  rw [List.takeWhile_append]
  cases hdrop : log.any (·.2.isDrop) with
  | true =>
    -- the inbox went away before, so the part up to then does not grow any more
    have hlength : (log.takeWhile (!·.2.isDrop)).length ≠ log.length := by
      intro hlength
      have hall := List.takeWhile_eq_self_iff.mp
        ((List.takeWhile_prefix _).eq_of_length hlength)
      obtain ⟨e, he, hdrop⟩ := List.any_eq_true.mp hdrop
      simpa [hdrop] using hall e he
    rw [if_neg hlength, if_pos rfl, List.append_nil]
  | false =>
    -- the inbox is still there, so that part is the whole log
    have hall : log.takeWhile (!·.2.isDrop) = log := by
      refine List.takeWhile_eq_self_iff.mpr fun e he => ?_
      simpa using List.any_eq_false.mp hdrop e he
    rw [hall, if_pos rfl, if_neg Bool.false_ne_true]
    cases happening <;> simp [framesOf, Happening.isDrop, Happening.frame?]

/-! ## Counters and messages -/

/-- The courier keeps its timer and its settings, and so all rests last equally long, as long as the
timer makes of the reconnect delay. -/
lemma Journey.restTime_eq (h : Journey timer settings attempts log r) :
    r.courier.restTime = timer.wait settings.reconnectDelay := by
  induction h with
  | start => rfl
  | move _ h ih =>
    rw [Courier.restTime, h.books.timer_eq, h.books.settings_eq]
    exact ih
  | pass _ _ ih => exact ih

/-- The inbox is there until it goes away, and then never again. -/
lemma Journey.isOpen_eq (h : Journey timer settings attempts log r) :
    r.courier.inbox.isOpen = !log.any (·.2.isDrop) := by
  induction h with
  | start => rfl
  | move _ h ih =>
    rw [h.books.isOpen_eq, ih, List.any_append, Bool.not_or]
    simp
  | pass _ _ ih => exact ih

/-- What has come out of the inbox, and then what is in it, grows by what is put into it. -/
lemma Books.handedOut_append_pending (h : Books r happening r') :
    handedOut (log ++ [(t, happening)]) ++ r'.courier.inbox.pending =
      handedOut log ++ r.courier.inbox.pending ++ r.puts happening := by
  rw [handedOut_concat, List.append_assoc, h.messages_eq, List.append_assoc]

/-- No message is lost, brought twice or out of order. -/
lemma Journey.messages_eq (h : Journey timer settings attempts log r) :
    handedOut log ++ r.courier.inbox.pending =
      (framesOf (beforeDrop log)).filterMap Frame.message? := by
  induction h with
  | start => rfl
  | @move log r r' happening before h ih =>
    rw [h.books.handedOut_append_pending, ih, framesOf_beforeDrop_concat, List.filterMap_append,
      puts, before.isOpen_eq]
    cases log.any (·.2.isDrop) <;> rfl
  | pass _ _ ih => exact ih

lemma Journey.delivered_eq (h : Journey timer settings attempts log r) :
    r.courier.report.delivered = (handedOut log ++ r.courier.inbox.pending).length := by
  induction h with
  | start => rfl
  | move _ h ih =>
    rw [h.books.handedOut_append_pending, List.length_append, ← ih]
    exact h.books.delivered_eq
  | pass _ _ ih => exact ih

lemma Journey.connections_eq (h : Journey timer settings attempts log r) :
    r.courier.report.connections = (attemptsOf log).countP Attempt.isAccepted := by
  induction h with
  | start => rfl
  | move _ h ih =>
    rw [attemptsOf_concat, List.countP_append, ← ih]
    exact h.books.connections_eq
  | pass _ _ ih => exact ih

lemma Journey.malformed_eq (h : Journey timer settings attempts log r) :
    r.courier.report.malformed = (framesOf log).countP Frame.isMalformed := by
  induction h with
  | start => rfl
  | move _ h ih =>
    rw [framesOf_concat, List.countP_append, ← ih]
    exact h.books.malformed_eq
  | pass _ _ ih => exact ih

/-! ## The script -/

lemma Journey.scripted (h : Journey timer settings attempts log r) :
    ∃ n, attemptsOf log ++ r.attempts = attempts ++ List.replicate n (.refused exhausted) := by
  induction h with
  | start => exact ⟨0, (List.append_nil _).symm⟩
  | move _ h ih =>
    obtain ⟨n, hn⟩ := ih
    rw [attemptsOf_concat, List.append_assoc]
    -- either the script still has an attempt, or this is one more refusal beyond its end
    obtain hnext | ⟨hnone, hnone', hattempt⟩ := h.follows.attempts
    · exact ⟨n, hnext ▸ hn⟩
    · refine ⟨n + 1, ?_⟩
      rw [hnone, List.append_nil] at hn
      rw [hnone', hattempt, hn, List.append_nil, List.replicate_succ', List.append_assoc]
      rfl
  | pass _ _ ih => exact ih

lemma Journey.session (h : Journey timer settings attempts log r) :
    ∀ before t peer since, log = before ++ (t, .attempted (.accepted peer)) :: since →
      attemptsOf since = [] → framesOf since ++ r.connection.frames.map Prod.snd =
        peer.frames.map Prod.snd := by
  induction h with
  | start => exact fun before t peer since hlog => absurd hlog (by simp)
  | move _ h ih =>
    intro before t peer since hlog hsince
    -- the connection begins with this very move, or it began before and has gone on
    rcases append_singleton_eq_iff.mp hlog with ⟨rfl, -, hlast⟩ | ⟨since, rfl, hlog'⟩
    · obtain ⟨-, rfl⟩ := Prod.mk.inj hlast
      exact h.follows.accepted peer rfl
    · rw [attemptsOf_concat, List.append_eq_nil_iff, Option.toList_eq_nil_iff] at hsince
      rw [framesOf_concat, List.append_assoc, h.follows.frames hsince.2]
      exact ih before t peer since hlog' hsince.1
  | pass _ _ ih => exact ih

/-- Without an inbox the courier asks for no connection. -/
lemma Journey.quits (h : Journey timer settings attempts log r) :
    ∀ before t messages after, log = before ++ (t, .dropped messages) :: after →
      attemptsOf after = [] := by
  induction h with
  | start => exact fun before t messages after hlog => absurd hlog (by simp)
  | @move log r r' happening hbefore h ih =>
    intro before t messages after hlog
    -- nothing follows yet if the inbox goes away now; if it went before, there is no attempt now
    rcases append_singleton_eq_iff.mp hlog with ⟨rfl, -, -⟩ | ⟨after, rfl, hlog'⟩
    · rfl
    · have hgone : r.courier.inbox.isOpen = false := by
        rw [hbefore.isOpen_eq, hlog']
        simp [Happening.isDrop]
      have hattempt : happening.attempt? = none := by
        by_contra hattempt
        exact absurd (h.isOpen_of_attempt hattempt) (Bool.eq_false_iff.mp hgone)
      rw [attemptsOf_concat, ih before t messages after hlog', hattempt]
      rfl
  | pass _ _ ih => exact ih

/-! ## The times of attempts -/

/-- What the phase says about the endings since the last attempt: before a rest is over there has
been exactly one, and while the courier reads there has been none. -/
def FitsPhase (rest now : Nat) (ended : List Nat) : Phase → Prop
  | .connecting => ∃ e, ended = [e] ∧ now = e + rest
  | .resting wakeAt => ∃ e, ended = [e] ∧ wakeAt = e + rest
  | .reading _ => ended = []
  | .stopped => True

/-- What the phase says stays true with everything but an attempt: an ending adds itself and begins
a rest, and the end of a rest comes at its time. -/
lemma FitsPhase.turn {ended : List Nat} {phase phase' : Phase} (h : FitsPhase rest now ended phase)
    (hturns : Turns rest now phase happening phase') (hattempt : happening.attempt? = none)
    (hwake : ∀ wakeAt, phase = .resting wakeAt → now ≤ wakeAt) :
    FitsPhase rest now (ended ++ endings [(now, happening)]) phase' := by
  cases hturns with
  | refuse => cases hattempt
  | accept => cases hattempt
  | wake hdue =>
    -- the rest began at the ending `e`, and its time has come just now
    obtain ⟨e, hended, hwakeAt⟩ := h
    rw [endings_singleton_of_not_isEnd rfl, List.append_nil]
    exact ⟨e, hended, (Nat.le_antisymm (hwake _ rfl) hdue).trans hwakeAt⟩
  | lose _ hend =>
    have hnone : ended = [] := h
    rw [hnone, endings_singleton_of_isEnd hend]
    exact ⟨now, rfl, rfl⟩
  | goOn _ hend =>
    rw [endings_singleton_of_not_isEnd hend, List.append_nil]
    exact h
  | stay _ hend =>
    rw [endings_singleton_of_not_isEnd hend, List.append_nil]
    exact h
  | stop => trivial

/-- With an attempt the phase begins anew. -/
lemma FitsPhase.attempt {attempt : Attempt} {phase phase' : Phase}
    (hturns : Turns rest now phase (.attempted attempt) phase') :
    phase = .connecting ∧ FitsPhase rest now (endings [(now, .attempted attempt)]) phase' := by
  cases hturns with
  | refuse => exact ⟨rfl, now, rfl, rfl⟩
  | accept => exact ⟨rfl, rfl⟩
  | lose hattempt => cases hattempt
  | goOn hattempt => cases hattempt
  | stay hattempt => cases hattempt
  | stop hattempt => cases hattempt

/-- While the clock goes on, the phase goes on to tell when the last connection ended. -/
lemma FitsPhase.pass {ended : List Nat} {time : Nat} (hpass : r.MayPass time)
    (h : FitsPhase rest r.now ended r.courier.phase) :
    FitsPhase rest (r.now + time) ended r.courier.phase := by
  unfold MayPass at hpass
  cases hphase : r.courier.phase with
  | connecting =>
    rw [hphase] at h hpass
    obtain rfl : time = 0 := hpass
    exact h
  | resting wakeAt =>
    rw [hphase] at h
    exact h
  | reading nextPing =>
    rw [hphase] at h
    exact h
  | stopped => trivial

lemma Journey.fitsPhase (h : Journey timer settings attempts log r) :
    ∀ before t attempt since, log = before ++ (t, .attempted attempt) :: since →
      attemptsOf since = [] →
        FitsPhase (timer.wait settings.reconnectDelay) r.now
          (endings ((t, .attempted attempt) :: since)) r.courier.phase := by
  induction h with
  | start => exact fun before t attempt since hlog => absurd hlog (by simp)
  | @move log r r' happening hbefore h ih =>
    intro before t attempt since hlog hsince
    have hturns := h.turns
    rw [hbefore.restTime_eq] at hturns
    rw [h.books.now_eq]
    -- the attempt is this move, and then the endings begin with it; or it lies further back, and
    -- the phase has turned since
    rcases append_singleton_eq_iff.mp hlog with ⟨rfl, -, hlast⟩ | ⟨since, rfl, hlog'⟩
    · obtain ⟨rfl, rfl⟩ := Prod.mk.inj hlast
      exact (FitsPhase.attempt hturns).2
    · rw [attemptsOf_concat, List.append_eq_nil_iff, Option.toList_eq_nil_iff] at hsince
      rw [← List.cons_append, endings_append]
      exact (ih before t attempt since hlog' hsince.1).turn hturns hsince.2 hbefore.now_le_wakeAt
  | pass _ hpass ih =>
    exact fun before t attempt since hlog hsince =>
      (ih before t attempt since hlog hsince).pass hpass

/-- The next attempt comes one rest after the last connection has ended. -/
lemma Journey.paced (h : Journey timer settings attempts log r) :
    ∀ before t attempt between t' attempt' after,
      log = before ++ (t, .attempted attempt) :: between ++ (t', .attempted attempt') :: after →
      attemptsOf between = [] →
        ∃ ended, endings ((t, .attempted attempt) :: between) = [ended] ∧
          t' = ended + timer.wait settings.reconnectDelay := by
  induction h with
  | start => exact fun before t attempt between t' attempt' after hlog => absurd hlog (by simp)
  | @move log r r' happening hbefore h ih =>
    intro before t attempt between t' attempt' after hlog hbetween
    -- only when the second attempt is this move there is something to show: before it the courier
    -- was connecting
    rcases append_singleton_eq_iff.mp hlog with ⟨rfl, hlog', hlast⟩ | ⟨after, rfl, hlog'⟩
    · obtain ⟨rfl, rfl⟩ := Prod.mk.inj hlast
      have hfits := hbefore.fitsPhase before t attempt between hlog' hbetween
      rw [(FitsPhase.attempt h.turns).1] at hfits
      exact hfits
    · exact ih before t attempt between t' attempt' after hlog' hbetween
  | pass _ _ ih => exact ih

/-- Two attempts in a row, if there are two at all, and nothing but other things between them. -/
lemma exists_eq_append_of_one_lt_length (h : 1 < (attemptsOf log).length) :
    ∃ before t attempt between t' attempt' after,
      log = before ++ (t, .attempted attempt) :: between ++ (t', .attempted attempt') :: after ∧
        attemptsOf between = [] := by
  have hattempted : ∀ (e : Nat × Happening) (attempt : Attempt),
      e.2.attempt? = some attempt → e = (e.1, .attempted attempt) := by
    rintro ⟨t, happening⟩ attempt hattempt
    cases happening <;> cases hattempt
    rfl
  obtain ⟨attempt, attempt', attempts, hattempts⟩ :
      ∃ attempt attempt' attempts, attemptsOf log = attempt :: attempt' :: attempts := by
    match attemptsOf log, h with
    | attempt :: attempt' :: attempts, _ => exact ⟨attempt, attempt', attempts, rfl⟩
  -- the log is split at its first two attempts
  obtain ⟨before, e, since, rfl, -, he, hsince⟩ := List.filterMap_eq_cons_iff.mp hattempts
  obtain ⟨between, e', after, rfl, hbetween, he', -⟩ := List.filterMap_eq_cons_iff.mp hsince
  refine ⟨before, e.1, attempt, between, e'.1, attempt', after, ?_,
    List.filterMap_eq_nil_iff.mpr hbetween⟩
  rw [← hattempted e attempt he, ← hattempted e' attempt' he', List.append_assoc, List.cons_append]

/-! ## The ledger -/

/-- Two ledgers of one journey agree about the rests, if there was one between two attempts. -/
lemma Ledger.rest_eq {rest' : Nat} (h : Ledger rest attempts log r)
    (h' : Ledger rest' attempts log r) (hattempts : 1 < (attemptsOf log).length) :
    rest = rest' := by
  obtain ⟨before, t, attempt, between, t', attempt', after, hlog, hbetween⟩ :=
    exists_eq_append_of_one_lt_length hattempts
  obtain ⟨ended, hended, htime⟩ := h.paced before t attempt between t' attempt' after hlog hbetween
  obtain ⟨ended', hended', htime'⟩ :=
    h'.paced before t attempt between t' attempt' after hlog hbetween
  rw [hended] at hended'
  obtain rfl : ended = ended' := List.singleton_inj.mp hended'
  exact Nat.add_left_cancel (htime.symm.trans htime')

/-- A ledger says nothing about rests while there is at most one attempt. -/
lemma Ledger.of_length_le_one {rest' : Nat} (h : Ledger rest attempts log r)
    (hattempts : (attemptsOf log).length ≤ 1) : Ledger rest' attempts log r := by
  refine { h with paced := ?_ }
  rintro before t attempt between t' attempt' after rfl -
  have htwo : 2 ≤ (attemptsOf (before ++ (t, .attempted attempt) :: between ++
      (t', .attempted attempt') :: after)).length := by
    simp [attemptsOf, Happening.attempt?]
    omega
  omega

/-- What a journey comes to when rests last as long as the timer makes them. -/
lemma Journey.ledger (h : Journey timer settings attempts log r) :
    Ledger (timer.wait settings.reconnectDelay) attempts log r :=
  { scripted := h.scripted
    session := h.session
    messages_eq := h.messages_eq
    connections_eq := h.connections_eq
    delivered_eq := h.delivered_eq
    malformed_eq := h.malformed_eq
    paced := h.paced
    quits := h.quits }

/-- **What a journey comes to.**  Whatever is served first and whenever the inbox goes away, the
messages that arrived in time are put into the inbox in their order, the report counts what was
done, the attempts follow the script, and there is none once the inbox is gone.  Between two
attempts the courier rests as long as the timer makes of the reconnect delay: that is the reconnect
delay itself exactly if the timer keeps it, or if there are no two attempts to rest between. -/
theorem ledger_of_journey (h : Journey timer settings attempts log r) :
    Ledger (timer.wait settings.reconnectDelay) attempts log r ∧
      (Ledger settings.reconnectDelay attempts log r ↔
        timer.Keeps settings.reconnectDelay ∨ (attemptsOf log).length ≤ 1) := by
  refine ⟨h.ledger, fun hledger => ?_, ?_⟩
  -- with two attempts both ledgers tell the time of one rest, and so it is the same
  · by_cases hattempts : 1 < (attemptsOf log).length
    · exact .inl (h.ledger.rest_eq hledger hattempts)
    · exact .inr (Nat.le_of_not_lt hattempts)
  · rintro (hkeeps | hattempts)
    · have hledger := h.ledger
      rwa [hkeeps] at hledger
    · exact h.ledger.of_length_le_one hattempts

/-- A connection that brings text that is no message and then a message, and closes; one rest later
a refusal; and in the middle of the rest after that the inbox goes away, with the message in it.
The courier has counted one connection, one message brought and one frame without a message. -/
theorem ledger_of_loss :
    let message : Message := ⟨.assetExport, "a", .null⟩
    let peer : Peer :=
      ⟨[(0, .text "not json"), (0, .text "[\"export\", \"a\"]"), (0, .closed)], none⟩
    let attempts : List Attempt := [.accepted peer, .refused "busy"]
    let log : List (Nat × Happening) :=
      [(0, .attempted (.accepted peer)), (0, .received (.text "not json")),
        (0, .received (.text "[\"export\", \"a\"]")), (0, .received .closed), (1000, .woke),
        (1000, .attempted (.refused "busy")), (1500, .dropped [message]), (2000, .woke),
        (2000, .noticed)]
    ∃ r, Journey .standard {} attempts log r ∧ r.courier.phase = .stopped ∧
      r.courier.report = ⟨1, 1, 1⟩ ∧ handedOut log = [message] ∧
      Ledger (Timer.standard.wait 1000) attempts log r ∧ Ledger 1000 attempts log r := by
  intro message peer attempts log
  have hnone : Message.parse "not json" = .error .malformed := by cbv
  have hparse : Message.parse "[\"export\", \"a\"]" = .ok message := by cbv
  let start : Rehearsal :=
    { courier := { settings := {}, timer := .standard }, attempts, dropAt? := none }
  have hconnected : Journey .standard {} attempts (log.take 1) start.connect :=
    (Journey.start none).move (.attempt rfl (mt (connect_seen_eq_iff rfl).mp Bool.noConfusion))
  rw [show start.connect = { start.see (.connect "ws://localhost:9001") with
      attempts := [.refused "busy"]
      courier := { settings := {}, timer := .standard, phase := .reading 5000, report := ⟨1, 0, 0⟩ }
      connection := ⟨peer.frames, none, 0⟩ } from rfl] at hconnected
  -- both texts have to be read before the next step can be computed
  have hmalformed : Journey .standard {} attempts (log.take 2) _ :=
    hconnected.move (.read rfl rfl (Nat.le_refl 0))
  simp only [read, Courier.receive, hnone] at hmalformed
  have hdelivered : Journey .standard {} attempts (log.take 3) _ :=
    hmalformed.move (.read rfl rfl (Nat.le_refl 0))
  simp only [read, Courier.receive, hparse] at hdelivered
  have hclosed : Journey .standard {} attempts (log.take 4) _ :=
    hdelivered.move (.read rfl rfl (Nat.le_refl 0))
  have hrested := hclosed.pass
    (show MayPass _ 1000 from mayPass_of_resting rfl (Nat.le_refl 1000))
  have hwoke : Journey .standard {} attempts (log.take 5) _ :=
    hrested.move (.wake rfl (Nat.le_refl 1000))
  have hrefused : Journey .standard {} attempts (log.take 6) _ :=
    hwoke.move (.attempt rfl (mt (connect_seen_eq_iff rfl).mp Bool.noConfusion))
  have hrested := hrefused.pass
    (show MayPass _ 500 from mayPass_of_resting rfl (Nat.le_add_right 1500 500))
  have hdropped : Journey .standard {} attempts (log.take 7) _ := hrested.move (.drop rfl)
  have hrested := hdropped.pass
    (show MayPass _ 500 from mayPass_of_resting rfl (Nat.le_refl 2000))
  have hwoke : Journey .standard {} attempts (log.take 8) _ :=
    hrested.move (.wake rfl (Nat.le_refl 2000))
  have hnoticed : Journey .standard {} attempts log _ :=
    hwoke.move (.halt rfl ((connect_seen_eq_iff rfl).mpr rfl))
  obtain ⟨hledger, hiff⟩ := ledger_of_journey hnoticed
  have hkeeps : Timer.standard.Keeps 1000 := Timer.keeps_standard_iff.mpr (by decide)
  exact ⟨_, hnoticed, rfl, rfl, rfl, hledger, hiff.mpr (.inl hkeeps)⟩

/-- Two refusals are one rest apart, whatever the timer makes of the reconnect delay. -/
lemma exists_journey_refusals (timer : Timer) (settings : Settings) (reason reason' : String) :
    ∃ r, Journey timer settings [.refused reason, .refused reason']
      [(0, .attempted (.refused reason)), (timer.wait settings.reconnectDelay, .woke),
        (timer.wait settings.reconnectDelay, .attempted (.refused reason'))] r := by
  let start : Rehearsal :=
    { courier := { settings, timer }, attempts := [.refused reason, .refused reason'],
      dropAt? := none }
  have hattempt : Journey timer settings start.attempts [(0, .attempted (.refused reason))]
      start.connect :=
    (Journey.start none).move (.attempt rfl (mt (connect_seen_eq_iff rfl).mp Bool.noConfusion))
  have hphase : start.connect.courier.phase = .resting (0 + timer.wait settings.reconnectDelay) :=
    rfl
  have hrested := hattempt.pass (mayPass_of_resting hphase (Nat.le_refl _))
  have hwoke := hrested.move (.wake hphase (Nat.le_refl _))
  have hagain := hwoke.move (.attempt rfl (mt (connect_seen_eq_iff rfl).mp Bool.noConfusion))
  have hnow : start.connect.now + timer.wait settings.reconnectDelay =
      timer.wait settings.reconnectDelay := Nat.zero_add _
  exact ⟨_, hnow ▸ hagain⟩

/-- With a reconnect delay of more than thirty years the second attempt comes too early. -/
theorem not_forall_ledger_reconnectDelay :
    ¬∀ (settings : Settings) (attempts : List Attempt) (log : List (Nat × Happening))
      (r : Rehearsal), Journey .standard settings attempts log r →
        Ledger settings.reconnectDelay attempts log r := by
  -- one millisecond more than the timer keeps, and two refusals
  intro hledger
  let settings : Settings := { reconnectDelay := Timer.horizon + 1 }
  obtain ⟨r, h⟩ := exists_journey_refusals .standard settings "a" "b"
  have hkeeps : Timer.standard.Keeps (Timer.horizon + 1) :=
    h.ledger.rest_eq (hledger settings _ _ r h) Nat.one_lt_two
  exact absurd (Timer.keeps_standard_iff.mp hkeeps) (Nat.not_succ_le_self _)

end SceneEngine.LiveLink.Rehearsal
