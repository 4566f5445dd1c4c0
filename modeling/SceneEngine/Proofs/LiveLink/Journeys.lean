import SceneEngine.LiveLink.Rehearsal
import SceneEngine.Proofs.Ordered.Collections

/-!
# Journeys of the courier

A rehearsal lets the courier run against scripted peers.  It does what is due in one fixed order and
lets the inbox go away at a set moment, so what is seen of it is one of many things that might have
happened.  A journey leaves open what is open in truth: whatever is ready may be served in any order
and any time late, the owner of the inbox may take a message at any moment, and the inbox may go
away at any.

## What can happen

A `Happening` is something that happens to the courier or to its inbox.  `Rehearsal.Move` says what
can happen at a moment, and what the courier makes of it is what its steps compute; nothing is
written down a second time here.  The clock goes on between moves (`Rehearsal.MayPass`).  Only rests
are exact: a rest is over when its time has come, and then the courier connects at once.  How long a
rest is, its timer decides, which is a parameter.  The log of a journey tells what the other sides
and the owner of the inbox did, and when.

## What a single move does

This is said three times, for different readers.

* `Move.turns`: how the phase changes.  A connection comes from an attempt, a rest from a refusal or
  the end of a connection, and after a rest comes the next attempt.
* `Move.books`: how the counters and the inbox change, by what the frames hold and not by what was
  counted.
* `Move.follows`: attempts and frames are the next ones of the script.

Statements about whole journeys are inductions with these three as their steps; they are in
`Proofs/LiveLink/Ledger`.

## Rehearsals

Every rehearsal is a journey (`exists_journey_run`), so what is shown of journeys is true of what a
rehearsal reports, with the timer that it runs on.
-/

namespace SceneEngine.LiveLink

/-- The message in a frame. -/
def Frame.message? : Frame → Option Message
  | .text content => (Message.parse content).toOption
  | .failed _ | .closed => none

/-- Whether a frame is text that holds no message. -/
def Frame.isMalformed : Frame → Bool
  | .text content => (Message.parse content).toOption.isNone
  | .failed _ | .closed => false

/-- Whether the connection is over with this frame. -/
def Frame.isLast : Frame → Bool
  | .text _ => false
  | .failed _ | .closed => true

/-- Whether an attempt comes to a connection. -/
def Attempt.isAccepted : Attempt → Bool
  | .refused _ => false
  | .accepted _ => true

/-! ## What can happen -/

/-- Something that happens to the courier or to its inbox: by its own doing, by the other side, or
by the owner of the inbox. -/
inductive Happening where
  /-- The courier asked for a connection, and this came of it. -/
  | attempted (attempt : Attempt)
  /-- The courier noticed that the inbox is gone. -/
  | noticed
  /-- A rest was over. -/
  | woke
  /-- A frame arrived, which may be the end of the connection. -/
  | received (frame : Frame)
  /-- The courier gave a sign of life, to which the other side may be deaf. -/
  | pinged (deaf : Bool)
  /-- The owner of the inbox took a message. -/
  | took (message : Message)
  /-- The inbox went away, with messages that nobody had taken. -/
  | dropped (messages : List Message)

namespace Happening

/-- What came of asking for a connection. -/
def attempt? : Happening → Option Attempt
  | .attempted attempt => some attempt
  | _ => none

/-- The frame that arrived. -/
def frame? : Happening → Option Frame
  | .received frame => some frame
  | _ => none

/-- The messages that came out of the inbox. -/
def handed : Happening → List Message
  | .took message => [message]
  | .dropped messages => messages
  | _ => []

/-- Whether the inbox went away. -/
def isDrop : Happening → Bool
  | .dropped _ => true
  | _ => false

/-- Whether an attempt was refused or a connection came to its end. -/
def isEnd : Happening → Bool
  | .attempted attempt => !attempt.isAccepted
  | .received frame => frame.isLast
  | .pinged deaf => deaf
  | _ => false

end Happening

namespace Rehearsal

/-- What can happen at a moment, and what the courier makes of it.  It asked for a connection, or
gave a sign of life, if the other side saw something. -/
inductive Move : Rehearsal → Happening → Rehearsal → Prop
  /-- The courier asks for a connection. -/
  | attempt {r : Rehearsal} (hphase : r.courier.phase = .connecting)
    (hseen : r.connect.seen ≠ r.seen) : Move r (.attempted r.nextAttempt) r.connect
  /-- It finds the inbox gone before it asks. -/
  | halt {r : Rehearsal} (hphase : r.courier.phase = .connecting)
    (hseen : r.connect.seen = r.seen) : Move r .noticed r.connect
  /-- A rest is over. -/
  | wake {r : Rehearsal} {wakeAt : Nat} (hphase : r.courier.phase = .resting wakeAt)
    (hdue : wakeAt ≤ r.now) : Move r .woke r.wake
  /-- The next frame of the connection has arrived. -/
  | read {r : Rehearsal} {nextPing ready : Nat} {frame : Frame} {frames : List (Nat × Frame)}
    (hphase : r.courier.phase = .reading nextPing)
    (hframes : r.connection.frames = (ready, frame) :: frames) (hready : ready ≤ r.now) :
    Move r (.received frame) (r.read frame frames)
  /-- A sign of life is due. -/
  | ping {r : Rehearsal} {nextPing : Nat} (hphase : r.courier.phase = .reading nextPing)
    (hdue : nextPing ≤ r.now) (hseen : r.ping.seen ≠ r.seen) :
    Move r (.pinged r.connection.isDeaf) r.ping
  /-- It finds the inbox gone when one is due. -/
  | notice {r : Rehearsal} {nextPing : Nat} (hphase : r.courier.phase = .reading nextPing)
    (hdue : nextPing ≤ r.now) (hseen : r.ping.seen = r.seen) : Move r .noticed r.ping
  /-- The owner of the inbox takes the first message. -/
  | take {r : Rehearsal} {message : Message} {inbox : EventQueue Message}
    (hreceive : r.courier.inbox.receive = (some message, inbox)) :
    Move r (.took message) { r with courier := { r.courier with inbox } }
  /-- The inbox goes away. -/
  | drop {r : Rehearsal} (hopen : r.courier.inbox.isOpen = true) :
    Move r (.dropped r.drop.taken) r.drop

/-- Whether the clock may go on for a time before anything else happens. -/
def MayPass (r : Rehearsal) (time : Nat) : Prop :=
  match r.courier.phase with
  | .connecting => time = 0
  | .resting wakeAt => r.now + time ≤ wakeAt
  | .reading _ | .stopped => True

/-- A run of the courier against scripted peers, with a log of what happened and when.  It may stop
anywhere, so that what holds of all journeys holds at every moment of a run. -/
inductive Journey (timer : Timer) (settings : Settings) (attempts : List Attempt) :
    List (Nat × Happening) → Rehearsal → Prop
  /-- The courier starts with nothing done.  A moment may be set at which a rehearsal drops the
  inbox; it binds no journey. -/
  | start (dropAt? : Option Nat) :
    Journey timer settings attempts [] { courier := { settings, timer }, attempts, dropAt? }
  /-- Something happens. -/
  | move {log : List (Nat × Happening)} {r r' : Rehearsal} {happening : Happening}
    (before : Journey timer settings attempts log r) (h : Move r happening r') :
    Journey timer settings attempts (log ++ [(r.now, happening)]) r'
  /-- The clock goes on. -/
  | pass {log : List (Nat × Happening)} {r : Rehearsal} {time : Nat}
    (before : Journey timer settings attempts log r) (h : r.MayPass time) :
    Journey timer settings attempts log { r with now := r.now + time }

variable {r r' : Rehearsal} {happening : Happening} {timer : Timer} {settings : Settings}
  {attempts : List Attempt} {log : List (Nat × Happening)}

/-! ## The actions of the courier -/

/-- What the courier makes of a frame, in one of four ways.  What goes into its own log is left
open. -/
inductive Reads (courier : Courier) (now : Nat) : Frame → Courier → Prop
  /-- The connection is over, and the courier rests. -/
  | last {frame : Frame} (hlast : frame.isLast = true) (log : Log) :
    Reads courier now frame { courier with log, phase := .resting (now + courier.restTime) }
  /-- A message goes into the inbox. -/
  | put {content : String} {message : Message} (hparse : Message.parse content = .ok message)
    (hopen : courier.inbox.isOpen = true) :
    Reads courier now (.text content)
      { courier with
        inbox := ⟨courier.inbox.pending ++ [message], true⟩
        report := { courier.report with delivered := courier.report.delivered + 1 } }
  /-- There is no inbox to put the message into. -/
  | gone {content : String} {message : Message} (hparse : Message.parse content = .ok message)
    (hgone : courier.inbox.isOpen = false) : Reads courier now (.text content) courier.stop
  /-- The frame is no message. -/
  | malformed {content : String} {e : LinkError} (hparse : Message.parse content = .error e)
    (log : Log) :
    Reads courier now (.text content)
      { courier with
        log
        report := { courier.report with malformed := courier.report.malformed + 1 } }

lemma reads_receive (courier : Courier) (now : Nat) (frame : Frame) :
    Reads courier now frame (courier.receive now frame) := by
  cases frame with
  | closed => exact .last rfl courier.log
  | failed reason => exact .last rfl _
  | text content =>
    cases hparse : Message.parse content with
    | error e =>
      simp only [Courier.receive, hparse]
      exact .malformed hparse _
    | ok message =>
      cases hinbox : courier.inbox.isOpen with
      | true =>
        simp only [Courier.receive, hparse, Courier.deliver, EventQueue.send, hinbox, if_true]
        exact .put hparse hinbox
      | false =>
        simp only [Courier.receive, hparse, Courier.deliver, EventQueue.send, hinbox,
          Bool.false_eq_true, if_false]
        exact .gone hparse hinbox

lemma exists_reads_read (r : Rehearsal) (frame : Frame) (frames : List (Nat × Frame)) :
    ∃ courier, Reads r.courier r.now frame courier ∧
      r.read frame frames = { r with courier, connection := { r.connection with frames } } :=
  ⟨_, reads_receive r.courier r.now frame, rfl⟩

lemma connect_of_gone (hphase : r.courier.phase = .connecting)
    (hgone : r.courier.inbox.isOpen = false) :
    r.connect = { r with courier := r.courier.stop } := by
  simp [connect, Courier.wantsConnection, hphase, hgone]

/-- The rehearsal after an attempt that comes to nothing. -/
lemma connect_of_refused (hphase : r.courier.phase = .connecting)
    (hopen : r.courier.inbox.isOpen = true) {reason : String}
    (hnext : r.nextAttempt = .refused reason) :
    r.connect = { r.see (.connect r.courier.settings.url) with
      attempts := r.attempts.tail
      courier := r.courier.refused r.now reason } := by
  simp [connect, Courier.wantsConnection, hphase, hopen, hnext, see]

/-- The rehearsal after an attempt that comes to a connection. -/
lemma connect_of_accepted (hphase : r.courier.phase = .connecting)
    (hopen : r.courier.inbox.isOpen = true) {peer : Peer}
    (hnext : r.nextAttempt = .accepted peer) :
    r.connect = { r.see (.connect r.courier.settings.url) with
      attempts := r.attempts.tail
      courier := r.courier.connected r.now
      connection := {
        frames := peer.frames.map fun (after, frame) => (r.now + after, frame)
        firstDeafPing? := peer.firstDeafPing? } } := by
  simp [connect, Courier.wantsConnection, hphase, hopen, hnext, see]

/-- The courier asks for a connection exactly when the inbox is there.  So whether it asked can be
told from what the other side saw. -/
lemma connect_seen_eq_iff (hphase : r.courier.phase = .connecting) :
    r.connect.seen = r.seen ↔ r.courier.inbox.isOpen = false := by
  cases hinbox : r.courier.inbox.isOpen with
  | false => simp [connect_of_gone hphase hinbox]
  | true =>
    cases hnext : r.nextAttempt with
    | refused reason => simp [connect_of_refused hphase hinbox hnext, see]
    | accepted peer => simp [connect_of_accepted hphase hinbox hnext, see]

lemma isOpen_of_connect_seen (hphase : r.courier.phase = .connecting)
    (hseen : r.connect.seen ≠ r.seen) : r.courier.inbox.isOpen = true :=
  (Bool.not_eq_false _).mp (mt (connect_seen_eq_iff hphase).mpr hseen)

lemma ping_of_gone (hgone : r.courier.inbox.isOpen = false) :
    r.ping = { r with courier := r.courier.stop } := by
  simp [ping, hgone]

/-- The rehearsal after a sign of life. -/
lemma ping_of_open (hopen : r.courier.inbox.isOpen = true) :
    r.ping = { r.see (.ping (r.connection.pings + 1)) with
      courier := r.courier.pinged r.now
        (if r.connection.isDeaf then some (.lost "ping failed") else none)
      connection := { r.connection with pings := r.connection.pings + 1 } } := by
  simp [ping, hopen, see]

/-- The courier gives a sign of life exactly when the inbox is there. -/
lemma ping_seen_eq_iff : r.ping.seen = r.seen ↔ r.courier.inbox.isOpen = false := by
  cases hinbox : r.courier.inbox.isOpen with
  | false => simp [ping_of_gone hinbox]
  | true => simp [ping_of_open hinbox, see]

lemma isOpen_of_ping_seen (hseen : r.ping.seen ≠ r.seen) : r.courier.inbox.isOpen = true :=
  (Bool.not_eq_false _).mp (mt ping_seen_eq_iff.mpr hseen)

/-! ## What a move does to the phase -/

/-- How the phase may change with what happens at `now`, when rests last `rest`.  Only the endings
of attempts and connections lead into a rest. -/
inductive Turns (rest now : Nat) : Phase → Happening → Phase → Prop
  /-- An attempt is refused. -/
  | refuse {reason : String} :
    Turns rest now .connecting (.attempted (.refused reason)) (.resting (now + rest))
  /-- An attempt comes to a connection. -/
  | accept {peer : Peer} {nextPing : Nat} :
    Turns rest now .connecting (.attempted (.accepted peer)) (.reading nextPing)
  /-- A rest is over. -/
  | wake {wakeAt : Nat} (hdue : wakeAt ≤ now) : Turns rest now (.resting wakeAt) .woke .connecting
  /-- The connection ends. -/
  | lose {nextPing : Nat} {happening : Happening} (hattempt : happening.attempt? = none)
    (hend : happening.isEnd = true) :
    Turns rest now (.reading nextPing) happening (.resting (now + rest))
  /-- The connection goes on; the next sign of life may have been put off. -/
  | goOn {nextPing nextPing' : Nat} {happening : Happening} (hattempt : happening.attempt? = none)
    (hend : happening.isEnd = false) :
    Turns rest now (.reading nextPing) happening (.reading nextPing')
  /-- The inbox is touched from outside. -/
  | stay {phase : Phase} {happening : Happening} (hattempt : happening.attempt? = none)
    (hend : happening.isEnd = false) : Turns rest now phase happening phase
  /-- The inbox is gone. -/
  | stop {phase : Phase} {happening : Happening} (hattempt : happening.attempt? = none)
    (hend : happening.isEnd = false) : Turns rest now phase happening .stopped

/-- Every move changes the phase in one of these ways. -/
lemma Move.turns (h : Move r happening r') :
    Turns r.courier.restTime r.now r.courier.phase happening r'.courier.phase := by
  cases h with
  | attempt hphase hseen =>
    -- something was seen, so the inbox is there and the attempt is a real one
    have hopen := isOpen_of_connect_seen hphase hseen
    cases hnext : r.nextAttempt with
    | refused reason =>
      rw [connect_of_refused hphase hopen hnext, hphase]
      exact .refuse
    | accepted peer =>
      rw [connect_of_accepted hphase hopen hnext, hphase]
      exact .accept
  | halt hphase hseen =>
    rw [connect_of_gone hphase ((connect_seen_eq_iff hphase).mp hseen)]
    exact .stop rfl rfl
  | wake hphase hdue =>
    rw [hphase]
    exact .wake hdue
  | @read _ _ frame frames hphase hframes hready =>
    obtain ⟨next, hreads, hread⟩ := exists_reads_read r frame frames
    rw [hread]
    cases hreads with
    | last hlast log =>
      rw [hphase]
      exact .lose rfl hlast
    | put hparse hopen => exact .stay rfl rfl
    | gone hparse hgone => exact .stop rfl rfl
    | malformed hparse log => exact .stay rfl rfl
  | ping hphase hdue hseen =>
    have hopen := isOpen_of_ping_seen hseen
    rw [ping_of_open hopen, hphase]
    cases hdeaf : r.connection.isDeaf with
    | true => exact .lose rfl rfl
    | false => exact .goOn rfl rfl
  | notice hphase hdue hseen =>
    rw [ping_of_gone (ping_seen_eq_iff.mp hseen)]
    exact .stop rfl rfl
  | take hreceive => exact .stay rfl rfl
  | drop hopen => exact .stay rfl rfl

/-! ## What a move does to the books -/

/-- The messages that go into the inbox with what happens. -/
def puts (r : Rehearsal) (happening : Happening) : List Message :=
  if r.courier.inbox.isOpen then happening.frame?.toList.filterMap Frame.message? else []

/-- How the counters and the inbox change with what happens. -/
structure Books (r : Rehearsal) (happening : Happening) (r' : Rehearsal) : Prop where
  /-- No time passes, -/
  now_eq : r'.now = r.now
  /-- the courier keeps its timer -/
  timer_eq : r'.courier.timer = r.courier.timer
  /-- and its settings. -/
  settings_eq : r'.courier.settings = r.courier.settings
  /-- The inbox goes away when it is dropped, and never comes back. -/
  isOpen_eq : r'.courier.inbox.isOpen = (r.courier.inbox.isOpen && !happening.isDrop)
  /-- What leaves the inbox was the first in it, and what is put in comes behind. -/
  messages_eq : happening.handed ++ r'.courier.inbox.pending =
    r.courier.inbox.pending ++ r.puts happening
  /-- Every accepted attempt counts, -/
  connections_eq : r'.courier.report.connections =
    r.courier.report.connections + happening.attempt?.toList.countP Attempt.isAccepted
  /-- every message that is put into the inbox, -/
  delivered_eq : r'.courier.report.delivered =
    r.courier.report.delivered + (r.puts happening).length
  /-- and every text that holds none. -/
  malformed_eq : r'.courier.report.malformed =
    r.courier.report.malformed + happening.frame?.toList.countP Frame.isMalformed

lemma puts_of_frame?_eq_none (hframe : happening.frame? = none) : r.puts happening = [] := by
  simp [puts, hframe]

/-- Nothing goes into or out of the inbox where no frame arrives and nobody touches it. -/
lemma books_of_inbox_eq (hhanded : happening.handed = []) (hframe : happening.frame? = none)
    (hdrop : happening.isDrop = false) (hnow : r'.now = r.now)
    (htimer : r'.courier.timer = r.courier.timer)
    (hsettings : r'.courier.settings = r.courier.settings)
    (hinbox : r'.courier.inbox = r.courier.inbox)
    (hreport : r'.courier.report = { r.courier.report with
      connections := r.courier.report.connections +
        happening.attempt?.toList.countP Attempt.isAccepted }) : Books r happening r' := by
  have hputs := puts_of_frame?_eq_none (r := r) hframe
  exact
    { now_eq := hnow
      timer_eq := htimer
      settings_eq := hsettings
      isOpen_eq := by rw [hinbox, hdrop, Bool.not_false, Bool.and_true]
      messages_eq := by rw [hhanded, hinbox, hputs, List.nil_append, List.append_nil]
      connections_eq := by rw [hreport]
      delivered_eq := by rw [hreport, hputs, List.length_nil, Nat.add_zero]
      malformed_eq := by rw [hreport, hframe]; rfl }

/-- The books after a frame. -/
lemma books_read {frame : Frame} {frames : List (Nat × Frame)} :
    Books r (.received frame) (r.read frame frames) := by
  obtain ⟨courier, hreads, hread⟩ := exists_reads_read r frame frames
  rw [hread]
  cases hreads with
  | last hlast log =>
    -- the last frame is no text, so it neither holds a message nor counts as malformed
    have hframe : frame.message? = none ∧ frame.isMalformed = false := by
      cases frame with
      | text content => cases hlast
      | failed reason => exact ⟨rfl, rfl⟩
      | closed => exact ⟨rfl, rfl⟩
    have hputs : r.puts (.received frame) = [] := by simp [puts, Happening.frame?, hframe.1]
    exact ⟨rfl, rfl, rfl, (Bool.and_true _).symm, by simp [hputs, Happening.handed], rfl,
      by simp [hputs], by simp [Happening.frame?, hframe.2]⟩
  | @put content message hparse hopen =>
    have hputs : r.puts (.received (.text content)) = [message] := by
      simp [puts, hopen, Happening.frame?, Frame.message?, hparse, Except.toOption]
    exact ⟨rfl, rfl, rfl, by simp [hopen, Happening.isDrop], by simp [hputs, Happening.handed], rfl,
      by simp [hputs], by simp [Happening.frame?, Frame.isMalformed, hparse, Except.toOption]⟩
  | @gone content message hparse hgone =>
    have hputs : r.puts (.received (.text content)) = [] := by simp [puts, hgone]
    exact ⟨rfl, rfl, rfl, (Bool.and_true _).symm, by simp [hputs, Happening.handed, Courier.stop],
      rfl, by simp [hputs, Courier.stop],
      by simp [Happening.frame?, Frame.isMalformed, hparse, Except.toOption, Courier.stop]⟩
  | @malformed content e hparse log =>
    have hputs : r.puts (.received (.text content)) = [] := by
      simp [puts, Happening.frame?, Frame.message?, hparse, Except.toOption]
    exact ⟨rfl, rfl, rfl, (Bool.and_true _).symm, by simp [hputs, Happening.handed], rfl,
      by simp [hputs], by simp [Happening.frame?, Frame.isMalformed, hparse, Except.toOption]⟩

/-- The books after a sign of life: a failed one ends the connection and changes no counter. -/
lemma books_ping (hopen : r.courier.inbox.isOpen = true) :
    Books r (.pinged r.connection.isDeaf) r.ping := by
  rw [ping_of_open hopen]
  cases r.connection.isDeaf with
  | true => exact books_of_inbox_eq rfl rfl rfl rfl rfl rfl rfl rfl
  | false => exact books_of_inbox_eq rfl rfl rfl rfl rfl rfl rfl rfl

/-- What every move does to the books. -/
lemma Move.books (h : Move r happening r') : Books r happening r' := by
  cases h with
  | attempt hphase hseen =>
    have hopen := isOpen_of_connect_seen hphase hseen
    cases hnext : r.nextAttempt with
    | refused reason =>
      rw [connect_of_refused hphase hopen hnext]
      exact books_of_inbox_eq rfl rfl rfl rfl rfl rfl rfl rfl
    | accepted peer =>
      rw [connect_of_accepted hphase hopen hnext]
      exact books_of_inbox_eq rfl rfl rfl rfl rfl rfl rfl rfl
  | halt hphase hseen =>
    rw [connect_of_gone hphase ((connect_seen_eq_iff hphase).mp hseen)]
    exact books_of_inbox_eq rfl rfl rfl rfl rfl rfl rfl rfl
  | wake hphase hdue => exact books_of_inbox_eq rfl rfl rfl rfl rfl rfl rfl rfl
  | read hphase hframes hready => exact books_read
  | ping hphase hdue hseen =>
    exact books_ping (isOpen_of_ping_seen hseen)
  | notice hphase hdue hseen =>
    rw [ping_of_gone (ping_seen_eq_iff.mp hseen)]
    exact books_of_inbox_eq rfl rfl rfl rfl rfl rfl rfl rfl
  | @take message inbox hreceive =>
    have hpending : r.courier.inbox.pending = message :: inbox.pending ∧
        inbox.isOpen = r.courier.inbox.isOpen := by
      unfold EventQueue.receive at hreceive
      split at hreceive
      next => cases hreceive
      next hpending =>
        cases hreceive
        exact ⟨hpending, rfl⟩
    have hputs : r.puts (.took message) = [] := puts_of_frame?_eq_none rfl
    exact ⟨rfl, rfl, rfl, by simp [hpending.2, Happening.isDrop],
      by simp [hputs, hpending.1, Happening.handed], rfl, by simp [hputs], rfl⟩
  | drop hopen =>
    have hputs : r.puts (.dropped r.drop.taken) = [] := puts_of_frame?_eq_none rfl
    refine ⟨rfl, rfl, rfl, (Bool.and_false _).symm, ?_, rfl, ?_, rfl⟩
    · rw [hputs]
      rfl
    · rw [hputs]
      rfl

/-! ## What a move does to the script -/

/-- How what is still scripted changes with what happens. -/
structure Follows (r : Rehearsal) (happening : Happening) (r' : Rehearsal) : Prop where
  /-- An attempt is the next one of the script, or a refusal if the script is over. -/
  attempts : happening.attempt?.toList ++ r'.attempts = r.attempts ∨
    r.attempts = [] ∧ r'.attempts = [] ∧ happening.attempt? = some (.refused exhausted)
  /-- On a new connection all frames of the other side are to come. -/
  accepted : ∀ peer, happening.attempt? = some (.accepted peer) →
    r'.connection.frames.map Prod.snd = peer.frames.map Prod.snd
  /-- A frame that arrives is the next one of the connection. -/
  frames : happening.attempt? = none →
    happening.frame?.toList ++ r'.connection.frames.map Prod.snd = r.connection.frames.map Prod.snd

/-- Whether or not it comes to a connection, an attempt is the next one of the script. -/
lemma attempt_tail (r : Rehearsal) :
    [r.nextAttempt] ++ r.attempts.tail = r.attempts ∨
      r.attempts = [] ∧ r.attempts.tail = [] ∧ some r.nextAttempt = some (.refused exhausted) := by
  cases hattempts : r.attempts with
  | nil => exact .inr ⟨rfl, rfl, by simp [nextAttempt, hattempts]⟩
  | cons attempt attempts => exact .inl (by simp [nextAttempt, hattempts])

/-- Every move keeps to the script. -/
lemma Move.follows (h : Move r happening r') : Follows r happening r' := by
  cases h with
  | attempt hphase hseen =>
    have hopen := isOpen_of_connect_seen hphase hseen
    have htail := r.attempt_tail
    cases hnext : r.nextAttempt with
    | refused reason =>
      rw [hnext] at htail
      rw [connect_of_refused hphase hopen hnext]
      exact ⟨htail, nofun, nofun⟩
    | accepted peer =>
      rw [hnext] at htail
      rw [connect_of_accepted hphase hopen hnext]
      refine ⟨htail, fun peer' hpeer => ?_, nofun⟩
      cases hpeer
      simp
  | halt hphase hseen =>
    rw [connect_of_gone hphase ((connect_seen_eq_iff hphase).mp hseen)]
    exact ⟨.inl rfl, nofun, fun _ => rfl⟩
  | wake hphase hdue => exact ⟨.inl rfl, nofun, fun _ => rfl⟩
  | read hphase hframes hready =>
    refine ⟨.inl rfl, nofun, fun _ => ?_⟩
    rw [hframes]
    rfl
  | ping hphase hdue hseen =>
    rw [ping_of_open (isOpen_of_ping_seen hseen)]
    exact ⟨.inl rfl, nofun, fun _ => rfl⟩
  | notice hphase hdue hseen =>
    rw [ping_of_gone (ping_seen_eq_iff.mp hseen)]
    exact ⟨.inl rfl, nofun, fun _ => rfl⟩
  | take hreceive => exact ⟨.inl rfl, nofun, fun _ => rfl⟩
  | drop hopen => exact ⟨.inl rfl, nofun, fun _ => rfl⟩

/-- The courier asks for connections only while the inbox is there. -/
lemma Move.isOpen_of_attempt (h : Move r happening r') (hattempt : happening.attempt? ≠ none) :
    r.courier.inbox.isOpen = true := by
  cases h with
  | attempt hphase hseen => exact isOpen_of_connect_seen hphase hseen
  | _ => exact absurd rfl hattempt

/-! ## Rehearsals are journeys -/

lemma exists_move_connect (hphase : r.courier.phase = .connecting) :
    ∃ happening, Move r happening r.connect := by
  by_cases hseen : r.connect.seen = r.seen
  · exact ⟨_, .halt hphase hseen⟩
  · exact ⟨_, .attempt hphase hseen⟩

lemma exists_move_ping {nextPing : Nat} (hphase : r.courier.phase = .reading nextPing)
    (hdue : nextPing ≤ r.now) : ∃ happening, Move r happening r.ping := by
  by_cases hseen : r.ping.seen = r.seen
  · exact ⟨_, .notice hphase hdue hseen⟩
  · exact ⟨_, .ping hphase hdue hseen⟩

/-- What the courier does next is a move, at its time and later.  A rehearsal is a journey because
of this and of `mayPass_of_next?_eq`. -/
lemma exists_move_of_next?_eq {due now : Nat} {action : Rehearsal → Rehearsal}
    (hnext : r.next? = some (due, action)) (hnow : due ≤ now) :
    ∃ happening, Move { r with now } happening (action { r with now }) := by
  unfold next? at hnext
  split at hnext
  next => cases hnext
  next hphase =>
    cases hnext
    exact exists_move_connect (r := { r with now }) hphase
  next wakeAt hphase =>
    cases hnext
    exact ⟨_, .wake (r := { r with now }) hphase hnow⟩
  next nextPing hphase =>
    split at hnext
    next ready frame frames hframes =>
      split at hnext
      next =>
        cases hnext
        exact ⟨_, .read (r := { r with now }) hphase hframes hnow⟩
      next =>
        cases hnext
        exact exists_move_ping (r := { r with now }) hphase hnow
    next =>
      cases hnext
      exact exists_move_ping (r := { r with now }) hphase hnow

/-- During a rest the clock may go on to its end. -/
lemma mayPass_of_resting {wakeAt time : Nat} (hphase : r.courier.phase = .resting wakeAt)
    (htime : r.now + time ≤ wakeAt) : r.MayPass time := by
  unfold MayPass
  rw [hphase]
  exact htime

/-- Until something is due the clock may go on; rests are the only obstacle, and they end when it is
due. -/
lemma mayPass_of_next?_eq {due time : Nat} {action : Rehearsal → Rehearsal}
    (hnext : r.next? = some (due, action)) (htime : r.now + time ≤ max r.now due)
    (hrest : ∀ wakeAt, r.courier.phase = .resting wakeAt → r.now ≤ wakeAt) : r.MayPass time := by
  cases hphase : r.courier.phase with
  | connecting =>
    have hdue : r.now = due := by simpa [next?, hphase] using congrArg (·.map Prod.fst) hnext
    rw [MayPass, hphase]
    show time = 0
    omega
  | resting wakeAt =>
    have hdue : wakeAt = due := by simpa [next?, hphase] using congrArg (·.map Prod.fst) hnext
    have hle := hrest wakeAt hphase
    exact mayPass_of_resting hphase (by omega)
  | reading nextPing =>
    rw [MayPass, hphase]
    trivial
  | stopped =>
    rw [MayPass, hphase]
    trivial

/-- A rest is never over unnoticed. -/
lemma Journey.now_le_wakeAt (h : Journey timer settings attempts log r) :
    ∀ wakeAt, r.courier.phase = .resting wakeAt → r.now ≤ wakeAt := by
  -- on the journey: a rest begins before its end, other moves leave no rest behind, and the clock
  -- may not pass the end
  induction h with
  | start => nofun
  | @move log r r' happening _ h ih =>
    rw [h.books.now_eq]
    intro wakeAt hphase
    have hturns := h.turns
    rw [hphase] at hturns
    generalize hbefore : r.courier.phase = phase at hturns
    cases hturns with
    | refuse => exact Nat.le_add_right _ _
    | lose => exact Nat.le_add_right _ _
    | stay => exact ih wakeAt hbefore
  | @pass log r time _ h _ =>
    intro wakeAt hphase
    have hphase : r.courier.phase = .resting wakeAt := hphase
    simpa [MayPass, hphase] using h

/-- Only when the inbox goes away no moment is set for it any more. -/
lemma Move.dropAt?_ne_none (h : Move r happening r') (hdrop : r'.dropAt? ≠ none) :
    r.dropAt? ≠ none ∧ happening.isDrop = false := by
  -- only the move `drop` touches the moment that is set, and it clears it
  cases h with
  | attempt hphase hseen =>
    have hopen := isOpen_of_connect_seen hphase hseen
    cases hnext : r.nextAttempt with
    | refused reason =>
      rw [connect_of_refused hphase hopen hnext] at hdrop
      exact ⟨hdrop, rfl⟩
    | accepted peer =>
      rw [connect_of_accepted hphase hopen hnext] at hdrop
      exact ⟨hdrop, rfl⟩
  | halt hphase hseen =>
    rw [connect_of_gone hphase ((connect_seen_eq_iff hphase).mp hseen)] at hdrop
    exact ⟨hdrop, rfl⟩
  | ping hphase hdue hseen =>
    rw [ping_of_open (isOpen_of_ping_seen hseen)] at hdrop
    exact ⟨hdrop, rfl⟩
  | notice hphase hdue hseen =>
    rw [ping_of_gone (ping_seen_eq_iff.mp hseen)] at hdrop
    exact ⟨hdrop, rfl⟩
  | drop hopen => exact absurd rfl hdrop
  | _ => exact ⟨hdrop, rfl⟩

/-- As long as a moment is set for it, the inbox has not gone away. -/
lemma Journey.isOpen_of_dropAt? (h : Journey timer settings attempts log r)
    (hdrop : r.dropAt? ≠ none) : r.courier.inbox.isOpen = true := by
  induction h with
  | start => rfl
  | move _ h ih =>
    obtain ⟨hbefore, hkeep⟩ := h.dropAt?_ne_none hdrop
    rw [h.books.isOpen_eq, ih hbefore, hkeep]
    rfl
  | pass _ _ ih => exact ih hdrop

/-- A step of a rehearsal lets the clock go on and makes one move, and so continues a journey. -/
lemma Journey.exists_step (h : Journey timer settings attempts log r)
    (hstep : r.step? = some r') : ∃ log', Journey timer settings attempts log' r' := by
  obtain ⟨⟨due, action⟩, hnext, haction⟩ := Option.map_eq_some_iff.mp hstep
  -- the clock first goes on to the moment at which something is due, which a rest allows
  have hclock : ∀ time ≤ max r.now due,
      Journey timer settings attempts log { r with now := max r.now time } := by
    intro time htime
    have hpass : Journey timer settings attempts log
        { r with now := r.now + (max r.now time - r.now) } := by
      refine h.pass (mayPass_of_next?_eq hnext ?_ h.now_le_wakeAt)
      omega
    have hnow : r.now + (max r.now time - r.now) = max r.now time := by omega
    rwa [hnow] at hpass
  have hdue :
      ∃ log', Journey timer settings attempts log' (action { r with now := max r.now due }) := by
    obtain ⟨happening, hmove⟩ := exists_move_of_next?_eq hnext (Nat.le_max_right r.now due)
    exact ⟨_, (hclock due (Nat.le_max_right _ _)).move hmove⟩
  dsimp only at haction
  split at haction
  next dropAt hdrop =>
    have hopen := h.isOpen_of_dropAt? (by simp [hdrop])
    split at haction
    next hle =>
      subst haction
      exact ⟨_, (hclock dropAt (by omega)).move (.drop hopen)⟩
    next => exact haction ▸ hdue
  next => exact haction ▸ hdue

/-- Every rehearsal is a journey, whatever its script and its timer are. -/
theorem exists_journey_run (timer : Timer) (settings : Settings) (attempts : List Attempt)
    (dropAt : Nat) :
    ∃ log, Journey timer settings attempts log (run settings attempts dropAt timer) := by
  have hsteps : ∀ (n : Nat) (r : Rehearsal) (log : List (Nat × Happening)),
      Journey timer settings attempts log r →
        ∃ log', Journey timer settings attempts log' (steps n r) := by
    intro n
    -- on the number of steps that are left, for every journey so far
    induction n with
    | zero => exact fun r log h => ⟨log, h⟩
    | succ n ih =>
      intro r log h
      unfold steps
      split
      next => exact ⟨log, h⟩
      next r' hstep =>
        obtain ⟨log', h'⟩ := h.exists_step hstep
        exact ih r' log' h'
  exact hsteps _ _ [] (.start (some dropAt))

end Rehearsal

end SceneEngine.LiveLink
