import SceneEngine.Proofs.Engine.Acts
import SceneEngine.Proofs.Store.Delivery

/-!
# Runs of a system

A system does the work of one frame on the members of a query.  A run calls `tick`, drains the
consumer, and then calls the hooks that the drained delta asks for and the hook for every member.
Hooks are arbitrary: they write to the store, make queries, and fail.  This module shows that
whatever they do, everything in the delta is delivered once, and nothing that they write is lost.

## Hooks

What is assumed of a hook is only that it works on the store by store commands (`Act.Operates`), of
which there may be any number, also refused ones; and for the last part, that none of these drains
or resets the consumer of the system.  `System.Calls` says what calling hooks one after another
means: each works on the scene that the one before has left, whether that one failed or not.

## The course of a run

`Course` collects the points that a run comes through, and `Course.Follows` says how they hang
together: `tick`, the drain, the calls for the delta, and the calls for the members that the query
has by then.  It fixes which hooks are called, with which arguments and in which order.
`System.exists_calls` is the induction over a list of calls, and `System.exists_course` puts the
parts of a run together.

An entity that is both new and updated asks for the hook that the two share only once.  This comes
from what a drain hands out, in which no entity stands twice under one heading
(`Store.length_filter_renews`).

The main result is `System.run_delivers`: a run takes such a course, gives the number of calls that
failed, and what the consumer has to hand out in the end sums up what the hooks have written since
the drain, in the sense of `Proofs/Store/Delivery`.
-/

namespace SceneEngine

variable {σ α : Type}

/-- What an act does to the store is done by store commands of an allowed kind.  Which ones may
depend on the scene it is called on. -/
def Act.Operates (act : Act σ α) (allowed : StoreCommand → Prop) : Prop :=
  ∀ scene, ∃ commands, (∀ command ∈ commands, allowed command) ∧
    (act.after scene).store = scene.store.run commands

lemma Act.operates_of_same {act : Act σ α} {allowed : StoreCommand → Prop}
    (h : ∀ scene, (act.after scene).store = scene.store) : act.Operates allowed :=
  fun scene => ⟨[], fun _ hmem => absurd hmem List.not_mem_nil, h scene⟩

lemma Act.Operates.bind {β : Type} {act : Act σ α} {f : α → Act σ β}
    {allowed : StoreCommand → Prop} (hact : act.Operates allowed)
    (hf : ∀ a, (f a).Operates allowed) : Act.Operates (act >>= f) allowed := by
  intro scene
  obtain ⟨commands, hallowed, hstore⟩ := hact scene
  obtain ⟨commands', hallowed', hstore'⟩ := hf (act.run scene).1 (act.after scene)
  refine ⟨commands ++ commands', List.forall_mem_append.mpr ⟨hallowed, hallowed'⟩, ?_⟩
  rw [after_bind, hstore', hstore, Store.run_append]

/-- A hook that was called. -/
structure HookCall where
  /-- Which hook it was, and for what. -/
  call : Invocation
  /-- Whether it failed. -/
  outcome : Outcome
  /-- What the hook did to the store. -/
  writes : List StoreCommand

/-- The failure of a hook that was called. -/
def HookCall.failure? (hookCall : HookCall) : Option (Invocation × Failure) :=
  match hookCall.outcome with
  | .ok () => none
  | .error failure => some (hookCall.call, failure)

/-- Whether a call is one that new and updated entities share, and is for a given entity. -/
def Invocation.renews (id : EntityId) : Invocation → Bool
  | .newOrUpdated entity _ => decide (entity.id = id)
  | _ => false

namespace System

variable (system : System σ) (time : Float)

/-- Whether a system has a hook for a call. -/
def handles (call : Invocation) : Bool := (system.hook? time call).isSome

/-- Hooks are called one after another.  Each works on the scene that the one before has left. -/
inductive Calls : Scene σ → List HookCall → Scene σ → Prop
  /-- No more hooks are called. -/
  | nil (scene : Scene σ) : Calls scene [] scene
  /-- A hook is called, and the others after it on what it leaves. -/
  | cons {scene next last : Scene σ} {hook : Act σ Outcome} {first : HookCall}
    {rest : List HookCall} (hhook : system.hook? time first.call = some hook)
    (hrun : hook.run scene = (first.outcome, next))
    (hwrites : next.store = scene.store.run first.writes) (hrest : Calls next rest last) :
    Calls scene (first :: rest) last

/-- The hook that comes before the drain is called once, if there is one. -/
inductive Ticks (scene : Scene σ) : Nat → Scene σ → Prop
  /-- There is no such hook. -/
  | absent (htick : system.tick? = none) : Ticks scene 0 scene
  /-- It succeeds. -/
  | succeeds {hook : Float → Act σ Outcome} {next : Scene σ} (htick : system.tick? = some hook)
    (hrun : (hook time).run scene = (.ok (), next)) : Ticks scene 0 next
  /-- It fails, which is logged, and the run goes on. -/
  | fails {hook : Float → Act σ Outcome} {next : Scene σ} {failure : Failure}
    (htick : system.tick? = some hook) (hrun : (hook time).run scene = (.error failure, next)) :
    Ticks scene 1
      { next with
        log := next.log ++
          [.error s!"System '{system.name}': tick hook failed: {failure.message}"] }

variable {system time} {scene last : Scene σ} {hookCalls hookCalls' : List HookCall}
  {allowed : StoreCommand → Prop}

/-! ## Calls -/

lemma Calls.append {middle : Scene σ} (h : system.Calls time scene hookCalls middle)
    (h' : system.Calls time middle hookCalls' last) :
    system.Calls time scene (hookCalls ++ hookCalls') last := by
  induction h with
  | nil => exact h'
  | cons hhook hrun hwrites _ ih => exact .cons hhook hrun hwrites (ih h')

/-- What hooks do to the store is what they write, one after another. -/
lemma Calls.store_eq (h : system.Calls time scene hookCalls last) :
    last.store = scene.store.run (hookCalls.flatMap HookCall.writes) := by
  induction h with
  | nil => rfl
  | cons _ _ hwrites _ ih => rw [ih, hwrites, List.flatMap_cons, Store.run_append]

/-- Making calls one after another calls every hook that there is, once, and no failure keeps the
next one from being called.  Calls without a hook do nothing and are left out. -/
lemma exists_calls
    (hhooks : ∀ call hook, system.hook? time call = some hook → hook.Operates allowed)
    (calls : List Invocation) (scene : Scene σ) :
    ∃ hookCalls, system.Calls time scene hookCalls ((system.invokeAll time calls).after scene) ∧
      hookCalls.map HookCall.call = calls.filter (system.handles time) ∧
      ((system.invokeAll time calls).run scene).1 = hookCalls.filterMap HookCall.failure? ∧
      ∀ hookCall ∈ hookCalls, ∀ command ∈ hookCall.writes, allowed command := by
  induction calls generalizing scene with
  | nil => exact ⟨[], .nil scene, rfl, rfl, fun _ h => absurd h List.not_mem_nil⟩
  | cons call calls ih =>
    cases hhook : system.hook? time call with
    | none =>
      -- without a hook the scene stays as it is
      have hinvoke : system.invoke time call = pure (.ok ()) := by
        rw [invoke, hhook]
      have hrun : (system.invokeAll time (call :: calls)).run scene =
          (system.invokeAll time calls).run scene := by
        rw [invokeAll, hinvoke]
        rfl
      have hhandles : ¬system.handles time call = true := by
        rw [handles, hhook]
        exact Bool.false_ne_true
      rw [Act.after, hrun, List.filter_cons_of_neg hhandles]
      exact ih scene
    | some hook =>
      obtain ⟨writes, hallowed, hwrites⟩ := hhooks call hook hhook scene
      obtain ⟨rest, hrest, hcalls, hfailed, hrestAllowed⟩ := ih (hook.after scene)
      have hinvoke : system.invoke time call = hook := by rw [invoke, hhook]
      have hrun : (system.invokeAll time (call :: calls)).run scene =
          (((⟨call, (hook.run scene).1, writes⟩ : HookCall).failure?.toList ++
            ((system.invokeAll time calls).run (hook.after scene)).1),
            (system.invokeAll time calls).after (hook.after scene)) := by
        rw [invokeAll, hinvoke, Act.run_bind, HookCall.failure?]
        dsimp only
        cases (hook.run scene).1 <;> rfl
      have hhandles : system.handles time call = true := by
        rw [handles, hhook]
        rfl
      refine ⟨⟨call, (hook.run scene).1, writes⟩ :: rest, ?_, ?_, ?_, ?_⟩
      · rw [Act.after, hrun]
        exact .cons hhook rfl hwrites hrest
      · rw [List.map_cons, hcalls, List.filter_cons_of_pos hhandles]
      · rw [hrun, hfailed, List.filterMap_cons]
        cases HookCall.failure? _ <;> rfl
      · rw [List.forall_mem_cons]
        exact ⟨hallowed, hrestAllowed⟩

/-! ## The parts of a run -/

lemma ticks_runTick (system : System σ) (time : Float) (scene : Scene σ) :
    system.Ticks time scene ((system.runTick time).run scene).1
      ((system.runTick time).after scene) := by
  cases htick : system.tick? with
  | none =>
    have hrun : system.runTick time = pure 0 := by rw [runTick, htick]
    rw [hrun]
    exact .absent htick
  | some hook =>
    rw [Act.after, runTick, htick]
    dsimp only
    rw [Act.run_bind]
    cases houtcome : ((hook time).run scene).1 with
    | ok => exact .succeeds htick (Prod.ext houtcome rfl)
    | error failure => exact .fails htick (Prod.ext houtcome rfl)

/-- What a run does once the consumer has been drained. -/
lemma run_of_drain {consumer : ConsumerId} {delta : Delta} {store : Store}
    (hconsumer : system.consumer? = some consumer)
    (hdrain : ((system.runTick time).after scene).store.drain consumer = .ok (delta, store)) :
    let agenda := system.invokeAll time delta.agenda
    let start := { (system.runTick time).after scene with store }
    let each := system.invokeAll time (system.eachCalls consumer (agenda.after start).store)
    let failed := (agenda.run start).1 ++ (each.run (agenda.after start)).1
    (system.run time).run scene =
      (((system.runTick time).run scene).1 + failed.length,
        { each.after (agenda.after start) with
          log := (each.after (agenda.after start)).log ++ failed.map system.failureEntry }) := by
  rw [run, hconsumer, Act.run_bind]
  dsimp only
  rw [Act.run_bind, Act.run_store, Act.after_store, hdrain]
  rfl

/-! ## Calls that new and updated entities share -/

lemma handles_of_renews (h : system.newOrUpdated?.isSome = true) {id : EntityId} {call : Invocation}
    (hcall : call.renews id = true) : system.handles time call = true := by
  cases call with
  | newOrUpdated => rwa [handles, hook?, Option.isSome_map]
  | removed | forNew | forUpdated | each => cases hcall

/-- All of these calls are made, if there is a hook for them. -/
lemma filter_renews_handles (h : system.newOrUpdated?.isSome = true) (id : EntityId)
    (calls : List Invocation) :
    (calls.filter (system.handles time)).filter (·.renews id) = calls.filter (·.renews id) := by
  rw [List.filter_filter]
  refine List.filter_congr fun call _ => ?_
  cases hcall : call.renews id with
  | true => rw [handles_of_renews h hcall]; rfl
  | false => rfl

/-- The calls for members are none of them. -/
lemma filter_renews_each (id : EntityId) (members : List Entity) :
    (members.map Invocation.each).filter (·.renews id) = [] := by
  rw [List.filter_eq_nil_iff]
  intro call hcall
  obtain ⟨entity, -, rfl⟩ := List.mem_map.mp hcall
  exact Bool.false_ne_true

/-- The calls of a run that new and updated entities share are those for the delta. -/
lemma filter_renews_calls (h : system.newOrUpdated?.isSome = true) {agenda : List Invocation}
    {members : List Entity} {deltaCalls eachCalls : List HookCall}
    (hdelta : deltaCalls.map HookCall.call = agenda.filter (system.handles time))
    (heach : eachCalls.map HookCall.call =
      (members.map Invocation.each).filter (system.handles time)) (id : EntityId) :
    ((deltaCalls ++ eachCalls).map HookCall.call).filter (·.renews id) =
      agenda.filter (·.renews id) := by
  rw [List.map_append, List.filter_append, hdelta, heach, filter_renews_handles h,
    filter_renews_handles h, filter_renews_each, List.append_nil]

lemma length_filter_renews_new (id : EntityId) (new : List Entity) :
    ((new.flatMap fun e => [Invocation.forNew e, .newOrUpdated e none]).filter
      (·.renews id)).length = (new.filter fun e => decide (e.id = id)).length := by
  induction new with
  | nil => rfl
  | cons e new ih =>
    rw [List.flatMap_cons, List.filter_append, List.length_append, ih, List.filter_cons]
    by_cases he : e.id = id <;> simp [Invocation.renews, he, Nat.add_comm]

lemma length_filter_renews_updated (id : EntityId) (isNew : EntityId → Prop) [DecidablePred isNew]
    (updated : List Updated) :
    ((updated.flatMap fun u =>
      if isNew u.entity.id then [Invocation.forUpdated u]
      else [.forUpdated u, .newOrUpdated u.entity (some u.changed)]).filter
        (·.renews id)).length =
      if isNew id then 0 else (updated.filter fun u => decide (u.entity.id = id)).length := by
  induction updated with
  | nil => simp
  | cons u updated ih =>
    rw [List.flatMap_cons, List.filter_append, List.length_append, ih, List.filter_cons]
    by_cases hu : u.entity.id = id
    · subst hu
      by_cases hnew : isNew u.entity.id <;> simp [Invocation.renews, hnew, Nat.add_comm]
    · by_cases hnew : isNew u.entity.id <;> simp [Invocation.renews, hnew, hu]

end System

/-- The calls that a delta asks for, in their order: for what left, for what is new, and for what
changed, which is renewed unless it is new as well. -/
def Delta.asked (delta : Delta) : List Invocation :=
  delta.removed.map .removed ++
    (delta.new.flatMap fun e => [.forNew e, .newOrUpdated e none]) ++
    delta.updated.flatMap fun u =>
      if u.entity.id ∈ delta.new.map Entity.id then [.forUpdated u]
      else [.forUpdated u, .newOrUpdated u.entity (some u.changed)]

lemma Delta.agenda_eq_asked (delta : Delta) : delta.agenda = delta.asked := by
  have hnew : ∀ u : Updated, (delta.new.any (·.id == u.entity.id) = true) ↔
      u.entity.id ∈ delta.new.map Entity.id := by
    intro u
    simp [List.any_eq_true, List.mem_map]
  rw [agenda, asked]
  simp only [hnew]

namespace Store

variable {schema : Schema} {store next : Store} {consumer : ConsumerId} {delta : Delta}
  {live : LiveQuery}

/-- A drain asks for one call that new and updated entities share, for each of them. -/
lemma length_filter_renews (hs : store.Accountable schema)
    (h : store.drain consumer = .ok (delta, next)) (id : EntityId) :
    (delta.asked.filter (·.renews id)).length =
      if id ∈ delta.new.map Entity.id ∨ id ∈ delta.updated.map (·.entity.id) then 1 else 0 := by
  obtain ⟨-, hnew, hupdated⟩ := filter_drain hs h id
  have hnewOnce : (delta.new.filter fun e => decide (e.id = id)).length ≤ 1 := by
    rw [hnew]
    split
    · cases store.get? id <;> simp
    · exact Nat.zero_le 1
  have hupdatedOnce : (delta.updated.filter fun u => decide (u.entity.id = id)).length ≤ 1 := by
    rw [hupdated]
    split
    · exact Nat.zero_le 1
    · cases store.get? id <;> simp
  have hnone : (delta.removed.map Invocation.removed).filter (·.renews id) = [] := by
    rw [List.filter_eq_nil_iff]
    intro call hcall
    obtain ⟨entity, -, rfl⟩ := List.mem_map.mp hcall
    exact Bool.false_ne_true
  have hmemNew : id ∈ delta.new.map Entity.id ↔
      0 < (delta.new.filter fun e => decide (e.id = id)).length := by
    simp [List.length_filter_pos_iff]
  have hmemUpdated : id ∈ delta.updated.map (·.entity.id) ↔
      0 < (delta.updated.filter fun u => decide (u.entity.id = id)).length := by
    simp [List.length_filter_pos_iff]
  rw [Delta.asked, List.filter_append, List.filter_append, hnone, List.nil_append,
    List.length_append, System.length_filter_renews_new,
    System.length_filter_renews_updated id (· ∈ delta.new.map Entity.id)]
  -- what is new is renewed as such, and what is only updated as updated
  by_cases hisNew : id ∈ delta.new.map Entity.id
  · have hpositive := hmemNew.mp hisNew
    rw [if_pos hisNew, if_pos (.inl hisNew)]
    omega
  · have hnotNew := mt hmemNew.mpr hisNew
    rw [if_neg hisNew]
    by_cases hisUpdated : id ∈ delta.updated.map (·.entity.id)
    · have hpositive := hmemUpdated.mp hisUpdated
      rw [if_pos (.inr hisUpdated)]
      omega
    · have hnotUpdated := mt hmemUpdated.mpr hisUpdated
      rw [if_neg (not_or.mpr ⟨hisNew, hisUpdated⟩)]
      omega

/-- A consumer that has been made can be drained. -/
lemma exists_drain (hs : store.Accountable schema)
    (hissued : consumer.index < store.consumers.length) :
    ∃ delta, store.drain consumer = .ok (delta, store.perform (.drain consumer)) := by
  obtain ⟨live, -, hserves⟩ := hs.serves (List.getElem?_eq_getElem hissued)
  rw [perform, hserves.drain_eq]
  exact ⟨_, rfl⟩

/-- A consumer that has been made stays. -/
lemma issued_run (hs : store.Accountable schema)
    (hissued : consumer.index < store.consumers.length) (commands : List StoreCommand) :
    (store.run commands).Accountable schema ∧
      consumer.index < (store.run commands).consumers.length := by
  have hstep : ∀ (store : Store) (command : StoreCommand),
      store.Accountable schema ∧ consumer.index < store.consumers.length →
      (store.perform command).Accountable schema ∧
        consumer.index < (store.perform command).consumers.length :=
    fun store command h => ⟨accountable_perform store command h.1,
      Nat.lt_of_lt_of_le h.2 (length_consumers_le h.1.current.2 command)⟩
  exact run_preserves hstep ⟨hs, hissued⟩ commands

/-- The members of a live query are the registered entities that it accepts, each once. -/
lemma members_of_upToDate (hs : store.current.WellFormed) (hlive : live.UpToDate store.current) :
    (store.members live).Nodup ∧ ∀ entity, entity ∈ store.members live ↔
      store.get? entity.id = some entity ∧ live.query.accepts entity = true := by
  have hid : ∀ id entity, store.get? id = some entity → entity.id = id := fun _ _ => hs.id_eq
  constructor
  · refine live.members.nodup.filterMap fun id id' entity hentity hentity' => ?_
    rw [← hid id entity hentity, ← hid id' entity hentity']
  · intro entity
    rw [members, List.mem_filterMap]
    constructor
    · rintro ⟨id, hmem, hentity⟩
      obtain rfl := hid id entity hentity
      obtain ⟨entity', hentity', haccepts⟩ := Query.selects_iff.mp ((hlive entity.id).mp hmem)
      obtain rfl := Option.some.inj (hentity.symm.trans hentity')
      exact ⟨hentity, haccepts⟩
    · rintro ⟨hentity, haccepts⟩
      exact ⟨entity.id, (hlive entity.id).mpr (Query.selects_iff.mpr ⟨entity, hentity, haccepts⟩),
        hentity⟩

end Store

/-! ## The course of a run -/

/-- What happens in a run of a system.  Nothing is required of it here; see `Course.Follows`. -/
structure Course (σ : Type) where
  /-- How often `tick` failed. -/
  tickFailures : Nat
  /-- The scene that `tick` leaves. -/
  ticked : Scene σ
  /-- What the consumer hands out then. -/
  delta : Delta
  /-- The store after the drain. -/
  drained : Store
  /-- The hooks that are called for the delta. -/
  deltaCalls : List HookCall
  /-- The scene that these leave. -/
  middle : Scene σ
  /-- The query of the consumer at that point. -/
  live : LiveQuery
  /-- The hooks that are called for the members. -/
  eachCalls : List HookCall
  /-- The scene that these leave. -/
  last : Scene σ

namespace Course

/-- The hooks that are called after the drain. -/
def calls (course : Course σ) : List HookCall := course.deltaCalls ++ course.eachCalls

/-- What the hooks do to the store after the drain. -/
def writes (course : Course σ) : List StoreCommand := course.calls.flatMap HookCall.writes

/-- The calls that failed, with the reasons. -/
def failed (course : Course σ) : List (Invocation × Failure) :=
  course.calls.filterMap HookCall.failure?

/-- The course that a run takes. -/
structure Follows (course : Course σ) (system : System σ) (time : Float) (consumer : ConsumerId)
    (scene : Scene σ) : Prop where
  /-- First comes `tick`. -/
  tick : system.Ticks time scene course.tickFailures course.ticked
  /-- Then the consumer is drained. -/
  drain : course.ticked.store.drain consumer = .ok (course.delta, course.drained)
  /-- Then the hooks are called that the delta asks for, as far as there are such hooks. -/
  deltaCalls : system.Calls time { course.ticked with store := course.drained }
    course.deltaCalls course.middle
  /-- These are called in the order of the delta. -/
  deltaCalls_eq : course.deltaCalls.map HookCall.call =
    course.delta.asked.filter (system.handles time)
  /-- In the end a hook is called for every member, if there is one. -/
  eachCalls : system.Calls time course.middle course.eachCalls course.last
  /-- The query is looked up once these are through, -/
  live_eq : course.middle.store.queryOf consumer = .ok course.live
  /-- and its members are those it has then. -/
  eachCalls_eq : course.eachCalls.map HookCall.call =
    ((course.middle.store.members course.live).map Invocation.each).filter (system.handles time)
  /-- These are the entities that the query accepts by then, each once. -/
  members_nodup : (course.middle.store.members course.live).Nodup
  mem_members : ∀ entity, entity ∈ course.middle.store.members course.live ↔
    course.middle.store.get? entity.id = some entity ∧ course.live.query.accepts entity = true
  /-- The hook that new and updated entities share is called once for each of them. -/
  renews_once : system.newOrUpdated?.isSome = true → ∀ id,
    ((course.calls.map HookCall.call).filter (·.renews id)).length =
      if id ∈ course.delta.new.map Entity.id ∨
        id ∈ course.delta.updated.map (·.entity.id) then 1 else 0

end Course

namespace System

variable {system : System σ} {time : Float} {scene : Scene σ} {allowed : StoreCommand → Prop}

/-- What `tick` does to the store is done by store commands. -/
lemma exists_run_runTick
    (htick : ∀ hook, system.tick? = some hook → (hook time).Operates fun _ => True)
    (scene : Scene σ) :
    ∃ commands, ((system.runTick time).after scene).store = scene.store.run commands := by
  have hticks := ticks_runTick system time scene
  generalize ((system.runTick time).run scene).1 = failures at hticks
  generalize (system.runTick time).after scene = ticked at hticks
  cases hticks with
  | absent => exact ⟨[], rfl⟩
  | succeeds hhook hrun | fails hhook hrun =>
    obtain ⟨commands, -, hcommands⟩ := htick _ hhook scene
    rw [Act.after, hrun] at hcommands
    exact ⟨commands, hcommands⟩

/-- The calls for the members that reach a hook. -/
lemma filter_eachCalls {store : Store} {consumer : ConsumerId} {live : LiveQuery}
    (hlive : store.queryOf consumer = .ok live) :
    (system.eachCalls consumer store).filter (system.handles time) =
      ((store.members live).map Invocation.each).filter (system.handles time) := by
  rw [eachCalls, hlive]
  split
  next hnone =>
    have hhandles : ∀ call ∈ (store.members live).map Invocation.each,
        ¬system.handles time call = true := by
      intro call hcall
      obtain ⟨entity, -, rfl⟩ := List.mem_map.mp hcall
      rw [handles, hook?, Option.isSome_map, Option.isNone_iff_eq_none.mp hnone]
      exact Bool.false_ne_true
    rw [List.filter_eq_nil_iff.mpr hhandles, List.filter_nil]
  next => rfl

/-- A run takes a course and reports the calls that failed. -/
lemma exists_course {schema : Schema} {consumer : ConsumerId}
    (hs : scene.store.Accountable schema) (hconsumer : system.consumer? = some consumer)
    (hissued : consumer.index < scene.store.consumers.length)
    (htick : ∀ hook, system.tick? = some hook → (hook time).Operates fun _ => True)
    (hhooks : ∀ call hook, system.hook? time call = some hook → hook.Operates allowed) :
    ∃ course : Course σ, course.Follows system time consumer scene ∧
      (system.run time).run scene =
        (course.tickFailures + course.failed.length,
          { course.last with log := course.last.log ++ course.failed.map system.failureEntry }) ∧
      course.ticked.store.Accountable schema ∧
      course.last.store = course.drained.run course.writes ∧
      ∀ command ∈ course.writes, allowed command := by
  -- `tick` works on a store that commands have made, and so does the drain
  obtain ⟨tickWrites, htickWrites⟩ := exists_run_runTick htick scene
  obtain ⟨hticked, htickedIssued⟩ := Store.issued_run hs hissued tickWrites
  rw [← htickWrites] at hticked htickedIssued
  obtain ⟨delta, hdrain⟩ := Store.exists_drain hticked htickedIssued
  have hdrained := Store.issued_run hticked htickedIssued [.drain consumer]
  rw [Store.run_cons, Store.run_nil] at hdrained
  rw [run_of_drain hconsumer hdrain]
  have hticks := ticks_runTick system time scene
  generalize (system.runTick time).after scene = ticked at *
  generalize ticked.store.perform (.drain consumer) = drained at *
  rw [Delta.agenda_eq_asked]
  obtain ⟨deltaCalls, hdelta, hdeltaEq, hdeltaFailed, hdeltaAllowed⟩ :=
    exists_calls hhooks delta.asked { ticked with store := drained }
  generalize (system.invokeAll time delta.asked).after { ticked with store := drained } = middle
    at *
  obtain ⟨hmiddle, hmiddleIssued⟩ :=
    Store.issued_run hdrained.1 hdrained.2 (deltaCalls.flatMap HookCall.writes)
  rw [← hdelta.store_eq] at hmiddle hmiddleIssued
  obtain ⟨live, -, hserves⟩ := hmiddle.serves (List.getElem?_eq_getElem hmiddleIssued)
  have hlive := hserves.queryOf_eq
  have hmembers := Store.members_of_upToDate hmiddle.current.2
    (hmiddle.upToDate live (List.mem_of_getElem? hserves.2))
  obtain ⟨eachCalls, heach, heachEq, heachFailed, heachAllowed⟩ :=
    exists_calls hhooks (system.eachCalls consumer middle.store) middle
  rw [filter_eachCalls hlive] at heachEq
  refine ⟨{
    tickFailures := ((system.runTick time).run scene).1
    ticked, delta, drained, deltaCalls, middle, live, eachCalls
    last := (system.invokeAll time (system.eachCalls consumer middle.store)).after middle },
    ?_, ?_, hticked, (hdelta.append heach).store_eq, ?_⟩
  · exact {
      tick := hticks
      drain := hdrain
      deltaCalls := hdelta
      deltaCalls_eq := hdeltaEq
      eachCalls := heach
      live_eq := hlive
      eachCalls_eq := heachEq
      members_nodup := hmembers.1
      mem_members := hmembers.2
      renews_once := fun hrenews id => by
        rw [Course.calls, filter_renews_calls hrenews hdeltaEq heachEq]
        exact Store.length_filter_renews hticked hdrain id }
  · rw [Course.failed, Course.calls, List.filterMap_append, hdeltaFailed, heachFailed]
  · intro command hcommand
    obtain ⟨hookCall, hmem, hwrite⟩ := List.mem_flatMap.mp hcommand
    rcases List.mem_append.mp hmem with hmem | hmem
    · exact hdeltaAllowed hookCall hmem command hwrite
    · exact heachAllowed hookCall hmem command hwrite

/-- **A run delivers its delta once and completely, whatever the hooks do.**  A run of a system that
is bound to a consumer takes the course that `Course.Follows` describes, and gives the number of
calls that failed, each of which is reported.  If no hook drains or resets the consumer, then what
the consumer has to hand out in the end sums up what the hooks have written since the drain. -/
theorem run_delivers (schema : Schema) (historyDepth : Nat) (earlier : List StoreCommand)
    (system : System σ) (time : Float) (scene : Scene σ) (consumer : ConsumerId)
    (allowed : StoreCommand → Prop)
    (hscene : scene.store = (Store.empty schema historyDepth).run earlier)
    (hconsumer : system.consumer? = some consumer)
    (hissued : consumer.index < scene.store.consumers.length)
    (htick : ∀ hook, system.tick? = some hook → (hook time).Operates fun _ => True)
    (hhooks : ∀ call hook, system.hook? time call = some hook → hook.Operates allowed) :
    ∃ course : Course σ, course.Follows system time consumer scene ∧
      (system.run time).run scene =
        (course.tickFailures + course.failed.length,
          { course.last with log := course.last.log ++ course.failed.map system.failureEntry }) ∧
      course.last.store = course.drained.run course.writes ∧
      (∀ command ∈ course.writes, allowed command) ∧
      ((∀ command, allowed command →
          command ≠ .drain consumer ∧ command ≠ .resetConsumer consumer) →
        ∀ id, Summarizes (course.last.store.pendingOf consumer id) id
          (course.drained.isMember consumer id) (course.last.store.isMember consumer id)
          (firstLeaving? (course.drained.moments course.writes) consumer id)
          (changesSinceEntry (course.drained.moments course.writes) consumer id)) := by
  have hs := Store.accountable_run schema historyDepth earlier
  rw [← hscene] at hs
  obtain ⟨course, hfollows, hrun, hticked, hlast, hallowed⟩ :=
    exists_course hs hconsumer hissued htick hhooks
  refine ⟨course, hfollows, hrun, hlast, hallowed, fun hquiet => ?_⟩
  obtain ⟨-, -, hsummary⟩ := Store.summarizes_run hticked (.drained hfollows.drain) course.writes
    fun command hcommand => hquiet command (hallowed command hcommand)
  rw [← hlast] at hsummary
  exact hsummary

/-- A system that fails for what is new, and marks what is new or updated as changed. -/
def marking : System Unit where
  name := "marking"
  consumer? := some ⟨0⟩
  forNew? := some fun _ _ => return .error ⟨["not ready"]⟩
  newOrUpdated? := some fun entity _ _ => do
    Act.setStore ((← Act.store).perform (.flagUpdate entity.id "type"))
    return .ok ()

/-- A scene with the entity of `typedCommands`. -/
def typedScene : Scene Unit where
  store := (Store.empty Store.typedSchema 0).run Store.typedCommands
  supply := .fresh
  log := []
  app := ()

/-- In a run of `marking` one call fails, and what the other one writes is left for the next run. -/
theorem marking_delivers :
    ((marking.run 0).run typedScene).1 = 1 ∧
      ((marking.run 0).after typedScene).store.hasPending ⟨0⟩ = true ∧
      ∃ course : Course Unit, course.Follows marking 0 ⟨0⟩ typedScene ∧
        ∀ id, Summarizes (course.last.store.pendingOf ⟨0⟩ id) id
          (course.drained.isMember ⟨0⟩ id) (course.last.store.isMember ⟨0⟩ id)
          (firstLeaving? (course.drained.moments course.writes) ⟨0⟩ id)
          (changesSinceEntry (course.drained.moments course.writes) ⟨0⟩ id) := by
  refine ⟨by decide +kernel, by decide +kernel, ?_⟩
  have hhooks : ∀ call hook, marking.hook? 0 call = some hook →
      hook.Operates fun command => ∃ id, command = .flagUpdate id "type" := by
    intro call hook hhook
    cases call with
    | removed | forUpdated | each => cases hhook
    | forNew entity =>
      cases hhook
      exact fun scene => ⟨[], fun _ h => absurd h List.not_mem_nil, rfl⟩
    | newOrUpdated entity =>
      cases hhook
      exact fun scene => ⟨[.flagUpdate entity.id "type"], by simp, rfl⟩
  obtain ⟨course, hfollows, -, -, -, hsummary⟩ := run_delivers Store.typedSchema 0
    Store.typedCommands marking 0 typedScene ⟨0⟩ _ rfl rfl (by decide +kernel)
    (fun _ htick => nomatch htick) hhooks
  refine ⟨course, hfollows, hsummary ?_⟩
  rintro command ⟨id, rfl⟩
  exact ⟨nofun, nofun⟩

end System

end SceneEngine
