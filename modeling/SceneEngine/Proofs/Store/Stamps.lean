import SceneEngine.Proofs.Store.Registering

/-!
# Stamps

Every component of a registered entity has a stamp, by which whoever computed something from it can
tell whether it has changed since.  The stamp is the version at which the component last changed.
For this to work stamps must not fall, and a component that was taken away and put back must not
show an old stamp.

## What a commit stamps

`StoreState.Restamps` says it of a commit: the components that it lists as changed are stamped with
the version that it leads to, as far as they are there afterwards, and all other stamps stay.  Each
kind of commit is shown to do so.  For a registration this needs that a stamp is kept exactly where
the value counts as the same (`StoreState.keptVersion?_eq`), which is also when the component is not
listed.

## Along a run

So a step either changes a component, and then it is stamped with the version that the step leads
to, or it leaves the stamp as it is (`StoreState.componentVersion?_perform`).  From this come by
induction that a stamp is the version of the last change (`StoreState.lastChange_run`) and that it
does not fall below a bound it has reached (`StoreState.le_componentVersion?_run`).  The second is
stated with a bound so that it also covers a component that is away: what has no stamp is above
every bound, and when it is back it is stamped with a later version.

`StoreState.StampsTell` collects what a stamp tells, and the main result is
`StoreState.stamps_tell`.  It is about runs of commits to a state, and says that the states of
stores are led to by such runs.
-/

namespace SceneEngine

/-! ## Stamps of a record -/

namespace EntityRecord

variable {record : EntityRecord} {schema : Schema} {version : Nat} {id : EntityId}
  {c d : ComponentId}

/-- A component that is present has a stamp, and no other has one. -/
lemma WellFormed.isSome_version? (h : record.WellFormed schema version id) :
    (record.version? c).isSome = record.entity.has c := by
  rw [version?, Option.isSome_map, Bool.eq_iff_iff, List.find?_isSome, ← Entity.mem_components,
    ← h.map_fst_versions, List.mem_map]
  simp only [beq_iff_eq]

lemma WellFormed.version?_le (h : record.WellFormed schema version id) {v : Nat}
    (hv : record.version? c = some v) : v ≤ version := by
  obtain ⟨stamp, hfind, rfl⟩ := Option.map_eq_some_iff.mp hv
  exact (h.stamped stamp (List.mem_of_find?_eq_some hfind)).2

/-- Stamping a component leaves the stamps of the others. -/
lemma version?_stamp (record : EntityRecord) (c : ComponentId) (version : Nat) :
    (record.stamp c version).version? d =
      if d = c then (record.version? d).map fun _ => version else record.version? d := by
  rw [version?, stamp, version?, List.find?_map]
  change ((record.versions.find? (·.1 == d)).map _).map _ = _
  cases hfind : record.versions.find? (·.1 == d) with
  | none => simp
  | some stamp =>
    have hd : stamp.1 = d := by simpa using List.find?_some hfind
    by_cases hcd : d = c <;> simp [hd, hcd]

end EntityRecord

namespace StoreState

variable {state : StoreState} {next : StoreState × Commit} {record? : Option EntityRecord}
  {id : EntityId} {c d : ComponentId}

/-- A component has a stamp if there is a value for it, and only then. -/
lemma isSome_componentVersion? (hs : state.WellFormed) (id : EntityId) (c : ComponentId) :
    (state.componentVersion? id c).isSome = ((state.get? id).bind (·.get? c)).isSome := by
  rw [componentVersion?, get?]
  cases hrecord : state.entities.get? id with
  | none => rfl
  | some record =>
    rw [Option.map_some, Option.bind_some, Option.bind_some, ← Entity.has_eq_isSome]
    exact (hs.records id record hrecord).isSome_version?

lemma componentVersion?_le (hs : state.WellFormed) {v : Nat}
    (hv : state.componentVersion? id c = some v) : v ≤ state.version := by
  obtain ⟨record, hrecord, hv⟩ := Option.bind_eq_some_iff.mp hv
  exact (hs.records id record hrecord).version?_le hv

/-! ## What commits stamp -/

/-- A commit stamps the components that it lists as changed with the version it leads to, as far as
they are there afterwards, and leaves all other stamps. -/
def Restamps (state : StoreState) (next : StoreState × Commit) : Prop :=
  ∀ id c,
    (next.2.id = id ∧ next.2.changed.contains c = true →
      ∀ v, next.1.componentVersion? id c = some v → v = next.1.version) ∧
    (¬(next.2.id = id ∧ next.2.changed.contains c = true) →
      next.1.componentVersion? id c = state.componentVersion? id c)

/-- It is enough to look at the record that the commit leaves, since the other records stay. -/
lemma Advances.restamps (h : state.Advances next record?)
    (hchanged : ∀ c, next.2.changed.contains c = true →
      ∀ v, (record?.bind (·.version? c)) = some v → v = state.version + 1)
    (hkept : ∀ c, next.2.changed.contains c = false →
      record?.bind (·.version? c) = state.componentVersion? next.2.id c) :
    state.Restamps next := by
  intro id c
  rw [componentVersion?, h.record_eq, h.version_eq]
  by_cases hid : id = next.2.id
  · subst hid
    rw [if_pos rfl]
    refine ⟨fun hc => hchanged c hc.2, fun hc => hkept c ?_⟩
    exact Bool.eq_false_iff.mpr fun htrue => hc ⟨rfl, htrue⟩
  · rw [if_neg hid]
    exact ⟨fun hc => absurd hc.1.symm hid, fun _ => rfl⟩

/-- The stamp that a component keeps when it is written with a value that is no change. -/
lemma keptVersion?_eq (state : StoreState) (id : EntityId) (c : ComponentId)
    (value : ComponentValue) :
    (state.entities.get? id).bind (·.keptVersion? (c, value)) =
      if ComponentValue.unchanged ((state.get? id).bind (·.get? c)) (some value) then
        state.componentVersion? id c
      else none := by
  rw [get?, componentVersion?]
  cases state.entities.get? id with
  | none => rfl
  | some record =>
    rw [Option.map_some, Option.bind_some, Option.bind_some, Option.bind_some,
      EntityRecord.keptVersion?]
    cases record.entity.get? c <;> rfl

/-- The stamp of a component of a registered value is the one it kept, or the next version. -/
lemma version?_registeredRecord (state : StoreState) (entity : Entity) (c : ComponentId) :
    (state.registeredRecord entity).version? c = (entity.get? c).map fun value =>
      ((state.entities.get? entity.id).bind (·.keptVersion? (c, value))).getD
        (state.version + 1) := by
  rw [EntityRecord.version?, registeredRecord, List.find?_map, Entity.get?]
  change ((entity.slots.find? (·.1 == c)).map _).map _ = _
  cases hfind : entity.slots.find? (·.1 == c) with
  | none => rfl
  | some slot =>
    obtain rfl : slot.1 = c := by simpa using List.find?_some hfind
    rfl

/-- A registration stamps what it lists.  Components that it loses are listed as well and have no
stamp afterwards. -/
lemma restamps_register (hs : state.WellFormed) {entity : Entity}
    (h : state.register entity = .ok next) (hadvance : state.Advances next record?) :
    state.Restamps next := by
  have hid := (commit_of_register h).1
  have hcontains := fun c => contains_changed_of_register (c := c) hs h
  have hregistered : state.Advances next (some (state.registeredRecord entity)) := by
    rcases register_cases hs h with ⟨-, hnoop⟩ | hregistered
    · rw [hadvance.effective] at hnoop
      cases hnoop
    · exact hregistered
  refine hregistered.restamps (fun c hc v hv => ?_) fun c hc => ?_
  · rw [Option.bind_some, version?_registeredRecord] at hv
    obtain ⟨value, hvalue, rfl⟩ := Option.map_eq_some_iff.mp hv
    rw [hcontains, Bool.not_eq_true', hvalue] at hc
    rw [keptVersion?_eq, if_neg (Bool.eq_false_iff.mp hc), Option.getD_none]
  · have hstamp := isSome_componentVersion? hs entity.id c
    rw [hcontains, Bool.not_eq_false'] at hc
    rw [Option.bind_some, version?_registeredRecord, hid]
    cases hold : (state.get? entity.id).bind (·.get? c) <;> cases hvalue : entity.get? c <;>
      rw [hold, hvalue] at hc
    case none.none =>
      rw [hold, Option.isSome_none, Option.isSome_eq_false_iff, Option.isNone_iff_eq_none] at hstamp
      rw [hstamp, Option.map_none]
    case some.some old value =>
      rw [hold, Option.isSome_some] at hstamp
      obtain ⟨v, hv⟩ := Option.isSome_iff_exists.mp hstamp
      rw [Option.map_some, keptVersion?_eq, hold, if_pos hc, hv, Option.getD_some]
    all_goals cases hc

lemma restamps_deregister? (hs : state.WellFormed) (h : state.deregister? id = some next) :
    state.Restamps next := by
  refine (deregister?_advances hs h).restamps (fun c _ v hv => by cases hv) fun c hc => ?_
  obtain ⟨record, hrecord, rfl⟩ := Option.map_eq_some_iff.mp h
  have hnot : record.entity.has c = false := by
    rw [← Bool.not_eq_true, ← Entity.mem_components, ← ComponentSet.contains_ofList]
    exact Bool.eq_false_iff.mp hc
  have hversion := (hs.records id record hrecord).isSome_version? (c := c)
  rw [hnot, Option.isSome_eq_false_iff, Option.isNone_iff_eq_none] at hversion
  rw [Option.bind_none, componentVersion?, hrecord, Option.bind_some, hversion]

/-- Marking a component as changed stamps it and nothing else, whatever becomes of its value. -/
lemma restamps_stamp {record record' : EntityRecord} {commit : Commit}
    (hrecord : state.entities.get? id = some record)
    (hversions : record'.versions = (record.stamp c (state.version + 1)).versions)
    (hid : commit.id = id) (hchanged : commit.changed = .ofList [c]) :
    state.Restamps ({ state with
      version := state.version + 1, entities := state.entities.insert id record' }, commit) := by
  subst hid
  have hstamped : ∀ d, record'.version? d =
      if d = c then (record.version? d).map fun _ => state.version + 1
      else record.version? d := by
    intro d
    rw [← EntityRecord.version?_stamp, EntityRecord.version?, EntityRecord.version?, hversions]
  intro id d
  rw [componentVersion?, componentVersion?, OrderedMap.get?_insert, hchanged,
    ComponentSet.contains_ofList, List.mem_singleton]
  by_cases hid : id = commit.id
  · rw [if_pos hid, Option.bind_some, hstamped, hid, hrecord, Option.bind_some]
    constructor
    · rintro ⟨-, rfl⟩ v hv
      rw [if_pos rfl] at hv
      obtain ⟨-, -, rfl⟩ := Option.map_eq_some_iff.mp hv
      rfl
    · intro hd
      rw [if_neg fun hdc => hd ⟨rfl, hdc⟩]
  · rw [if_neg hid]
    exact ⟨fun h => absurd h.1.symm hid, fun _ => rfl⟩

lemma restamps_updateInPlace {f : ComponentValue → ComponentValue}
    (h : state.updateInPlace id c f = .ok next) : state.Restamps next := by
  rw [updateInPlace] at h
  split at h
  · cases h
  next record hrecord =>
    split at h
    · cases h
    · cases h
      exact restamps_stamp hrecord rfl rfl rfl

lemma restamps_flagUpdate (h : state.flagUpdate id c = .ok next) : state.Restamps next := by
  rw [flagUpdate] at h
  split at h
  · cases h
  next record hrecord =>
    split at h
    · cases h
    · cases h
      exact restamps_stamp hrecord rfl rfl rfl

/-! ## Commands -/

/-- The commit that a command asks for, unless it is refused. -/
def proposal? (state : StoreState) : StateCommand → Option (StoreState × Commit)
  | .register entity => (state.register entity).toOption
  | .deregister id => state.deregister? id
  | .updateInPlace id c f => (state.updateInPlace id c f).toOption
  | .flagUpdate id c => (state.flagUpdate id c).toOption

/-- The effective commit that a command makes, if it makes one. -/
def effect? (state : StoreState) (command : StateCommand) : Option Commit :=
  ((state.proposal? command).map Prod.snd).filter (!·.isNoop)

/-- A command makes an effective commit on an entity that lists a component as changed. -/
def Changes (state : StoreState) (command : StateCommand) (id : EntityId) (c : ComponentId) :
    Prop :=
  ∃ commit, state.effect? command = some commit ∧ commit.id = id ∧
    commit.changed.contains c = true

/-- Carrying out a command takes the state of its proposal. -/
lemma perform_eq_proposal (state : StoreState) (command : StateCommand) :
    state.perform command = ((state.proposal? command).map Prod.fst).getD state := by
  cases command with
  | register entity => rw [perform, registerEntity, proposal?]; cases state.register entity <;> rfl
  | deregister id => rfl
  | updateInPlace id c f => rw [perform, proposal?]; cases state.updateInPlace id c f <;> rfl
  | flagUpdate id c => rw [perform, proposal?]; cases state.flagUpdate id c <;> rfl

/-- A proposal leaves the state as it is or advances it. -/
lemma proposal?_cases (hs : state.WellFormed) {command : StateCommand}
    (h : state.proposal? command = some next) :
    (next.1 = state ∧ next.2.isNoop = true) ∨
      ∃ record?, state.Advances next record? ∧ state.Restamps next := by
  cases command with
  | register entity =>
    have h := toOption_eq_some_iff.mp h
    rcases register_cases hs h with hsame | hadvance
    · exact .inl hsame
    · exact .inr ⟨_, hadvance, restamps_register hs h hadvance⟩
  | deregister id => exact .inr ⟨_, deregister?_advances hs h, restamps_deregister? hs h⟩
  | updateInPlace id c f =>
    have h := toOption_eq_some_iff.mp h
    obtain ⟨record, hadvance⟩ := updateInPlace_advances hs h
    exact .inr ⟨_, hadvance, restamps_updateInPlace h⟩
  | flagUpdate id c =>
    have h := toOption_eq_some_iff.mp h
    obtain ⟨record, hadvance⟩ := flagUpdate_advances hs h
    exact .inr ⟨_, hadvance, restamps_flagUpdate h⟩

/-- A command has no effect and leaves the state as it is, or it makes an effective commit. -/
lemma effect?_cases (hs : state.WellFormed) (command : StateCommand) :
    (state.effect? command = none ∧ state.perform command = state) ∨
      ∃ next record?, state.effect? command = some next.2 ∧ state.perform command = next.1 ∧
        state.Advances next record? ∧ state.Restamps next := by
  rw [effect?, perform_eq_proposal]
  cases hproposal : state.proposal? command with
  | none => exact .inl ⟨rfl, rfl⟩
  | some next =>
    rcases proposal?_cases hs hproposal with ⟨hsame, hnoop⟩ | ⟨record?, hadvance, hrestamps⟩
    · exact .inl ⟨by simp [Option.filter, hnoop], hsame⟩
    · exact .inr ⟨next, record?, by simp [Option.filter, hadvance.effective], rfl, hadvance,
        hrestamps⟩

/-- A step stamps the components that it changes, as far as they are there afterwards, and leaves
all other stamps. -/
lemma componentVersion?_perform (hs : state.WellFormed) (command : StateCommand) (id : EntityId)
    (c : ComponentId) :
    (state.Changes command id c ∧ (state.perform command).version = state.version + 1 ∧
      ∀ v, (state.perform command).componentVersion? id c = some v →
        v = (state.perform command).version) ∨
    (¬state.Changes command id c ∧ state.version ≤ (state.perform command).version ∧
      (state.perform command).componentVersion? id c = state.componentVersion? id c) := by
  rcases effect?_cases hs command with ⟨heffect, hsame⟩ |
    ⟨next, record?, heffect, hnext, hadvance, hrestamps⟩
  · refine .inr ⟨?_, Nat.le_of_eq (by rw [hsame]), by rw [hsame]⟩
    rintro ⟨commit, hcommit, -⟩
    rw [heffect] at hcommit
    cases hcommit
  · have hchanges : state.Changes command id c ↔
        next.2.id = id ∧ next.2.changed.contains c = true := by
      rw [Changes, heffect]
      simp
    rw [hchanges, hnext]
    by_cases hc : next.2.id = id ∧ next.2.changed.contains c = true
    · exact .inl ⟨hc, hadvance.version_eq, (hrestamps id c).1 hc⟩
    · exact .inr ⟨hc, by rw [hadvance.version_eq]; exact Nat.le_succ _, (hrestamps id c).2 hc⟩

/-! ## Runs -/

@[simp] lemma run_append (state : StoreState) (commands commands' : List StateCommand) :
    state.run (commands ++ commands') = (state.run commands).run commands' :=
  List.foldl_append

/-- A version is the one that the last step to change a component has led to.  After that step none
has changed the component. -/
def LastChange (schema : Schema) (commands : List StateCommand) (id : EntityId) (c : ComponentId)
    (v : Nat) : Prop :=
  ∃ before command after, commands = before ++ command :: after ∧
    ((empty schema).run before).Changes command id c ∧
    v = ((empty schema).run (before ++ [command])).version ∧
    ∀ between command' rest, after = between ++ command' :: rest →
      ¬((empty schema).run (before ++ command :: between)).Changes command' id c

/-- A step that leaves a component alone leaves its last change. -/
lemma LastChange.append_singleton {schema : Schema} {commands : List StateCommand} {v : Nat}
    (h : LastChange schema commands id c v) {command : StateCommand}
    (hkeeps : ¬((empty schema).run commands).Changes command id c) :
    LastChange schema (commands ++ [command]) id c v := by
  obtain ⟨before, changing, after, rfl, hchanges, hv, hlast⟩ := h
  refine ⟨before, changing, after ++ [command], by simp, hchanges, hv, ?_⟩
  intro between command' rest hsplit
  rcases append_singleton_eq_iff.mp hsplit with ⟨rfl, rfl, rfl⟩ | ⟨rest, rfl, rfl⟩
  · exact hkeeps
  · exact hlast between command' rest rfl

/-- After a run every stamp is the version of the last change.  The induction is on the run from its
end: the last command changed the component, or the last change is one before. -/
lemma lastChange_run (schema : Schema) (commands : List StateCommand) {v : Nat}
    (hv : ((empty schema).run commands).componentVersion? id c = some v) :
    LastChange schema commands id c v := by
  induction commands using List.reverseRecOn generalizing v with
  | nil => cases hv
  | append_singleton commands command ih =>
    have hs := (wellFormed_run (wellFormed_empty schema) commands).2
    have hrun : (empty schema).run (commands ++ [command]) =
        ((empty schema).run commands).perform command := run_append _ _ _
    rw [hrun] at hv
    rcases componentVersion?_perform hs command id c with ⟨hchanges, -, hstamp⟩ |
      ⟨hkeeps, -, hstamp⟩
    · refine ⟨commands, command, [], rfl, hchanges, ?_, fun _ _ _ hnil => ?_⟩
      · rw [hrun]
        exact hstamp v hv
      · exact absurd hnil (by simp)
    · rw [hstamp] at hv
      exact (ih hv).append_singleton hkeeps

/-- Stamps that have reached a bound do not fall below it, and those that come later reach it too,
if the version has come up to it. -/
lemma le_componentVersion?_run (hs : state.WellFormed) {bound : Nat}
    (hversion : bound ≤ state.version + 1)
    (h : ∀ v, state.componentVersion? id c = some v → bound ≤ v) (commands : List StateCommand) :
    ∀ v, (state.run commands).componentVersion? id c = some v → bound ≤ v := by
  induction commands generalizing state with
  | nil => exact h
  | cons command commands ih =>
    have hnext : (state.perform command).WellFormed := (wellFormed_run hs [command]).2
    rcases componentVersion?_perform hs command id c with ⟨-, hsucc, hstamp⟩ |
      ⟨-, hle, hstamp⟩
    · refine ih hnext (by omega) fun v hv => ?_
      rw [hstamp v hv, hsucc]
      exact hversion
    · exact ih hnext (by omega) (hstamp ▸ h)

/-- What a stamp tells after a run. -/
structure StampsTell (schema : Schema) (commands : List StateCommand) (id : EntityId)
    (c : ComponentId) : Prop where
  /-- Exactly the components of registered values have stamps. -/
  isSome_iff : (((empty schema).run commands).componentVersion? id c).isSome = true ↔
    ∃ entity, ((empty schema).run commands).get? id = some entity ∧ entity.has c = true
  /-- The stamp is the version that the last change led to. -/
  last_change : ∀ v, ((empty schema).run commands).componentVersion? id c = some v →
    LastChange schema commands id c v
  /-- An effective commit leads to the next version, -/
  version_succ : ∀ command commit, ((empty schema).run commands).effect? command = some commit →
    (((empty schema).run commands).perform command).version =
      ((empty schema).run commands).version + 1
  /-- and a command without one leaves the state as it is. -/
  idle : ∀ command, ((empty schema).run commands).effect? command = none →
    ((empty schema).run commands).perform command = (empty schema).run commands
  /-- A later stamp is no lower. -/
  le_later : ∀ later v w, ((empty schema).run commands).componentVersion? id c = some v →
    ((empty schema).run (commands ++ later)).componentVersion? id c = some w → v ≤ w
  /-- A component that is away for some time, with its entity or without, has a higher stamp when it
  is back than any component of the entity had before. -/
  lt_back : ∀ away back d v w, ((empty schema).run commands).componentVersion? id d = some v →
    ((empty schema).run (commands ++ away)).componentVersion? id c = none →
    ((empty schema).run (commands ++ away ++ back)).componentVersion? id c = some w → v < w

lemma version_le_run (hs : state.WellFormed) (commands : List StateCommand) :
    state.version ≤ (state.run commands).version := by
  induction commands generalizing state with
  | nil => exact Nat.le_refl _
  | cons command commands ih =>
    have hnext : (state.perform command).WellFormed := (wellFormed_run hs [command]).2
    refine Nat.le_trans ?_ (ih hnext)
    rcases effect?_cases hs command with ⟨-, hsame⟩ | ⟨next, record?, -, hnext, hadvance, -⟩
    · exact Nat.le_of_eq (congrArg version hsame.symm)
    · rw [hnext, hadvance.version_eq]
      exact Nat.le_succ _

lemma stampsTell_run (schema : Schema) (commands : List StateCommand) (id : EntityId)
    (c : ComponentId) : StampsTell schema commands id c := by
  have hs := (wellFormed_run (wellFormed_empty schema) commands).2
  refine {
    isSome_iff := ?_
    last_change := fun v => lastChange_run schema commands
    version_succ := fun command commit heffect => ?_
    idle := fun command heffect => ?_
    le_later := fun later v w hv hw => ?_
    lt_back := fun away back d v w hv haway hw => ?_ }
  · simp only [isSome_componentVersion? hs, Option.isSome_bind, Option.any_eq_true,
      Entity.has_eq_isSome]
  · rcases effect?_cases hs command with ⟨hnone, -⟩ | ⟨next, record?, -, hnext, hadvance, -⟩
    · rw [hnone] at heffect
      cases heffect
    · rw [hnext, hadvance.version_eq]
  · rcases effect?_cases hs command with ⟨-, hsame⟩ | ⟨next, record?, hsome, -⟩
    · exact hsame
    · rw [hsome] at heffect
      cases heffect
  · rw [run_append] at hw
    -- a stamp is its own bound, since no later one falls below it
    have hle := Nat.le_succ_of_le (componentVersion?_le hs hv)
    refine le_componentVersion?_run hs hle (fun v' hv' => ?_) later w hw
    rw [hv] at hv'
    exact Nat.le_of_eq (Option.some.inj hv')
  · -- what comes back is stamped after the version at which it was away
    have hsaway := (wellFormed_run (wellFormed_empty schema) (commands ++ away)).2
    have hle := version_le_run hs away
    rw [← run_append] at hle
    rw [run_append] at hw
    have hlt := le_componentVersion?_run hsaway (Nat.le_refl _)
      (fun v' hv' => by rw [haway] at hv'; cases hv') back w hw
    have hv := componentVersion?_le hs hv
    omega

end StoreState

/-! ## Runs of a store -/

namespace Store

variable {store : Store}

/-- A commit that a command asks of a store is one that can be asked of its state. -/
lemma exists_stateCommand {command : StoreCommand} {next : StoreState × Commit}
    (h : store.proposal? command = some next) :
    ∃ stateCommand, store.current.proposal? stateCommand = some next := by
  cases command with
  | register entity => exact ⟨.register entity, h⟩
  | deregister id => exact ⟨.deregister id, h⟩
  | quickEntity id components =>
    obtain ⟨entity, -, h⟩ := Option.bind_eq_some_iff.mp h
    exact ⟨.register entity, h⟩
  | updateInPlace id name f =>
    obtain ⟨c, -, h⟩ := Option.bind_eq_some_iff.mp h
    exact ⟨.updateInPlace id c f, h⟩
  | flagUpdate id name =>
    obtain ⟨c, -, h⟩ := Option.bind_eq_some_iff.mp h
    exact ⟨.flagUpdate id c, h⟩
  | createQuery | createConsumer | resetConsumer | drain | matching => cases h

/-- The current state of a store is one that a run of commits leads to. -/
lemma exists_run_current (schema : Schema) (historyDepth : Nat) (commands : List StoreCommand) :
    ∃ stateCommands, ((Store.empty schema historyDepth).run commands).current =
      (StoreState.empty schema).run stateCommands := by
  induction commands using List.reverseRecOn with
  | nil => exact ⟨[], rfl⟩
  | append_singleton commands command ih =>
    obtain ⟨stateCommands, hcurrent⟩ := ih
    have hs := (wellFormed_run schema historyDepth commands).current.2
    have hrun : (Store.empty schema historyDepth).run (commands ++ [command]) =
        ((Store.empty schema historyDepth).run commands).perform command := run_append _ _ _
    rw [hrun]
    rcases perform_cases hs command with ⟨-, hsame⟩ | ⟨next, record?, hproposal, hadvance, hnext⟩
    · exact ⟨stateCommands, hsame.trans hcurrent⟩
    · obtain ⟨stateCommand, hstate⟩ := exists_stateCommand hproposal
      refine ⟨stateCommands ++ [stateCommand], ?_⟩
      rw [hnext, commit_eq hadvance.effective, StoreState.run_append, ← hcurrent]
      change next.1 = StoreState.perform _ stateCommand
      rw [StoreState.perform_eq_proposal, hstate]
      rfl

end Store

/-- **Stamps tell when components last changed.**  After any run of commits the components of
registered values have stamps, each stamp is the version that the last effective commit to change
the component led to, and stamps rise as `StampsTell` says.  The states of stores are states after
such runs. -/
theorem StoreState.stamps_tell (schema : Schema) :
    (∀ commands id c, StampsTell schema commands id c) ∧
      ∀ (historyDepth : Nat) (commands : List StoreCommand), ∃ stateCommands,
        ((Store.empty schema historyDepth).run commands).current =
          (empty schema).run stateCommands :=
  ⟨stampsTell_run schema, Store.exists_run_current schema⟩

end SceneEngine
