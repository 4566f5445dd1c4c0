import SceneEngine.Proofs.Engine.Upkeep

/-!
# What the compiling system is told

The consumer of the compiling system asks for the entities with a material name and a tree
(`Upkeep.Asks`), so a commit rewrites its records as the name and the tree of its entity come, go
and change (`Upkeep.Installed.records_perform`).  This module carries the invariant of a single
entity (`Upkeep.Traces`) over to stores.

* `Upkeep.Installed`: the consumer is there and serves the query of the system, in a store that
  commands have led to.  The members of the query are then the entities that the system is concerned
  with (`Upkeep.Installed.isMember_eq`).
* `Upkeep.Dated`: the registered documents are known, and the registered materials were made before
  a mark.  This is what makes a new object different from all that are there.
* `Upkeep.Tracks`: both, and every entity with its record as `Upkeep.Traces` has it.
* `Upkeep.Awaits`: the same before the first run, when no entity has a material.

A command keeps all of this if it takes nothing out of the records, leaves materials alone, and
brings in only known documents (`Upkeep.Harmless`, `Upkeep.Tracks.perform`).  Nothing else is asked
of it, so refused commands and commands about queries and other consumers need no cases of their
own: `Upkeep.Installed.records_perform` distinguishes only whether there is an effective commit, and
whether it is about the entity that is looked at.

Last, entity operations from outside are harmless under conditions that can be read off their
arguments (`Store.Admits`, `Upkeep.harmless_of_admits`).  A document that is registered again counts
as unchanged by its mark alone, so these conditions have to say that a mark stands for one document.
-/

namespace SceneEngine

/-! ## The query of the system -/

namespace Upkeep

variable {upkeep : Upkeep} {store : Store} {command : StoreCommand}
  {next : StoreState × Commit} {known : Shared Json → Prop}
  {mark : Nat}

variable (upkeep) in
/-- A query asks for the entities with a material name and a tree.  It excludes nothing, so an
entity cannot leave it but by losing one of the two. -/
structure Asks (query : Query) : Prop where
  includes : ∀ c, query.includes.contains c = true ↔ c = upkeep.name ∨ c = upkeep.trees.tree
  excludes : ∀ c, query.excludes.contains c = false

lemma Asks.accepts_eq {query : Query} (h : upkeep.Asks query) (entity : Entity) :
    query.accepts entity = upkeep.concerns entity := by
  rw [Bool.eq_iff_iff, Query.accepts_iff, concerns, Bool.and_eq_true]
  constructor
  · rintro ⟨hincluded, -⟩
    exact ⟨hincluded _ ((h.includes _).mpr (.inl rfl)), hincluded _ ((h.includes _).mpr (.inr rfl))⟩
  · rintro ⟨hname, htree⟩
    refine ⟨fun c hc => ?_, fun c hc => by simp [h.excludes c] at hc⟩
    rcases (h.includes c).mp hc with rfl | rfl
    · exact hname
    · exact htree

/-- A change of the tree counts for the consumer, as the tree is one of the components that the
query watches. -/
lemma Asks.contains_watched {query : Query} (h : upkeep.Asks query) (changed : ComponentSet) :
    (query.watched changed).contains upkeep.trees.tree = changed.contains upkeep.trees.tree := by
  have htree := (h.includes _).mpr (.inr rfl)
  rw [Query.watched]
  split
  · rfl
  · rw [ComponentSet.contains_intersection, htree, Bool.and_true]

variable (upkeep) in
/-- The consumer of the system is there and serves the query of the system, in a store that was led
to by commands. -/
structure Installed (store : Store) : Prop extends store.Accountable upkeep.schema where
  exclusive : store.current.Exclusive
  asks : ∃ live, store.queryOf upkeep.consumer = .ok live ∧ upkeep.Asks live.query

namespace Installed

lemma perform (h : upkeep.Installed store) (command : StoreCommand) :
    upkeep.Installed (store.perform command) where
  toAccountable := Store.accountable_perform store command h.toAccountable
  exclusive := Store.exclusive_perform h.current.2 h.exclusive command
  asks := by
    obtain ⟨live, hquery, hasks⟩ := h.asks
    obtain ⟨live', hquery', hsame⟩ := Store.queryOf_perform h.toAccountable hquery command
    exact ⟨live', hquery', hsame ▸ hasks⟩

/-- The members of the query are the entities with a material name and a tree. -/
lemma isMember_eq (h : upkeep.Installed store) (id : EntityId) :
    store.isMember upkeep.consumer id = (store.get? id).any upkeep.concerns := by
  obtain ⟨live, hquery, hasks⟩ := h.asks
  rw [Store.isMember_eq_any h.toAccountable hquery, funext hasks.accepts_eq]

/-- Only a commit to an entity gives its record changes that count, and among them is the tree
exactly when it changed.  Which other components are among them does not matter here. -/
lemma watched_eq {record? : Option EntityRecord} (h : upkeep.Installed store)
    (hproposal : store.proposal? command = some next)
    (hadvance : store.current.Advances next record?) :
    ∃ watched : ComponentSet,
      watched.contains upkeep.trees.tree = next.2.changed.contains upkeep.trees.tree ∧
      ∀ id, Moment.watched ⟨store, command⟩ upkeep.consumer id =
        if next.2.id = id then watched else ∅ := by
  obtain ⟨live, hquery, hasks⟩ := h.asks
  refine ⟨live.query.watched next.2.changed, hasks.contains_watched _, fun id => ?_⟩
  rw [Moment.watched, Store.effect?_of_advances hproposal hadvance, hquery]

/-- What holds of all entities and their records still holds after a command whose commit keeps it
for its own entity.  The property is any `T`, so that the invariant between runs and the one during
a run are both carried by this lemma. -/
lemma records_perform (h : upkeep.Installed store) {T : Pending → Option Entity → Prop}
    (hT : ∀ id, T (store.pendingOf upkeep.consumer id) (store.get? id))
    (hdrain : command ≠ .drain upkeep.consumer) (hreset : command ≠ .resetConsumer upkeep.consumer)
    (hafter : ∀ next record?, store.proposal? command = some next →
      store.current.Advances next record? → ∀ (p : Pending) (watched : ComponentSet),
      T p next.2.before? →
      watched.contains upkeep.trees.tree = next.2.changed.contains upkeep.trees.tree →
      T (p.after (next.2.before?.any upkeep.concerns) (next.2.after?.any upkeep.concerns)
        next.2.before? watched) next.2.after?) :
    ∀ id, T ((store.perform command).pendingOf upkeep.consumer id)
      ((store.perform command).get? id) := by
  intro id
  have hpending := Moment.pendingOf_after ⟨store, command⟩ h.toAccountable hdrain hreset id
  rw [Moment.after, (h.perform command).isMember_eq, h.isMember_eq] at hpending
  -- either no entity changes and no record, or one entity does
  rcases Store.perform_cases h.current.2 command with
    ⟨heffect, hcurrent⟩ | ⟨next, record?, hproposal, hadvance, hperform⟩
  · have hget : (store.perform command).get? id = store.get? id := by
      rw [Store.get?, hcurrent, Store.get?]
    rw [Moment.watched_of_idle heffect, hget, Pending.after_self] at hpending
    rw [hpending, hget]
    exact hT id
  · obtain ⟨watched, hwatched, hmoment⟩ := h.watched_eq hproposal hadvance
    have hget : (store.perform command).get? id =
        if id = next.2.id then next.2.after? else store.get? id := by
      rw [hperform, Store.get?_commit hadvance]
    rw [hmoment] at hpending
    rw [hpending, hget]
    -- the commit is about this entity, and `hafter` is for that
    by_cases hid : id = next.2.id
    · have hbefore : store.get? id = next.2.before? := by rw [hadvance.before_eq, hid]; rfl
      rw [if_pos hid, if_pos hid.symm, hbefore]
      exact hafter next record? hproposal hadvance _ watched (hbefore ▸ hT id) hwatched
    · -- the commit is about another entity
      rw [if_neg hid, if_neg (Ne.symm hid), Pending.after_self]
      exact hT id

end Installed

/-! ## What the system has to do -/

variable (upkeep) in
/-- The registered documents are known, and the registered materials were made before `mark`.  As
marks are never given out twice, a material that is made now is not one that is registered. -/
structure Dated (known : Shared Json → Prop) (mark : Nat) (store : Store) : Prop where
  documents : ∀ id entity, store.get? id = some entity →
    ∀ tree, entity.get? upkeep.trees.tree = some (.json tree) → known tree
  materials : ∀ id entity, store.get? id = some entity →
    ∀ resource, entity.get? upkeep.trees.material = some (.resource resource) →
      resource.mark < mark

lemma Dated.mono {known' : Shared Json → Prop} {mark' : Nat} (h : upkeep.Dated known mark store)
    (hknown : ∀ tree, known tree → known' tree) (hmark : mark ≤ mark') :
    upkeep.Dated known' mark' store where
  documents := fun id entity hentity tree htree =>
    hknown _ (h.documents id entity hentity tree htree)
  materials := fun id entity hentity resource hresource =>
    Nat.lt_of_lt_of_le (h.materials id entity hentity resource hresource) hmark

variable (upkeep) in
/-- A store that keeps track of what the system has to do: the system is installed, its objects are
dated, and the record about each entity says what is to be done with it. -/
structure Tracks (known : Shared Json → Prop) (mark : Nat) (store : Store) : Prop
    extends upkeep.Installed store, upkeep.Dated known mark store where
  traces : ∀ id, upkeep.Traces (store.pendingOf upkeep.consumer id) (store.get? id)

variable (upkeep) in
/-- A command takes nothing out of the records of the consumer, leaves materials alone, and brings
in only known documents.  A command that is refused, or changes nothing, has no commit and is
harmless in the last two respects. -/
structure Harmless (known : Shared Json → Prop) (store : Store) (command : StoreCommand) :
    Prop where
  drain : command ≠ .drain upkeep.consumer
  reset : command ≠ .resetConsumer upkeep.consumer
  spares : ∀ next record?, store.proposal? command = some next →
    store.current.Advances next record? → upkeep.Spares known next.2

/-- What holds of the material of every entity, and would hold without one, still holds after a
harmless command. -/
lemma Harmless.slots_perform (hcommand : upkeep.Harmless known store command)
    (hs : store.current.WellFormed) {P : Option ComponentValue → Prop} (hnone : P none)
    (hP : ∀ id entity, store.get? id = some entity → P (entity.get? upkeep.trees.material)) :
    ∀ id entity, (store.perform command).get? id = some entity →
      P (entity.get? upkeep.trees.material) := by
  refine Store.values_perform hs hP fun next record? hproposal hadvance entity hentity => ?_
  rcases (hcommand.spares next record? hproposal hadvance).slot entity hentity with
    hslot | ⟨hslot, -⟩
  · rw [hslot]
    cases hbefore : next.2.before? with
    | none => exact hnone
    | some before => exact hP next.2.id before (hadvance.before_eq.symm.trans hbefore)
  · exact hslot ▸ hnone

lemma Tracks.perform (h : upkeep.Tracks known mark store)
    (hcommand : upkeep.Harmless known store command) :
    upkeep.Tracks known mark (store.perform command) where
  toInstalled := h.toInstalled.perform command
  documents := Store.values_perform h.current.2 h.documents
    fun next record? hproposal hadvance =>
      (hcommand.spares next record? hproposal hadvance).known
  materials := hcommand.slots_perform h.current.2
    (P := fun value? => ∀ resource, value? = some (.resource resource) → resource.mark < mark)
    (fun _ hresource => by cases hresource) h.materials
  traces := h.toInstalled.records_perform h.traces hcommand.drain hcommand.reset
    fun next record? hproposal hadvance _ _ htraces hwatched =>
      htraces.after (hcommand.spares next record? hproposal hadvance) hwatched

lemma Tracks.mono {known' : Shared Json → Prop} {mark' : Nat} (h : upkeep.Tracks known mark store)
    (hknown : ∀ tree, known tree → known' tree) (hmark : mark ≤ mark') :
    upkeep.Tracks known' mark' store where
  toInstalled := h.toInstalled
  toDated := h.toDated.mono hknown hmark
  traces := h.traces

variable (upkeep) in
/-- A store that keeps track; as long as the system has not run, no entity has a material.  This is
why the consumer can be reset before the first run without losing anything. -/
structure Awaits (started : Bool) (known : Shared Json → Prop) (mark : Nat) (store : Store) : Prop
    extends upkeep.Tracks known mark store where
  bare : started = false → ∀ id entity, store.get? id = some entity →
    entity.get? upkeep.trees.material = none

lemma Awaits.perform {started : Bool} (h : upkeep.Awaits started known mark store)
    (hcommand : upkeep.Harmless known store command) :
    upkeep.Awaits started known mark (store.perform command) where
  toTracks := h.toTracks.perform hcommand
  bare := fun hstarted => hcommand.slots_perform h.current.2
    (P := fun value? => value? = none) rfl (h.bare hstarted)

/-! ## Entity operations -/

/-- A tree counts as changed if its mark is not that of the registered one.  Its content may be the
same: documents are compared by identity. -/
lemma contains_changed_of_mark {entity : Entity} {shared : Shared Json}
    (hs : store.current.WellFormed) (h : store.current.register entity = .ok next)
    (htree : entity.get? upkeep.trees.tree = some (.json shared))
    (hmarks : ∀ old, (store.get? entity.id).bind (·.get? upkeep.trees.tree) = some (.json old) →
      old.mark ≠ shared.mark) :
    next.2.changed.contains upkeep.trees.tree = true := by
  rw [StoreState.contains_changed_of_register hs h, htree, Bool.not_eq_true']
  change ComponentValue.unchanged ((store.get? entity.id).bind _) _ = false
  cases hold : (store.get? entity.id).bind (·.get? upkeep.trees.tree) with
  | none => rfl
  | some old =>
    cases old with
    | json old => exact beq_false_of_ne (hmarks old hold)
    | _ => rfl

/-- A value that keeps the material, or takes it away together with a change of the tree, leaves
materials alone.  The other two hypotheses keep a document from being passed off as another one
under its mark. -/
lemma spares_of_register {entity : Entity} (hs : store.current.WellFormed)
    (h : store.current.register entity = .ok next) (heffective : next.2.isNoop = false)
    (hslot : entity.get? upkeep.trees.material =
        (store.get? entity.id).bind (·.get? upkeep.trees.material) ∨
      entity.get? upkeep.trees.material = none ∧
        next.2.changed.contains upkeep.trees.tree = true)
    (hmarks : ∀ old new,
      (store.get? entity.id).bind (·.get? upkeep.trees.tree) = some (.json old) →
      entity.get? upkeep.trees.tree = some (.json new) → new.mark = old.mark → new = old)
    (hknown : ∀ tree, entity.get? upkeep.trees.tree = some (.json tree) → known tree) :
    upkeep.Spares known next.2 := by
  have hafter := StoreState.after_of_register hs h heffective
  obtain ⟨-, hbefore, -⟩ := StoreState.commit_of_register h
  -- the three parts of `Spares` are read off the registered value
  constructor
  · intro entity' hentity'
    obtain rfl : entity = entity' := Option.some.inj (hafter.symm.trans hentity')
    rw [hbefore]
    exact hslot
  · intro entity' hentity' hkept
    obtain rfl : entity = entity' := Option.some.inj (hafter.symm.trans hentity')
    rw [StoreState.contains_changed_of_register hs h, Bool.not_eq_false'] at hkept
    rw [document?, hbefore, ComponentValue.bind_asJson?_of_unchanged hkept hmarks]
    cases store.current.get? entity.id <;> rfl
  · intro entity' hentity'
    obtain rfl : entity = entity' := Option.some.inj (hafter.symm.trans hentity')
    exact hknown

end Upkeep

/-- A value of an entity from outside: it has the material of the value that is registered under its
identifier, and its document is known.  Objects are told apart by their marks, so a document with
the mark of the registered one is the registered one. -/
structure Store.AdmitsValue (known : Shared Json → Prop) (store : Store) (entity : Entity) :
    Prop where
  /-- The material is the registered one, or none if the entity is not registered. -/
  material : store.schema.valueOf? entity Components.material =
    (store.get? entity.id).bind fun old => store.schema.valueOf? old Components.material
  /-- The document is a known one. -/
  known : ∀ tree, store.schema.valueOf? entity Components.shaderTree = some (.json tree) →
    known tree
  /-- A document under the mark of the registered one is that document. -/
  marks : ∀ old tree,
    ((store.get? entity.id).bind fun old => store.schema.valueOf? old Components.shaderTree) =
      some (.json old) →
    store.schema.valueOf? entity Components.shaderTree = some (.json tree) → tree.mark = old.mark →
    tree = old

/-- The entity operations that leave materials alone.  Values have to be admitted; an update in
place must not be one of the material; a deregistration or a flagged update can do no harm. -/
def Store.Admits (known : Shared Json → Prop) (store : Store) : StoreCommand → Prop
  | .register entity => store.AdmitsValue known entity
  | .quickEntity id components => ∀ entity,
    store.setComponents (store.schema.createEntity id) components = .ok entity →
    store.AdmitsValue known entity
  | .updateInPlace id name f => name ≠ Components.material ∧ ∀ old tree,
    store.getComponent? id name = some old → f old = .json tree → known tree
  | .deregister _ | .flagUpdate _ _ => True
  | _ => False

namespace Upkeep

variable {upkeep : Upkeep} {store : Store} {command : StoreCommand} {known : Shared Json → Prop}
  {mark : Nat} {next : StoreState × Commit} {record? : Option EntityRecord}

/-- A component that is not the material gets another value. -/
lemma spares_of_set {id : EntityId} {entity : Entity} {c : ComponentId} {new : ComponentValue}
    (hknown : ∀ tree, entity.get? upkeep.trees.tree = some (.json tree) → known tree)
    (hc : upkeep.trees.material ≠ c)
    (hnew : ∀ tree, new = .json tree → known tree) :
    upkeep.Spares known ⟨id, some entity, some (entity.set c new), .ofList [c]⟩ where
  slot := by
    intro after hafter
    obtain rfl := Option.some.inj hafter
    exact .inl (by rw [Entity.get?_set, if_neg hc, Option.bind_some])
  document := by
    intro after hafter hkept
    obtain rfl := Option.some.inj hafter
    have hne : upkeep.trees.tree ≠ c := by
      rintro rfl
      rw [← Bool.not_eq_true, ComponentSet.contains_ofList] at hkept
      exact hkept (List.mem_singleton_self _)
    rw [document?, Entity.get?_set, if_neg hne, Option.bind_some, document?]
  known := by
    intro after hafter tree htree
    obtain rfl := Option.some.inj hafter
    rw [Entity.get?_set] at htree
    split at htree
    · exact hnew tree (Option.some.inj htree)
    · exact hknown tree htree

/-- The commit of an entity operation that leaves materials alone does so. -/
lemma spares_of_admits (h : upkeep.Tracks known mark store) (hadmits : store.Admits known command)
    (hproposal : store.proposal? command = some next)
    (hadvance : store.current.Advances next record?) : upkeep.Spares known next.2 := by
  have hschema : store.schema = upkeep.schema := h.current.1
  have htree : ∀ entity, store.schema.valueOf? entity Components.shaderTree =
      entity.get? upkeep.trees.tree := by
    intro entity
    rw [hschema, Schema.valueOf?, upkeep.tree_eq, Option.bind_some]
  have hmaterial : ∀ entity, store.schema.valueOf? entity Components.material =
      entity.get? upkeep.trees.material := by
    intro entity
    rw [hschema, upkeep.valueOf?_material]
  -- an operation that proposes a commit registers, takes out, updates or flags an entity
  cases Store.edits_of_proposal hproposal with
  | @registers _ value _ hcommand hregister =>
    have hvalue : store.AdmitsValue known value := by
      rcases hcommand with rfl | ⟨id, components, rfl, hcomponents⟩
      · exact hadmits
      · exact hadmits value hcomponents
    obtain ⟨hslot, hknown, hmarks⟩ := hvalue
    simp only [htree, hmaterial] at hslot hknown hmarks
    exact spares_of_register h.current.2 hregister hadvance.effective (.inl hslot) hmarks hknown
  | deregisters hnone =>
    constructor <;> intro entity hafter <;> rw [hnone] at hafter <;> cases hafter
  | @updates id name f c entity old _ hname hentity hold hcommit =>
    have hc : upkeep.trees.material ≠ c := by
      rintro rfl
      rw [hschema] at hname
      have hsame := (Schema.of_id?_eq_some hname).2
      rw [(Schema.of_id?_eq_some upkeep.material_eq).2] at hsame
      exact hadmits.1 hsame.symm
    have hcomponent : store.getComponent? id name = some old := by
      rw [Store.getComponent?, hname, hentity]
      exact hold
    rw [hcommit]
    exact spares_of_set (h.documents id entity hentity) hc
      fun tree hnew => hadmits.2 old tree hcomponent hnew
  | @flags id _ _ entity _ _ hentity hcommit =>
    rw [hcommit]
    refine ⟨fun after hafter => .inl ?_, fun after hafter _ => ?_, fun after hafter => ?_⟩
    · obtain rfl := Option.some.inj hafter
      rfl
    · obtain rfl := Option.some.inj hafter
      rfl
    · obtain rfl := Option.some.inj hafter
      exact h.documents id entity hentity

/-- Entity operations that leave materials alone are harmless. -/
lemma harmless_of_admits (h : upkeep.Tracks known mark store)
    (hadmits : store.Admits known command) : upkeep.Harmless known store command where
  drain := by
    rintro rfl
    exact hadmits
  reset := by
    rintro rfl
    exact hadmits
  spares := fun _ _ hproposal hadvance => spares_of_admits h hadmits hproposal hadvance

end Upkeep

end SceneEngine
