import SceneEngine.Proofs.Engine.Creation
import SceneEngine.Proofs.Engine.Messages
import SceneEngine.Proofs.Store.Groups
import SceneEngine.Proofs.Store.Systems

/-!
# Trees by name

A tree that arrives replaces the one that its name has.  In a store that nothing else writes to
there is one entity for each name under which a tree was sent, it has the tree that was sent last
(`Upkeep.HoldsLatest`), and unless its material is right the compiling system is told to compile it
(`Upkeep.Prompts`).  A message keeps this up (`Upkeep.Collected.apply`), and a run of the system
puts the materials right without touching anything else (`Upkeep.Collected.run`).

## What is looked up

The tree of a message goes to what the query of the system finds under the name of the message, and
not to what a list of messages says.  `Upkeep.Finds` has what is needed of the query: it is keyed by
the material name and answers from groups that are up to date, so that it finds exactly the entities
with this name and a tree (`Upkeep.Finds.lookup_eq`).  With one entity for each name that was sent,
the answer is that entity or nothing at all (`Upkeep.Keyed.lookup_cases`).

## What a message does

If the name is there, its entity is registered again with the tree under a new mark; if it is not, a
new entity is made under an identifier that must not be in use.  Either way one value is registered
and nothing else happens, and `Upkeep.Collected.write` is about just that: the tree counts as
changed because its mark is new, so the record of the entity asks for a compile, and the list of
messages is longer by one.

## What a run does

The invariant of runs (`Proofs/Engine/Compiling`) is put up from the collected one, with the right
material of an entity for the goal.  A run writes materials only, so the stores before and after
agree, and names and documents are those that were sent.
-/

namespace SceneEngine

open LiveLink (Message)
open Shading (Material)

/-! ## What was sent -/

namespace LiveLink

/-- The tree that was sent last under a name.  Messages of other kinds may have the same name and do
not count. -/
def latestTree? (messages : List Message) (name : String) : Option Json :=
  (messages.reverse.find? fun message =>
    decide (message.kind = .shaderTree ∧ message.name = name)).map Message.data

lemma latestTree?_concat (messages : List Message) (message : Message) (name : String) :
    latestTree? (messages ++ [message]) name =
      if message.kind = .shaderTree ∧ message.name = name then some message.data
      else latestTree? messages name := by
  rw [latestTree?, List.reverse_append, List.reverse_singleton, List.singleton_append,
    List.find?_cons]
  by_cases hsent : message.kind = .shaderTree ∧ message.name = name
  · rw [if_pos hsent, decide_eq_true hsent]
    rfl
  · rw [if_neg hsent, decide_eq_false hsent]
    rfl

end LiveLink

open LiveLink (latestTree?)

/-- A value is grouped under a text exactly if it is this text. -/
lemma IndexKey.of?_eq_text_iff {value : ComponentValue} {text : String} :
    IndexKey.of? value = some (.text text) ↔ value.asText? = some text := by
  cases value <;> simp [of?, ComponentValue.asText?]

namespace Upkeep

variable {σ : Type} {upkeep : Upkeep} {store store' : Store} {scene : Scene σ}
  {messages : List Message} {message : Message} {name : String} {tree : Json} {id : EntityId}
  {entity value : Entity} {p : Pending} {entity? : Option Entity}

/-- An entity with a name and a document is one for the system. -/
lemma concerns_of (hname : upkeep.name? entity = some name)
    (hdocument : upkeep.document? entity = some tree) : upkeep.concerns entity = true := by
  obtain ⟨text, htext, -⟩ := Option.bind_eq_some_iff.mp hname
  obtain ⟨json, hjson, -⟩ := Option.bind_eq_some_iff.mp hdocument
  rw [concerns, Entity.has_of_get? htext, Entity.has_of_get? hjson]
  rfl

/-! ## Entities by name -/

variable (upkeep) in
/-- A store in which the query of the system finds entities by name: it is live, asks for what the
system is concerned with, and is keyed by the material name. -/
structure Finds (store : Store) : Prop extends store.Indexed upkeep.schema where
  keyed : ∃ live, store.query upkeep.trees.query = .ok live ∧ upkeep.Asks live.query ∧
    live.query.key? = some upkeep.name

lemma Finds.perform (h : upkeep.Finds store) (command : StoreCommand) :
    upkeep.Finds (store.perform command) where
  toIndexed := Store.indexed_perform store command h.toIndexed
  keyed := by
    obtain ⟨live, hquery, hasks, hkey⟩ := h.keyed
    obtain ⟨live', hquery', hsame⟩ := Store.query_perform h.current.2 hquery command
    exact ⟨live', hquery', hsame ▸ hasks, hsame ▸ hkey⟩

variable (upkeep) in
/-- A store in which the compiling system is installed and its query finds entities by name.  The
query that is drained and the one that is looked up are one and the same. -/
structure Keyed (store : Store) : Prop extends upkeep.Installed store, upkeep.Finds store

lemma Keyed.perform (h : upkeep.Keyed store) (command : StoreCommand) :
    upkeep.Keyed (store.perform command) :=
  { h.toInstalled.perform command, h.toFinds.perform command with }

lemma Keyed.run (h : upkeep.Keyed store) (commands : List StoreCommand) :
    upkeep.Keyed (store.run commands) :=
  Store.run_preserves (fun _ command h => h.perform command) h commands

/-- A name is looked up among the entities that have a name and a tree. -/
lemma Finds.lookup_eq (h : upkeep.Finds store) (name : String) :
    ∃ ids, store.lookup upkeep.trees.query (.text name) = .ok ids ∧ ids.Nodup ∧
      ∀ id, id ∈ ids ↔ ∃ entity, store.get? id = some entity ∧ upkeep.concerns entity = true ∧
        upkeep.name? entity = some name := by
  obtain ⟨live, hquery, hasks, hkey⟩ := h.keyed
  have hmem : live ∈ store.queries := List.mem_of_getElem? (Store.query_eq_ok_iff.mp hquery)
  refine ⟨live.lookup (.text name), by rw [Store.lookup, hquery]; rfl, live.nodup_lookup _,
    fun id => ?_⟩
  -- a name that is no text is under no key, and so cannot be found
  have hkeyOf : ∀ entity, live.keyOf? entity = some (.text name) ↔
      upkeep.name? entity = some name := by
    intro entity
    rw [LiveQuery.keyOf?, hkey, Option.bind_some, name?]
    cases entity.get? upkeep.name with
    | none => simp
    | some value => exact IndexKey.of?_eq_text_iff
  rw [h.grouped live hmem, h.upToDate live hmem, Query.selects_iff]
  constructor
  · rintro ⟨⟨entity, hentity, haccepts⟩, hfound⟩
    rw [hentity, Option.bind_some, hkeyOf] at hfound
    exact ⟨entity, hentity, hasks.accepts_eq entity ▸ haccepts, hfound⟩
  · rintro ⟨entity, hentity, hconcerned, hname⟩
    have hentity : store.current.get? id = some entity := hentity
    refine ⟨⟨entity, hentity, hasks.accepts_eq entity ▸ hconcerned⟩, ?_⟩
    rw [hentity, Option.bind_some, hkeyOf]
    exact hname

variable (upkeep) in
/-- There is one entity for each name under which a tree was sent.  It has the tree that was sent
last, and there are no other entities. -/
structure HoldsLatest (messages : List Message) (store : Store) : Prop where
  /-- Every entity has a name, and the tree that was sent last under it. -/
  sent : ∀ id entity, store.get? id = some entity → ∃ name tree,
    upkeep.name? entity = some name ∧ upkeep.document? entity = some tree ∧
      latestTree? messages name = some tree
  /-- Every name under which a tree was sent is that of an entity. -/
  found : ∀ name tree, latestTree? messages name = some tree → ∃ id entity,
    store.get? id = some entity ∧ upkeep.name? entity = some name
  /-- No two entities have one name. -/
  unique : ∀ id id' entity entity', store.get? id = some entity → store.get? id' = some entity' →
    upkeep.name? entity = upkeep.name? entity' → id = id'

/-- Materials do not matter, as neither names nor documents depend on them. -/
lemma HoldsLatest.of_agree (h : upkeep.HoldsLatest messages store)
    (hagree : upkeep.StoresAgree store store') : upkeep.HoldsLatest messages store' where
  sent := by
    intro id entity hentity
    obtain ⟨old, hold, hsame⟩ := hagree.exists_old hentity
    rw [hsame.name?_eq, hsame.document?_eq]
    exact h.sent id old hold
  found := by
    intro name tree hlatest
    obtain ⟨id, old, hold, hname⟩ := h.found name tree hlatest
    obtain ⟨entity, hentity, hsame⟩ := hagree.exists_new hold
    exact ⟨id, entity, hentity, hsame.name?_eq.trans hname⟩
  unique := by
    intro id id' entity entity' hentity hentity' hname
    obtain ⟨old, hold, hsame⟩ := hagree.exists_old hentity
    obtain ⟨old', hold', hsame'⟩ := hagree.exists_old hentity'
    rw [hsame.name?_eq, hsame'.name?_eq] at hname
    exact h.unique id id' old old' hold hold' hname

/-- A message of another kind does not matter. -/
lemma HoldsLatest.skip (h : upkeep.HoldsLatest messages store)
    (hkind : message.kind ≠ .shaderTree) : upkeep.HoldsLatest (messages ++ [message]) store := by
  have hsame : latestTree? (messages ++ [message]) = latestTree? messages := by
    funext name
    rw [LiveLink.latestTree?_concat, if_neg fun hsent => hkind hsent.1]
  exact ⟨by rw [hsame]; exact h.sent, by rw [hsame]; exact h.found, h.unique⟩

/-- The tree of a message is given to the entity of its name, or to a new one if there is none.
`hholder` says that the entity is the only one of this name, before as well as afterwards. -/
lemma HoldsLatest.place (h : upkeep.HoldsLatest messages store)
    (hkind : message.kind = .shaderTree) (hname : upkeep.name? value = some message.name)
    (hdocument : upkeep.document? value = some message.data)
    (hholder : ∀ id' entity, store.get? id' = some entity →
      (upkeep.name? entity = some message.name ↔ id' = id))
    (hget : ∀ id', store'.get? id' = if id' = id then some value else store.get? id') :
    upkeep.HoldsLatest (messages ++ [message]) store' where
  sent := by
    intro id' entity hentity
    rw [hget] at hentity
    split at hentity
    next =>
      obtain rfl := Option.some.inj hentity
      refine ⟨message.name, message.data, hname, hdocument, ?_⟩
      rw [LiveLink.latestTree?_concat, if_pos ⟨hkind, rfl⟩]
    next hid =>
      obtain ⟨name, tree, hname', hdocument', hlatest⟩ := h.sent id' entity hentity
      refine ⟨name, tree, hname', hdocument', ?_⟩
      rw [LiveLink.latestTree?_concat, if_neg, hlatest]
      rintro ⟨-, rfl⟩
      exact hid ((hholder id' entity hentity).mp hname')
  found := by
    intro name tree hlatest
    -- the name of the message is that of the value, and all others are as before
    by_cases hsame : message.name = name
    · exact ⟨id, value, by rw [hget, if_pos rfl], by rw [hname, hsame]⟩
    · rw [LiveLink.latestTree?_concat, if_neg fun hsent => hsame hsent.2] at hlatest
      obtain ⟨id', entity, hentity, hname'⟩ := h.found name tree hlatest
      refine ⟨id', entity, ?_, hname'⟩
      rw [hget, if_neg, hentity]
      intro hid
      rw [(hholder id' entity hentity).mpr hid] at hname'
      exact hsame (Option.some.inj hname')
  unique := by
    intro id₁ id₂ entity₁ entity₂ hentity₁ hentity₂ hsame
    rw [hget] at hentity₁ hentity₂
    -- two entities of one name are both the value, or neither is
    split at hentity₁
    next hid₁ =>
      obtain rfl := Option.some.inj hentity₁
      split at hentity₂
      next hid₂ => exact hid₁.trans hid₂.symm
      next hid₂ => exact absurd ((hholder id₂ entity₂ hentity₂).mp (hsame ▸ hname)) hid₂
    next hid₁ =>
      split at hentity₂
      next hid₂ =>
        obtain rfl := Option.some.inj hentity₂
        exact absurd ((hholder id₁ entity₁ hentity₁).mp (hsame.trans hname)) hid₁
      next => exact h.unique id₁ id₂ entity₁ entity₂ hentity₁ hentity₂ hsame

/-- A name finds the one entity that has it, or nothing if no tree was sent under it. -/
lemma Keyed.lookup_cases (h : upkeep.Keyed store) (hholds : upkeep.HoldsLatest messages store)
    (name : String) :
    (latestTree? messages name = none ∧
        store.lookup upkeep.trees.query (.text name) = .ok [] ∧
        ∀ id entity, store.get? id = some entity → upkeep.name? entity ≠ some name) ∨
      ∃ tree id entity, latestTree? messages name = some tree ∧
        store.lookup upkeep.trees.query (.text name) = .ok [id] ∧
        store.get? id = some entity ∧ upkeep.name? entity = some name ∧
        upkeep.document? entity = some tree := by
  obtain ⟨ids, hlookup, hnodup, hids⟩ := h.lookup_eq name
  -- what was sent says whether there is an entity, and the query finds it
  cases hlatest : latestTree? messages name with
  | none =>
    have hnone : ∀ id entity, store.get? id = some entity → upkeep.name? entity ≠ some name := by
      intro id entity hentity hname
      obtain ⟨name', tree, hname', -, hlatest'⟩ := hholds.sent id entity hentity
      obtain rfl := Option.some.inj (hname.symm.trans hname')
      cases hlatest.symm.trans hlatest'
    have hempty : ids = [] := by
      refine List.eq_nil_iff_forall_not_mem.mpr fun id hid => ?_
      obtain ⟨entity, hentity, -, hname⟩ := (hids id).mp hid
      exact hnone id entity hentity hname
    exact .inl ⟨rfl, hempty ▸ hlookup, hnone⟩
  | some tree =>
    obtain ⟨id, entity, hentity, hname⟩ := hholds.found name tree hlatest
    obtain ⟨name', tree', hname', hdocument, hlatest'⟩ := hholds.sent id entity hentity
    obtain rfl := Option.some.inj (hname.symm.trans hname')
    obtain rfl := Option.some.inj (hlatest.symm.trans hlatest')
    have hsingle : ids = [id] := by
      refine List.perm_singleton.mp ((List.perm_ext_iff_of_nodup hnodup
        (List.nodup_singleton id)).mpr fun id' => (hids id').trans ⟨?_, fun hid' => ?_⟩)
      · rintro ⟨entity', hentity', -, hname''⟩
        exact List.mem_singleton.mpr
          (hholds.unique id' id entity' entity hentity' hentity (hname''.trans hname.symm))
      · rw [List.mem_singleton.mp hid']
        exact ⟨entity, hentity, concerns_of hname hdocument, hname⟩
    exact .inr ⟨tree, id, entity, rfl, hsingle ▸ hlookup, hentity, hname, hdocument⟩

/-! ## Scenes that collect trees -/

variable (upkeep) in
/-- What the consumer holds about an entity: it is one for the system, it has not left, and unless
its material is right it is new or has a new tree. -/
structure Prompts (p : Pending) (entity? : Option Entity) : Prop where
  /-- It has not left. -/
  stays : p.removed? = none
  /-- It has a name and a tree. -/
  concerned : ∀ entity, entity? = some entity → upkeep.concerns entity = true
  /-- It will be compiled, or is as it should be. -/
  todo : ∀ entity, entity? = some entity →
    p.isNew = true ∨ p.changed.contains upkeep.trees.tree = true ∨ upkeep.Dressed entity

/-- A value with a new tree is compiled, whatever was there before.  An entity that enters the query
is new, and of one that is in it the tree changes. -/
lemma Prompts.after {watched : ComponentSet} (h : upkeep.Prompts p entity?)
    (hconcerned : upkeep.concerns value = true)
    (hwatched : watched.contains upkeep.trees.tree = true) :
    upkeep.Prompts (p.after (entity?.any upkeep.concerns) (upkeep.concerns value) entity? watched)
      (some value) := by
  have hvalue : ∀ entity, some value = some entity → upkeep.concerns entity = true :=
    fun entity hentity => Option.some.inj hentity ▸ hconcerned
  rw [hconcerned]
  cases hentity : entity? with
  | none => exact ⟨h.stays, hvalue, fun _ _ => .inl rfl⟩
  | some entity =>
    rw [Option.any_some, h.concerned entity hentity]
    refine ⟨h.stays, hvalue, fun _ _ => .inr (.inl ?_)⟩
    rw [Pending.after, ComponentSet.contains_union, hwatched, Bool.or_true]

variable (upkeep) in
/-- A scene whose store has collected the trees of messages.  All that it holds was made before, and
the record about every entity asks for a compile unless its material is right. -/
structure Collected (messages : List Message) (scene : Scene σ) : Prop
    extends upkeep.Keyed scene.store,
      upkeep.Dated (fun tree => tree.mark < scene.supply.next) scene.supply.next scene.store,
      upkeep.HoldsLatest messages scene.store where
  prompts : ∀ id, upkeep.Prompts (scene.store.pendingOf upkeep.consumer id) (scene.store.get? id)

lemma Collected.surround {scene' : Scene σ} (h : upkeep.Collected messages scene)
    (hstore : scene'.store = scene.store) (hsupply : scene.supply.next ≤ scene'.supply.next) :
    upkeep.Collected messages scene' where
  toKeyed := hstore ▸ h.toKeyed
  toDated := hstore ▸ h.toDated.mono (fun _ htree => Nat.lt_of_lt_of_le htree hsupply) hsupply
  toHoldsLatest := hstore ▸ h.toHoldsLatest
  prompts := hstore ▸ h.prompts

lemma preserves_collected {α : Type} {act : Act σ α} (hact : act.SparesStore) :
    act.Preserves (upkeep.Collected messages) :=
  fun scene h => h.surround (hact scene).1 (hact scene).2

/-- A value is registered that has the name of a message and its tree under a new mark, and the
material that its entity had.  The command may be any that registers this value, so that messages
for new names and for old ones both come down to this lemma. -/
lemma Collected.write (h : upkeep.Collected messages scene) {command : StoreCommand}
    {next : StoreState × Commit} {supply : Supply} (hkind : message.kind = .shaderTree)
    (hcommits : command.commits = true) (hproposal : scene.store.proposal? command = some next)
    (hregister : scene.store.current.register value = .ok next)
    (hname : upkeep.name? value = some message.name)
    (htree : value.get? upkeep.trees.tree = some (.json ⟨scene.supply.next, message.data⟩))
    (hmaterial : value.get? upkeep.trees.material =
      (scene.store.get? value.id).bind (·.get? upkeep.trees.material))
    (hholder : ∀ id entity, scene.store.get? id = some entity →
      (upkeep.name? entity = some message.name ↔ id = value.id))
    (hsupply : scene.supply.next < supply.next) :
    upkeep.Collected (messages ++ [message])
      { scene with store := scene.store.perform command, supply } := by
  have hs := h.current.2
  have hdocument : upkeep.document? value = some message.data := by
    rw [document?, htree]
    rfl
  have hchanged := contains_changed_of_mark hs hregister htree fun old hold => by
    obtain ⟨entity, hentity, hslot⟩ := Option.bind_eq_some_iff.mp hold
    exact Nat.ne_of_lt (h.documents value.id entity hentity old hslot)
  have hadvance := StoreState.advances_of_register hs hregister hchanged
  have hafter := StoreState.after_of_register hs hregister hadvance.effective
  have hget : ∀ id, (scene.store.perform command).get? id =
      if id = value.id then some value else scene.store.get? id := by
    intro id
    rw [Store.perform_of_commits _ hcommits, hproposal, Option.elim_some,
      Store.get?_commit_of_register hs hregister hchanged]
  -- what is to be shown of all entities is shown of the value and of those that were there
  have hvalues : ∀ {P : Entity → Prop}, P value →
      (∀ id entity, scene.store.get? id = some entity → P entity) →
      ∀ id entity, (scene.store.perform command).get? id = some entity → P entity := by
    intro P hP hall id entity hentity
    rw [hget] at hentity
    split at hentity
    next => exact Option.some.inj hentity ▸ hP
    next => exact hall id entity hentity
  refine {
    toKeyed := h.toKeyed.perform command
    toHoldsLatest := h.toHoldsLatest.place hkind hname hdocument hholder hget
    documents := hvalues (fun tree hslot => ?_) fun id entity hentity tree hslot =>
      Nat.lt_trans (h.documents id entity hentity tree hslot) hsupply
    materials := hvalues (fun resource hslot => ?_) fun id entity hentity resource hslot =>
      Nat.lt_trans (h.materials id entity hentity resource hslot) hsupply
    prompts := ?_ }
  · rw [htree] at hslot
    exact ComponentValue.json.inj (Option.some.inj hslot) ▸ hsupply
  · rw [hmaterial] at hslot
    obtain ⟨entity, hentity, hslot⟩ := Option.bind_eq_some_iff.mp hslot
    exact Nat.lt_trans (h.materials value.id entity hentity resource hslot) hsupply
  · refine h.toInstalled.records_perform h.prompts (by rintro rfl; cases hcommits)
      (by rintro rfl; cases hcommits) fun next' _ hproposal' _ p watched hp hwatched => ?_
    obtain rfl : next = next' := Option.some.inj (hproposal.symm.trans hproposal')
    rw [hafter, Option.any_some]
    exact hp.after (concerns_of hname hdocument) (hwatched.trans hchanged)

/-! ## Messages -/

variable (upkeep) in
/-- Any entity can have what a new one has, a name and a tree. -/
def Grants : Prop :=
  ∀ id c, (upkeep.schema.createEntity id).has c = true ∨ c = upkeep.name ∨ c = upkeep.trees.tree →
    c.val < upkeep.schema.size ∧ upkeep.schema.isSingleton c = false

/-- If the name of a message is not there, a new entity gets the tree.  Its identifier must not be
in use. -/
lemma Collected.create (h : upkeep.Collected messages scene) (hgrants : upkeep.Grants)
    (hkind : message.kind = .shaderTree)
    (hunnamed : ∀ id entity, scene.store.get? id = some entity →
      upkeep.name? entity ≠ some message.name)
    (hfresh : scene.store.get? id = none) (named : Shared String)
    (hnamed : named.content = message.name) {supply : Supply}
    (hsupply : scene.supply.next < supply.next) :
    upkeep.Collected (messages ++ [message])
      { scene with
        store := scene.store.perform (.quickEntity id [(Components.materialName, .text named),
          (Components.shaderTree, .json ⟨scene.supply.next, message.data⟩)])
        supply } := by
  have hschema : scene.store.schema = upkeep.schema := h.current.1
  have hcomponents := setComponents_eq hschema (scene.store.schema.createEntity id) (.text named)
    (.json ⟨scene.supply.next, message.data⟩)
  rw [hschema] at hcomponents
  generalize hvalue : ((upkeep.schema.createEntity id).set upkeep.name (.text named)).set
    upkeep.trees.tree (.json ⟨scene.supply.next, message.data⟩) = value at hcomponents
  have hid : value.id = id := by
    rw [← hvalue]
    exact Schema.id_createEntity upkeep.schema id
  have hslot : ∀ c, value.get? c = if c = upkeep.trees.tree then
      some (.json ⟨scene.supply.next, message.data⟩) else
        if c = upkeep.name then some (.text named)
        else (upkeep.schema.createEntity id).get? c := by
    intro c
    rw [← hvalue, Entity.get?_set, Entity.get?_set]
  have hget : scene.store.get? value.id = none := hid ▸ hfresh
  obtain ⟨next, hregister⟩ : ∃ next, scene.store.current.register value = .ok next := by
    refine StoreState.exists_register h.current.2 h.exclusive fun c hc => .inr ?_
    rw [h.current.1]
    refine hgrants id c ?_
    rw [Entity.has_eq_isSome, hslot] at hc
    split at hc
    next heq => exact .inr (.inr heq)
    next =>
      split at hc
      next heq => exact .inr (.inl heq)
      next => exact .inl (Entity.has_eq_isSome.trans hc)
  have hproposal : scene.store.proposal? (.quickEntity id [(Components.materialName, .text named),
      (Components.shaderTree, .json ⟨scene.supply.next, message.data⟩)]) = some next := by
    rw [Store.proposal?, hschema, hcomponents]
    exact congrArg Except.toOption hregister
  refine h.write hkind rfl hproposal hregister ?_ (by rw [hslot, if_pos rfl]) ?_
    (fun id' entity hentity => ?_) hsupply
  · rw [name?, hslot, if_neg upkeep.name_ne_tree, if_pos rfl, ← hnamed]
    rfl
  · rw [hslot, if_neg upkeep.material_ne_tree, if_neg upkeep.material_ne_name, upkeep.unseeded,
      hget, Option.bind_none]
  · refine iff_of_false (hunnamed id' entity hentity) ?_
    rintro rfl
    cases hget.symm.trans hentity

/-- If the name of a message is there, its entity gets the tree. -/
lemma Collected.replace (h : upkeep.Collected messages scene)
    (hkind : message.kind = .shaderTree) (hentity : scene.store.get? id = some entity)
    (hname : upkeep.name? entity = some message.name) {supply : Supply}
    (hsupply : scene.supply.next < supply.next) :
    upkeep.Collected (messages ++ [message])
      { scene with
        store := scene.store.perform (.register
          (entity.set upkeep.trees.tree (.json ⟨scene.supply.next, message.data⟩)))
        supply } := by
  have hconcerned := (h.prompts id).concerned entity hentity
  rw [concerns, Bool.and_eq_true] at hconcerned
  obtain rfl : entity.id = id := h.current.2.id_eq hentity
  generalize hvalue : entity.set upkeep.trees.tree (.json ⟨scene.supply.next, message.data⟩) = value
  have hslot : ∀ c, value.get? c = if c = upkeep.trees.tree then
      some (.json ⟨scene.supply.next, message.data⟩) else entity.get? c := by
    intro c
    rw [← hvalue, Entity.get?_set]
  have hget : scene.store.get? value.id = some entity := by
    rw [← hvalue, ← hentity]
    rfl
  -- it has no component that it did not have
  obtain ⟨next, hregister⟩ : ∃ next, scene.store.current.register value = .ok next := by
    refine StoreState.exists_register h.current.2 h.exclusive fun c hc => .inl ⟨entity, hget, ?_⟩
    rwa [← hvalue, Entity.has_set hconcerned.2] at hc
  refine h.write hkind rfl (toOption_eq_some_iff.mpr hregister) hregister ?_
    (by rw [hslot, if_pos rfl]) ?_ (fun id' entity' hentity' => ?_) hsupply
  · rw [name?, hslot, if_neg upkeep.name_ne_tree]
    exact hname
  · rw [hslot, if_neg upkeep.material_ne_tree, hget, Option.bind_some]
  · constructor
    · exact fun hsame =>
        h.unique id' value.id entity' entity hentity' hget (hsame.trans hname.symm)
    · rintro rfl
      obtain rfl := Option.some.inj (hget.symm.trans hentity')
      exact hname

/-- A tree that arrives is given to the entity of its name.  If there is none a new one is made,
whose identifier must not be in use. -/
lemma Collected.apply (h : upkeep.Collected messages scene) (hgrants : upkeep.Grants)
    (hkind : message.kind = .shaderTree)
    (hfresh : scene.store.lookup upkeep.trees.query (.text message.name) = .ok [] →
      scene.store.get? (scene.supply.share message.data).2.draw.1 = none) :
    upkeep.Collected (messages ++ [message])
      ((upkeep.trees.apply message.name message.data).after scene) := by
  rcases h.lookup_cases h.toHoldsLatest message.name with
    ⟨-, hlookup, hunnamed⟩ | ⟨tree, id, entity, -, hlookup, hentity, hname, -⟩
  · rw [ShaderTrees.after_apply_of_unknown hlookup]
    exact h.create hgrants hkind hunnamed (hfresh hlookup) ⟨scene.supply.next + 2, message.name⟩
      rfl (Nat.lt_add_of_pos_right (by decide))
  · have hlater : Store.get? { scene with supply := ⟨scene.supply.next + 1⟩ }.store id =
      some entity := hentity
    rw [ShaderTrees.after_apply_of_known hlookup (List.cons_ne_nil _ _),
      ShaderTrees.after_replaceTrees_singleton hlater]
    exact h.replace hkind hentity hname (Nat.lt_succ_self _)

/-! ## Runs -/

/-- What the system does to the store is done by store commands. -/
lemma operates_hook (upkeep : Upkeep) (time : Float) (call : Invocation) (hook : Act σ Outcome)
    (hhook : upkeep.system.hook? time call = some hook) : hook.Operates fun _ => True := by
  have hput : ∀ entity, (ShaderTrees.put entity : Act σ Outcome).Operates fun _ => True :=
    fun entity scene => ⟨[.register entity], fun _ _ => trivial,
      congrArg Scene.store (ShaderTrees.after_put entity scene)⟩
  have hdrop : ∀ id, (upkeep.trees.dropMaterial id : Act σ Outcome).Operates fun _ => True := by
    intro id
    rw [ShaderTrees.dropMaterial]
    refine (Act.operates_of_same fun _ => rfl).bind fun store => ?_
    split
    · exact Act.operates_of_same fun _ => rfl
    · split
      · exact hput _
      · exact Act.operates_of_same fun _ => rfl
  have hgiveUp : ∀ id failure,
      (upkeep.trees.giveUp id failure : Act σ Outcome).Operates fun _ => True := by
    intro id failure
    refine (hdrop id).bind fun outcome => ?_
    split <;> exact Act.operates_of_same fun _ => rfl
  have hcompile : ∀ id, (upkeep.trees.compile .standard upkeep.withDepth id :
      Act σ Outcome).Operates fun _ => True := by
    intro id
    rw [ShaderTrees.compile]
    refine (Act.operates_of_same fun _ => rfl).bind fun store => ?_
    dsimp only
    split
    · exact Act.operates_of_same fun _ => rfl
    · split
      · exact hgiveUp _ _
      · split
        · exact hgiveUp _ _
        · exact (Act.operates_of_same fun _ => rfl).bind fun _ => hput _
  cases call with
  | removed entity =>
    obtain rfl := Option.some.inj hhook
    exact hdrop entity.id
  | newOrUpdated entity changed? =>
    obtain rfl := Option.some.inj hhook
    dsimp only
    split
    · exact Act.operates_of_same fun _ => rfl
    · exact hcompile entity.id
  | forNew | forUpdated | each => cases hhook

/-- The hooks of the system keep the store keyed. -/
lemma Keyed.invokeAll (h : upkeep.Keyed scene.store) (time : Float) (calls : List Invocation) :
    upkeep.Keyed ((upkeep.system.invokeAll time calls).after scene).store := by
  obtain ⟨hookCalls, hcalls, -⟩ := System.exists_calls (operates_hook upkeep time) calls scene
  rw [hcalls.store_eq]
  exact h.run _

/-- What the consumer hands out of a scene that has collected trees: nothing has left, and what is
not dressed is compiled. -/
lemma Collected.drain (h : upkeep.Collected messages scene) {delta : Delta} {next : Store}
    (hdrain : scene.store.drain upkeep.consumer = .ok (delta, next)) :
    delta.removed = [] ∧ ∀ id entity, scene.store.get? id = some entity →
      upkeep.Dressed entity ∨ ∃ call ∈ delta.arrivals, upkeep.compiled? call = some id := by
  obtain ⟨hremoved, -, -⟩ := Store.mem_drain h.toAccountable hdrain
  refine ⟨List.eq_nil_iff_forall_not_mem.mpr fun entity hentity => ?_, fun id entity hentity => ?_⟩
  · have hsome := (hremoved entity.id).mp (List.mem_map_of_mem hentity)
    rw [(h.prompts entity.id).stays] at hsome
    cases hsome
  · have hcompiled := exists_compiled?_of_drain h.toInstalled hdrain id
    rcases (h.prompts id).todo entity hentity with hnew | htree | hdressed
    · exact .inr (hcompiled.mpr ⟨entity, hentity, .inl hnew⟩)
    · exact .inr (hcompiled.mpr ⟨entity, hentity, .inr htree⟩)
    · exact .inl hdressed

/-- **A run dresses every entity.**  When a run comes to an end, the store has still collected the
same trees, and every entity has the material that its tree compiles to under its name. -/
theorem Collected.run (h : upkeep.Collected messages scene) (time : Float) :
    let scene' := (upkeep.system.run time).after scene
    upkeep.Collected messages scene' ∧
      ∀ id entity, scene'.store.get? id = some entity → upkeep.Dressed entity := by
  intro scene'
  obtain ⟨delta, next, hdrain, hsame, hstart⟩ := exists_start h.toInstalled h.toDated
  obtain ⟨hleft, htodo⟩ := h.drain hdrain
  have hget : ∀ id, next.get? id = scene.store.get? id := fun id => by
    rw [Store.get?, hsame, Store.get?]
  obtain ⟨hrunning, hagree, hdressed⟩ := hstart.compileAll (fun _ hcall => hcall) time
    (fun _ hdressed _ => hdressed)
    (fun _ _ id _ entity hentity => (h.prompts id).concerned entity (hget id ▸ hentity))
    (fun id entity hentity => htodo id entity (hget id ▸ hentity))
  have hnext : scene.store.perform (.drain upkeep.consumer) = next := by
    rw [Store.perform, hdrain, except_map_ok, Store.orSame_ok]
  have hdrained : upkeep.Keyed next := hnext ▸ h.toKeyed.perform (.drain upkeep.consumer)
  have hkeyed := @Keyed.invokeAll σ upkeep { scene with store := next } hdrained time
    delta.arrivals
  obtain ⟨log, hlog⟩ := after_run hdrain time
  have hscene' : scene' = _ := hlog
  rw [Delta.agenda_eq, hleft, List.map_nil, List.nil_append] at hscene'
  generalize (upkeep.system.invokeAll time delta.arrivals).after { scene with store := next } = last
    at hrunning hagree hdressed hkeyed hscene'
  have hagree' : upkeep.StoresAgree scene.store last.store :=
    (storesAgree_of_current hsame).trans hagree
  rw [hscene']
  refine ⟨{
    toKeyed := hkeyed
    toDated := hrunning.toDated.mono
      (fun _ htree => Nat.lt_of_lt_of_le htree hrunning.mark_le) (Nat.le_refl _)
    toHoldsLatest := h.toHoldsLatest.of_agree hagree'
    prompts := fun id => ⟨(hrunning.settled id).removed, fun entity hentity => ?_,
      fun entity hentity => .inr (.inr (hdressed id entity hentity))⟩ }, hdressed⟩
  obtain ⟨old, hold, hsame⟩ := hagree'.exists_old hentity
  rw [hsame.concerns_eq]
  exact (h.prompts id).concerned old hold

/-- A reset tells the system to compile everything. -/
lemma Collected.reset (h : upkeep.Collected messages scene) :
    ∃ next, scene.store.resetConsumer upkeep.consumer = .ok next ∧
      upkeep.Collected messages { scene with store := next } := by
  obtain ⟨next, hreset, hperform, hcurrent, hpending⟩ := h.toInstalled.reset
  have hget : ∀ id, next.get? id = scene.store.get? id := fun id => by
    rw [Store.get?, hcurrent, Store.get?]
  have hkeyed : upkeep.Keyed next := hperform ▸ h.toKeyed.perform _
  refine ⟨next, hreset, {
    toKeyed := hkeyed
    toHoldsLatest := h.toHoldsLatest.of_agree (storesAgree_of_current hcurrent)
    documents := fun id entity hentity => h.documents id entity (hget id ▸ hentity)
    materials := fun id entity hentity => h.materials id entity (hget id ▸ hentity)
    prompts := fun id => ?_ }⟩
  obtain ⟨hstays, hconcerned, -⟩ := h.prompts id
  have hprompts : upkeep.Prompts (next.pendingOf upkeep.consumer id) (next.get? id) := by
    rw [hpending, hget]
    refine ⟨hstays, hconcerned, fun entity hentity => .inl ?_⟩
    rw [hentity, Option.any_some, hconcerned entity hentity]
  exact hprompts

/-- The store of a new engine has collected nothing. -/
lemma collected_serving {historyDepth : Nat} {query : Query} {app : σ} {supply : Supply}
    (hconsumer : upkeep.consumer = ⟨0⟩) (hquery : upkeep.trees.query = ⟨0⟩)
    (hresolve : ShaderTrees.spec.resolve upkeep.schema = .ok query) :
    upkeep.Collected []
      { store := .serving upkeep.schema historyDepth query, supply, log := [], app } where
  toInstalled := installed_serving hconsumer hresolve
  grouped := (serving_eq_run hresolve ▸ Store.indexed_run upkeep.schema historyDepth
    [.createQuery ShaderTrees.spec, .createConsumer ⟨0⟩] :
      (Store.serving upkeep.schema historyDepth query).Indexed upkeep.schema).grouped
  keyed := by
    obtain ⟨hasks, hkey⟩ := asks_of_resolve hresolve
    refine ⟨.start query (StoreState.empty upkeep.schema), by rw [hquery]; rfl, ?_⟩
    rw [(LiveQuery.start_eq query _).1]
    exact ⟨hasks, hkey⟩
  documents := fun _ _ hentity => by cases hentity
  materials := fun _ _ hentity => by cases hentity
  sent := fun _ _ hentity => by cases hentity
  found := fun _ _ hlatest => by cases hlatest
  unique := fun _ _ _ _ hentity => by cases hentity
  prompts := fun id => by
    have hprompts : upkeep.Prompts {} none := ⟨rfl, nofun, nofun⟩
    rw [pendingOf_serving hconsumer]
    exact hprompts

/-- Over the standard components any entity can have what a new one has, a name and a tree. -/
lemma grants_of_standard {supply : Supply}
    (hschema : Schema.build (standardComponents.run supply).1 = .ok upkeep.schema) :
    upkeep.Grants := by
  intro id c hc
  have hname : c.val < upkeep.schema.size ∧ upkeep.schema.name c ≠ Components.camera := by
    rcases hc with hhas | rfl | rfl
    · obtain ⟨d, hd, hseeded⟩ := Schema.exists_seeded hhas
      rw [(Schema.flags_of_standard hschema hd).1] at hseeded
      exact ⟨(List.getElem?_eq_some_iff.mp hd).1, by rw [hseeded]; decide⟩
    · obtain ⟨hdeclared, hsame⟩ := Schema.of_id?_eq_some upkeep.name_eq
      exact ⟨hdeclared, by rw [hsame]; decide⟩
    · obtain ⟨hdeclared, hsame⟩ := Schema.of_id?_eq_some upkeep.tree_eq
      exact ⟨hdeclared, by rw [hsame]; decide⟩
  exact ⟨hname.1, Schema.isSingleton_of_standard hschema hname.2⟩

/-! ## Materials by name -/

/-- When every entity is dressed, the material of a name is what the tree that was sent last under
it compiles to. -/
lemma Collected.material?_eq (h : upkeep.Collected messages scene)
    (hdressed : ∀ id entity, scene.store.get? id = some entity → upkeep.Dressed entity)
    (name : String) :
    (upkeep.trees.material? scene.store name).map Shared.content =
      (latestTree? messages name).bind fun tree =>
        (Material.compile .standard name tree upkeep.withDepth).toOption := by
  rcases h.lookup_cases h.toHoldsLatest name with
    ⟨hlatest, hlookup, -⟩ | ⟨tree, id, entity, hlatest, hlookup, hentity, hname, hdocument⟩
  · rw [ShaderTrees.material?, hlookup, hlatest]
    rfl
  · have hmaterial : upkeep.trees.material? scene.store name =
        (entity.get? upkeep.trees.material).bind ComponentValue.asMaterial? := by
      rw [ShaderTrees.material?, hlookup]
      dsimp only
      rw [List.findSome?_singleton, hentity]
      rfl
    have hwanted : upkeep.wantedMaterial? entity =
        (Material.compile .standard name tree upkeep.withDepth).toOption := by
      rw [wantedMaterial?, hdocument, hname]
      rfl
    have hdressed := hdressed id entity hentity
    rw [Dressed, hwanted] at hdressed
    rw [hmaterial, hlatest, Option.bind_some]
    cases hcompile : (Material.compile .standard name tree upkeep.withDepth).toOption with
    | none =>
      rw [hcompile] at hdressed
      rw [hdressed]
      rfl
    | some material =>
      rw [hcompile] at hdressed
      obtain ⟨mark, hslot⟩ := hdressed
      rw [hslot]
      rfl

end Upkeep

end SceneEngine
