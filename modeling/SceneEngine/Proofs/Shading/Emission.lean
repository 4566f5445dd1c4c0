import SceneEngine.Proofs.Attempts
import SceneEngine.Proofs.Shading.Expressions
import SceneEngine.Proofs.Shading.Inclusion
import SceneEngine.Shading.NodeKind

/-!
# Writing code

The code of a node is written in a monad that reads where the code will stand and collects what has
been declared, what the node requires, which names are taken and the statements so far.  This module
says what a step of writing may do, and proves it of the basic steps, so that the node types can be
dealt with by composition.

## Scope

Statements are in scope when each of them reads only names that are known or declared before it
(`Scoped`).  What is known from outside are the variables of the nodes that feed the node, and the
parameters, attributes and passed values that the node requires.  Which of these a name is can be
told from its form, so the conditions do not interfere.

## What steps keep

`Declarations.Tame` says that everything is declared under a name of the form for its kind and that
fragments stand behind their dependencies; `Requirements.BackedBy` that what a node requires has
been declared.  Together they are the invariant of writing, `Emission.Sound`.  `Emission.Keeps`
relates the states before and after a step that writes no statement: the invariant holds, and
nothing declared, required or taken is given back.

## What steps give

`Emit.Gives` says that whenever a step runs in a sound state it keeps all this and its result has a
property.  The names that a step gives are those that the node requires from then on, so a property
of a result such as "reads only known names" depends on the state in which the step ends:
`Emit.Obtains` lets it speak about the names known then, and asks that what is known only grows.
Both compose along the monad's bind.

The rest of the module proves one of the two for every basic step: declaring, including, passing
values between the stages, reading operands and taking new names.
-/

namespace SceneEngine.Shading

open Identifier

variable {α β : Type} {known known' : String → Prop}

/-! ## Statements -/

/-- The variable that a statement declares. -/
def Statement.variableName? : Statement → Option String
  | .declare _ name _ => some name
  | .verbatim _ => none

/-- The variables that statements declare, in their order.  A program is well formed when this list
has no duplicates. -/
def declared (statements : List Statement) : List String :=
  statements.filterMap Statement.variableName?

/-- Every statement declares a variable, and the names in its value are known or declared before
it. -/
inductive Scoped : (String → Prop) → List Statement → Prop
  /-- Nothing is to be read. -/
  | nil {known : String → Prop} : Scoped known []
  /-- The variable of a statement may be read behind it, but not by itself. -/
  | declare {known : String → Prop} {type : SocketType} {name value : String}
    {statements : List Statement} (hvalue : Reads known value)
    (hrest : Scoped (fun x => known x ∨ x = name) statements) :
    Scoped known (.declare type name value :: statements)

namespace Scoped

variable {statements more : List Statement}

/-- Statements stay in scope when more is known. -/
lemma mono (h : Scoped known statements) (hknown : ∀ x, known x → known' x) :
    Scoped known' statements := by
  induction h generalizing known' with
  | nil => exact .nil
  | declare hvalue _ ih => exact .declare (hvalue.mono hknown) (ih fun x => .imp_left (hknown x))

/-- Statements may be followed by others that read what they declare. -/
lemma append (h : Scoped known statements)
    (hmore : Scoped (fun x => known x ∨ x ∈ declared statements) more) :
    Scoped known (statements ++ more) := by
  induction h with
  | nil => exact hmore.mono fun x hx => hx.resolve_right List.not_mem_nil
  | declare hvalue _ ih =>
    refine .declare hvalue (ih (hmore.mono fun x hx => ?_))
    rw [or_assoc]
    exact hx.imp_right List.mem_cons.mp

end Scoped

/-! ## Declared names -/

/-- What a value that passes between the stages is assigned from. -/
inductive IsSource : String → String → Prop
  /-- The values about the surface have sources of their own. -/
  | ofSurface {name source : String} (h : (name, source) ∈ surfaceValues) : IsSource name source
  /-- An attribute is passed on under a name that corresponds to it. -/
  | ofAttribute (name : String) : IsSource ("v_" ++ name) ("a_" ++ name)

/-- The flags that node types set. -/
def flags : List String := ["USE_OBJECT_INFO"]

/-- Everything is declared under a name of the form for its kind, and fragments stand behind their
dependencies. -/
structure Declarations.Tame (library : FragmentLibrary) (declarations : Declarations) : Prop where
  /-- The flags are among those known, -/
  defines : ∀ x ∈ declarations.defines, x ∈ flags
  /-- the names of parameters, passed values and attributes have different forms, -/
  uniforms : ∀ x ∈ declarations.uniforms.keys, IsName x ∧ isParameter x = true
  varyings : ∀ x ∈ declarations.varyings.keys, IsName x ∧ isPassed x = true
  /-- passed values have a source in the vertex program -/
  sources : ∀ entry ∈ declarations.varyings.entries, IsSource entry.1 entry.2.source
  attributes : ∀ x ∈ declarations.attributes.keys, IsName x ∧ isAttribute x = true
  /-- and no fragment stands ahead of one that it needs. -/
  includes : library.IsOrdered declarations.includes

/-- Whatever is declared remains so. -/
structure Declarations.Within (declarations declarations' : Declarations) : Prop where
  uniforms : ∀ x ∈ declarations.uniforms.keys, x ∈ declarations'.uniforms.keys
  varyings : ∀ x ∈ declarations.varyings.keys, x ∈ declarations'.varyings.keys
  attributes : ∀ x ∈ declarations.attributes.keys, x ∈ declarations'.attributes.keys
  includes : ∀ x ∈ declarations.includes, x ∈ declarations'.includes

/-- The parameters, attributes and passed values that some code relies on.  Fragments are no names:
what they define occurs in no statement but as a call. -/
def Requirements.Names (requires : Requirements) (x : String) : Prop :=
  x ∈ requires.uniforms ∨ x ∈ requires.varyings ∨ x ∈ requires.attributes

/-- What some code relies on is declared, the fragments with their dependencies and the passed
attributes with the attributes themselves. -/
structure Requirements.BackedBy (requires : Requirements) (library : FragmentLibrary)
    (declarations : Declarations) : Prop where
  uniforms : ∀ x ∈ requires.uniforms, x ∈ declarations.uniforms.keys
  varyings : ∀ x ∈ requires.varyings, x ∈ declarations.varyings.keys
  attributes : ∀ x ∈ requires.attributes, x ∈ declarations.attributes.keys
  includes : ∀ x ∈ requires.includes, x ∈ declarations.includes
  /-- A node that includes a fragment includes what it needs, ahead of it, -/
  ordered : library.IsOrdered requires.includes
  /-- and a node that takes an attribute over relies on the attribute in the vertex program. -/
  passed : ∀ name, "v_" ++ name ∈ requires.varyings → "a_" ++ name ∈ requires.attributes

section

variable {library : FragmentLibrary} {declarations declarations' declarations'' : Declarations}
  {requires : Requirements} {x : String}

namespace Declarations.Within

lemma refl (declarations : Declarations) : declarations.Within declarations :=
  ⟨fun _ => id, fun _ => id, fun _ => id, fun _ => id⟩

lemma trans (h : declarations.Within declarations') (h' : declarations'.Within declarations'') :
    declarations.Within declarations'' :=
  ⟨fun x hx => h'.uniforms x (h.uniforms x hx), fun x hx => h'.varyings x (h.varyings x hx),
    fun x hx => h'.attributes x (h.attributes x hx), fun x hx => h'.includes x (h.includes x hx)⟩

end Declarations.Within

lemma Declarations.tame_empty : Declarations.Tame library {} :=
  ⟨List.forall_mem_nil _, List.forall_mem_nil _, List.forall_mem_nil _, List.forall_mem_nil _,
    List.forall_mem_nil _, FragmentLibrary.isOrdered_empty⟩

namespace Requirements.BackedBy

lemma empty : Requirements.BackedBy {} library declarations :=
  ⟨List.forall_mem_nil _, List.forall_mem_nil _, List.forall_mem_nil _, List.forall_mem_nil _,
    FragmentLibrary.isOrdered_empty, fun _ h => absurd h List.not_mem_nil⟩

lemma mono (h : requires.BackedBy library declarations)
    (hwithin : declarations.Within declarations') : requires.BackedBy library declarations' :=
  ⟨fun x hx => hwithin.uniforms x (h.uniforms x hx),
    fun x hx => hwithin.varyings x (h.varyings x hx),
    fun x hx => hwithin.attributes x (h.attributes x hx),
    fun x hx => hwithin.includes x (h.includes x hx), h.ordered, h.passed⟩

/-- What is required can be told from the variables of the code by the form of its name. -/
lemma isGlobal_of_names (h : requires.BackedBy library declarations)
    (htame : declarations.Tame library) (hx : requires.Names x) : isGlobal x = true := by
  rw [isGlobal_iff]
  rcases hx with hx | hx | hx
  · exact .inr (.inl (htame.uniforms x (h.uniforms x hx)).2)
  · exact .inr (.inr (htame.varyings x (h.varyings x hx)).2)
  · exact .inl (htame.attributes x (h.attributes x hx)).2

end Requirements.BackedBy

end

/-! ## Steps -/

/-- What a node relies on is declared, with fragments of a library without cyclic dependencies.
This is the invariant of writing code. -/
structure Emission.Sound (library : FragmentLibrary) (e : Emission) : Prop where
  layered : library.IsLayered
  tame : e.declarations.Tame library
  backed : e.requires.BackedBy library e.declarations

/-- The names that can be read: those known from outside, and those that the node requires. -/
def Emission.Knows (e : Emission) (outer : String → Prop) (x : String) : Prop :=
  outer x ∨ e.requires.Names x

/-- Nothing is written between two states, and nothing declared, required or named is given
back. -/
structure Emission.Keeps (library : FragmentLibrary) (e e' : Emission) : Prop where
  /-- The invariant holds afterwards, -/
  sound : e'.Sound library
  /-- what was declared still is, -/
  within : e.declarations.Within e'.declarations
  /-- what was required still is, -/
  requires : ∀ x, e.requires.Names x → e'.requires.Names x
  /-- names that were taken stay so, -/
  used : e.names.used ⊆ e'.names.used
  /-- and the statements are those there were. -/
  statements : e'.statements = e.statements

namespace Emission

variable {library : FragmentLibrary} {e e' e'' : Emission} {x name source : String}

namespace Keeps

lemma refl (h : e.Sound library) : e.Keeps library e :=
  ⟨h, .refl _, fun _ => id, List.Subset.refl _, rfl⟩

lemma trans (h : e.Keeps library e') (h' : e'.Keeps library e'') : e.Keeps library e'' :=
  ⟨h'.sound, h.within.trans h'.within, fun x hx => h'.requires x (h.requires x hx),
    List.Subset.trans h.used h'.used, h'.statements.trans h.statements⟩

lemma knows {outer : String → Prop} (h : e.Keeps library e') (hx : e.Knows outer x) :
    e'.Knows outer x :=
  hx.imp_right (h.requires x)

end Keeps

namespace Sound

variable (h : e.Sound library)
include h

/-- Declaring a parameter. -/
lemma keeps_uniform (hname : IsName name ∧ isParameter name = true) (default : UniformValue) :
    e.Keeps library
      { e with
        declarations :=
          { e.declarations with uniforms := e.declarations.uniforms.insertIfNew name default }
        requires := { e.requires with uniforms := e.requires.uniforms.insert name } } := by
  refine ⟨⟨h.layered, ⟨h.tame.defines, fun x hx => ?_, h.tame.varyings, h.tame.sources,
    h.tame.attributes, h.tame.includes⟩, ⟨fun x hx => ?_, h.backed.varyings, h.backed.attributes,
    h.backed.includes, h.backed.ordered, h.backed.passed⟩⟩, ⟨fun x hx => ?_, fun _ => id,
    fun _ => id, fun _ => id⟩, fun x hx => ?_, List.Subset.refl _, rfl⟩
  · rcases OrderedMap.mem_keys_insertIfNew.mp hx with rfl | hx
    · exact hname
    · exact h.tame.uniforms x hx
  · rw [OrderedMap.mem_keys_insertIfNew]
    exact (OrderedSet.mem_insert.mp hx).imp_right (h.backed.uniforms x)
  · exact OrderedMap.mem_keys_insertIfNew.mpr (.inr hx)
  · exact hx.imp_left fun hx => OrderedSet.mem_insert.mpr (.inr hx)

/-- Declaring an attribute. -/
lemma keeps_attribute (hname : IsName name ∧ isAttribute name = true) (type : SocketType) :
    e.Keeps library
      { e with
        declarations :=
          { e.declarations with attributes := e.declarations.attributes.insertIfNew name type }
        requires := { e.requires with attributes := e.requires.attributes.insert name } } := by
  refine ⟨⟨h.layered, ⟨h.tame.defines, h.tame.uniforms, h.tame.varyings, h.tame.sources,
    fun x hx => ?_, h.tame.includes⟩, ⟨h.backed.uniforms, h.backed.varyings, fun x hx => ?_,
    h.backed.includes, h.backed.ordered, fun v hv => ?_⟩⟩, ⟨fun _ => id, fun _ => id,
    fun x hx => ?_, fun _ => id⟩, fun x hx => ?_, List.Subset.refl _, rfl⟩
  · rcases OrderedMap.mem_keys_insertIfNew.mp hx with rfl | hx
    · exact hname
    · exact h.tame.attributes x hx
  · rw [OrderedMap.mem_keys_insertIfNew]
    exact (OrderedSet.mem_insert.mp hx).imp_right (h.backed.attributes x)
  · exact OrderedSet.mem_insert.mpr (.inr (h.backed.passed v hv))
  · exact OrderedMap.mem_keys_insertIfNew.mpr (.inr hx)
  · exact hx.imp_right (Or.imp_right fun hx => OrderedSet.mem_insert.mpr (.inr hx))

/-- Passing a value between the stages; that of an attribute requires the attribute.  The last
condition is about the node and not about the program, since a node must not lean on what another
one has declared. -/
lemma keeps_varying (hname : IsName name ∧ isPassed name = true) (hsource : IsSource name source)
    (hpassed : ∀ v, name = "v_" ++ v → "a_" ++ v ∈ e.requires.attributes) (type : SocketType) :
    e.Keeps library
      { e with
        declarations :=
          { e.declarations with
            varyings := e.declarations.varyings.insertIfNew name ⟨type, source⟩ }
        requires := { e.requires with varyings := e.requires.varyings.insert name } } := by
  refine ⟨⟨h.layered, ⟨h.tame.defines, h.tame.uniforms, fun x hx => ?_, fun entry hentry => ?_,
    h.tame.attributes, h.tame.includes⟩, ⟨h.backed.uniforms, fun x hx => ?_, h.backed.attributes,
    h.backed.includes, h.backed.ordered, fun v hv => ?_⟩⟩, ⟨fun _ => id, fun x hx => ?_,
    fun _ => id, fun _ => id⟩, fun x hx => ?_, List.Subset.refl _, rfl⟩
  · rcases OrderedMap.mem_keys_insertIfNew.mp hx with rfl | hx
    · exact hname
    · exact h.tame.varyings x hx
  · rcases OrderedMap.eq_or_mem_of_mem_insertIfNew hentry with rfl | hentry
    · exact hsource
    · exact h.tame.sources entry hentry
  · rw [OrderedMap.mem_keys_insertIfNew]
    exact (OrderedSet.mem_insert.mp hx).imp_right (h.backed.varyings x)
  · rcases OrderedSet.mem_insert.mp hv with hv | hv
    · exact hpassed v hv.symm
    · exact h.backed.passed v hv
  · exact OrderedMap.mem_keys_insertIfNew.mpr (.inr hx)
  · exact hx.imp_right (Or.imp_left fun hx => OrderedSet.mem_insert.mpr (.inr hx))

/-- Including a fragment, in the program and for the node. -/
lemma keeps_fragment {all own : OrderedSet String}
    (hall : library.Includes [name] e.declarations.includes all)
    (hown : library.Includes [name] e.requires.includes own) :
    e.Keeps library
      { e with
        declarations := { e.declarations with includes := all }
        requires := { e.requires with includes := own } } := by
  refine ⟨⟨h.layered, ⟨h.tame.defines, h.tame.uniforms, h.tame.varyings, h.tame.sources,
    h.tame.attributes, hall.ordered⟩, ⟨h.backed.uniforms, h.backed.varyings, h.backed.attributes,
    fun x hx => ?_, hown.ordered, h.backed.passed⟩⟩, ⟨fun _ => id, fun _ => id, fun _ => id,
    hall.subset⟩, fun _ => id, List.Subset.refl _, rfl⟩
  rcases hown.origin x hx with hx | ⟨other, hother, hreaches⟩
  · exact hall.subset x (h.backed.includes x hx)
  · exact hall.ordered.mem_of_reaches (hall.mem other hother) hreaches

end Sound

end Emission

namespace Emit

variable {site : Site} {e e' e'' : Emission} {a a' : α} {b : β} {u : Unit} {m : Emit α}
  {f : α → Emit β} {P : α → Prop} {Q : β → Prop}

/-- Writing code leads from one state to another and gives a result.  An error leads nowhere. -/
def Runs (m : Emit α) (site : Site) (e : Emission) (a : α) (e' : Emission) : Prop :=
  (m.run site).run e = .ok (a, e')

/-- Steps run one after another. -/
lemma runs_bind : Runs (m >>= f) site e b e'' ↔
    ∃ a e', Runs m site e a e' ∧ Runs (f a) site e' b e'' := by
  simp only [Runs, ReaderT.run_bind, StateT.run_bind, bind_eq_ok_iff, Prod.exists]

lemma runs_pure : Runs (pure a') site e a e' ↔ a = a' ∧ e' = e := by
  constructor
  · intro h
    cases h
    exact ⟨rfl, rfl⟩
  · rintro ⟨rfl, rfl⟩
    rfl

lemma runs_lift {attempt : Except CompileError α} :
    Runs (liftM attempt) site e a e' ↔ attempt = .ok a ∧ e' = e := by
  constructor
  · intro h
    cases attempt with
    | error reason => cases h
    | ok a' =>
      cases h
      exact ⟨rfl, rfl⟩
  · rintro ⟨rfl, rfl⟩
    rfl

lemma runs_read {site' : Site} : Runs read site e site' e' ↔ site' = site ∧ e' = e := by
  constructor
  · intro h
    cases h
    exact ⟨rfl, rfl⟩
  · rintro ⟨rfl, rfl⟩
    rfl

lemma runs_get {e₁ : Emission} : Runs get site e e₁ e' ↔ e₁ = e ∧ e' = e := by
  constructor
  · intro h
    cases h
    exact ⟨rfl, rfl⟩
  · rintro ⟨rfl, rfl⟩
    rfl

lemma runs_modify {g : Emission → Emission} : Runs (modify g) site e u e' ↔ e' = g e := by
  constructor
  · intro h
    cases h
    rfl
  · rintro rfl
    rfl

/-- Whenever the code runs, it writes nothing, requires nothing that is not declared, and its
result satisfies `P`. -/
def Gives (m : Emit α) (P : α → Prop) : Prop :=
  ∀ ⦃site : Site⦄ ⦃e : Emission⦄ ⦃a : α⦄ ⦃e' : Emission⦄, e.Sound site.library →
    Runs m site e a e' → e.Keeps site.library e' ∧ P a

namespace Gives

/-- The first of several steps: it keeps what there is, and the rest runs from where it ends. -/
lemma of_runs_bind (hm : Gives m P) (hsound : e.Sound site.library)
    (h : Runs (m >>= f) site e b e'') :
    ∃ a e', e.Keeps site.library e' ∧ P a ∧ Runs (f a) site e' b e'' := by
  obtain ⟨a, e', hfirst, hrest⟩ := runs_bind.mp h
  obtain ⟨hkeeps, ha⟩ := hm hsound hfirst
  exact ⟨a, e', hkeeps, ha, hrest⟩

/-- What a step gives may be used by the next. -/
lemma bind (hm : Gives m P) (hf : ∀ a, P a → Gives (f a) Q) : Gives (m >>= f) Q := by
  intro site e b e'' hsound h
  obtain ⟨a, e', hkeeps, ha, hrest⟩ := hm.of_runs_bind hsound h
  obtain ⟨hkeeps', hb⟩ := hf a ha hkeeps.sound hrest
  exact ⟨hkeeps.trans hkeeps', hb⟩

lemma pure (ha : P a) : Gives (Pure.pure a) P := by
  intro site e a' e' hsound h
  obtain ⟨rfl, rfl⟩ := runs_pure.mp h
  exact ⟨.refl hsound, ha⟩

lemma throw {reason : CompileError} : Gives (throw reason) P := by
  intro site e a e' _ h
  cases h

lemma lift {attempt : Except CompileError α} (h : ∀ a, attempt = .ok a → P a) :
    Gives (liftM attempt) P := by
  intro site e a e' hsound hruns
  obtain ⟨ha, rfl⟩ := runs_lift.mp hruns
  exact ⟨.refl hsound, h a ha⟩

end Gives

/-- Whenever the code runs, it writes nothing, requires nothing that is not declared, and its
result satisfies `P` for the names that are known then: those known before, among them `known`, and
those that the node requires by then. -/
def Obtains (known : String → Prop) (m : Emit α) (P : (String → Prop) → α → Prop) : Prop :=
  ∀ ⦃site : Site⦄ ⦃e : Emission⦄ ⦃a : α⦄ ⦃e' : Emission⦄ ⦃outer : String → Prop⦄,
    e.Sound site.library → (∀ x, known x → e.Knows outer x) → Runs m site e a e' →
      e.Keeps site.library e' ∧ P (e'.Knows outer) a

namespace Obtains

variable {P : (String → Prop) → α → Prop} {Q : (String → Prop) → β → Prop}

lemma bind (hm : Obtains known m P)
    (hf : ∀ known' a, (∀ x, known x → known' x) → P known' a → Obtains known' (f a) Q) :
    Obtains known (m >>= f) Q := by
  intro site e b e'' outer hsound hknown h
  obtain ⟨a, e', hfirst, hrest⟩ := runs_bind.mp h
  obtain ⟨hkeeps, ha⟩ := hm hsound hknown hfirst
  have hnext := hf (e'.Knows outer) a (fun x hx => hkeeps.knows (hknown x hx)) ha
  obtain ⟨hkeeps', hb⟩ := hnext hkeeps.sound (fun _ => id) hrest
  exact ⟨hkeeps.trans hkeeps', hb⟩

lemma pure (h : ∀ known', (∀ x, known x → known' x) → P known' a) :
    Obtains known (Pure.pure a) P := by
  intro site e a' e' outer hsound hknown hruns
  obtain ⟨rfl, rfl⟩ := runs_pure.mp hruns
  exact ⟨.refl hsound, h _ hknown⟩

lemma mono (hm : Obtains known m P) (h : ∀ x, known x → known' x) : Obtains known' m P :=
  fun _ _ _ _ _ hsound hknown hruns => hm hsound (fun x hx => hknown x (h x hx)) hruns

lemma imp {P' : (String → Prop) → α → Prop} (hm : Obtains known m P)
    (h : ∀ known' a, P known' a → P' known' a) : Obtains known m P' := by
  intro site e a e' outer hsound hknown hruns
  obtain ⟨hkeeps, ha⟩ := hm hsound hknown hruns
  exact ⟨hkeeps, h _ a ha⟩

end Obtains

lemma Gives.obtains (hm : Gives m P) : Obtains known m fun _ => P :=
  fun _ _ _ _ _ hsound _ h => hm hsound h

/-- A step that gives no new names. -/
lemma Gives.bind_obtains {Q : (String → Prop) → β → Prop} (hm : Gives m P)
    (hf : ∀ a, P a → Obtains known (f a) Q) : Obtains known (m >>= f) Q :=
  hm.obtains.bind fun _ a hknown ha => (hf a ha).mono hknown

/-! ## Declaring -/

lemma runs_withFragment {name : String} {included included' : OrderedSet String} :
    Runs (withFragment name included) site e included' e' ↔
      site.library.resolve name included = (included', .ok ()) ∧ e' = e := by
  rw [withFragment, runs_bind]
  constructor
  · rintro ⟨site', e₁, hread, hrest⟩
    obtain ⟨rfl, rfl⟩ := runs_read.mp hread
    split at hrest
    next hresolve =>
      obtain ⟨rfl, rfl⟩ := runs_pure.mp hrest
      exact ⟨hresolve, rfl⟩
    · cases hrest
  · rintro ⟨hresolve, rfl⟩
    refine ⟨site, e', runs_read.mpr ⟨rfl, rfl⟩, ?_⟩
    rw [hresolve]
    exact runs_pure.mpr ⟨rfl, rfl⟩

/-- A fragment is resolved twice, for the program and for the node: what the program includes
already may be new to the node. -/
lemma gives_fragment (name : String) : Gives (fragment name) fun _ => True := by
  intro site e u e' hsound h
  obtain ⟨e₁, e₂, hget, h₁⟩ := runs_bind.mp h
  obtain ⟨he₁, he₂⟩ := runs_get.mp hget
  subst he₁ he₂
  obtain ⟨all, e₃, hall, h₂⟩ := runs_bind.mp h₁
  obtain ⟨hall, rfl⟩ := runs_withFragment.mp hall
  obtain ⟨e₄, e₅, hget, h₃⟩ := runs_bind.mp h₂
  obtain ⟨rfl, rfl⟩ := runs_get.mp hget
  obtain ⟨own, e₆, hown, h₄⟩ := runs_bind.mp h₃
  obtain ⟨hown, rfl⟩ := runs_withFragment.mp hown
  obtain rfl := runs_modify.mp h₄
  -- the program and the node include the fragment independently of each other
  have hall := FragmentLibrary.includes_resolve hsound.layered hsound.tame.includes hall
  have hown := FragmentLibrary.includes_resolve hsound.layered hsound.backed.ordered hown
  exact ⟨hsound.keeps_fragment hall hown, trivial⟩

lemma gives_hook (hook : RenderHook) : Gives (Emit.hook hook) fun _ => True := by
  intro site e u e' hsound h
  obtain rfl := runs_modify.mp h
  obtain ⟨hlayered, htame, hbacked⟩ := hsound
  refine ⟨⟨⟨hlayered, ⟨htame.defines, htame.uniforms, htame.varyings, htame.sources,
    htame.attributes, htame.includes⟩, hbacked.mono ?_⟩, ?_, fun _ => id, List.Subset.refl _, rfl⟩,
    trivial⟩
  · exact ⟨fun _ => id, fun _ => id, fun _ => id, fun _ => id⟩
  · exact ⟨fun _ => id, fun _ => id, fun _ => id, fun _ => id⟩

lemma gives_define {name : String} (hname : name ∈ flags) :
    Gives (define name) fun _ => True := by
  intro site e u e' hsound h
  obtain rfl := runs_modify.mp h
  obtain ⟨hlayered, htame, hbacked⟩ := hsound
  refine ⟨⟨⟨hlayered, ⟨fun x hx => ?_, htame.uniforms, htame.varyings, htame.sources,
    htame.attributes, htame.includes⟩, ⟨hbacked.uniforms, hbacked.varyings, hbacked.attributes,
    hbacked.includes, hbacked.ordered, hbacked.passed⟩⟩, ?_, fun _ => id, List.Subset.refl _, rfl⟩,
    trivial⟩
  · rcases OrderedSet.mem_insert.mp hx with rfl | hx
    · exact hname
    · exact htame.defines x hx
  · exact ⟨fun _ => id, fun _ => id, fun _ => id, fun _ => id⟩

/-- A parameter can be read once it is declared. -/
lemma obtains_uniform {name : String} (hname : IsName name ∧ isParameter name = true)
    (default : UniformValue) : Obtains known (uniform name default) IsOperand := by
  intro site e a e' outer hsound _ h
  obtain ⟨_, _, hmodify, h⟩ := runs_bind.mp h
  obtain rfl := runs_modify.mp hmodify
  obtain ⟨rfl, rfl⟩ := runs_pure.mp h
  refine ⟨hsound.keeps_uniform hname default, .of_isName hname.1 (.inr (.inl ?_))⟩
  exact OrderedSet.mem_insert.mpr (.inl rfl)

lemma obtains_varying {name source : String} (hname : IsName name ∧ isPassed name = true)
    (hsource : (name, source) ∈ surfaceValues) (type : SocketType) :
    Obtains known (varying name type source) IsOperand := by
  intro site e a e' outer hsound _ h
  obtain ⟨_, _, hmodify, h⟩ := runs_bind.mp h
  obtain rfl := runs_modify.mp hmodify
  obtain ⟨rfl, rfl⟩ := runs_pure.mp h
  refine ⟨hsound.keeps_varying hname (.ofSurface hsource) (fun v hv => ?_) type,
    .of_isName hname.1 (.inr (.inr (.inl ?_)))⟩
  · -- no value about the surface is named like that of an attribute
    have hforms : ∀ entry ∈ surfaceValues, ¬['v', '_'].isPrefixOf entry.1.toList = true := by decide
    refine absurd ?_ (hforms _ hsource)
    rw [hv, String.toList_append]
    exact List.isPrefixOf_iff_prefix.mpr (List.prefix_append _ _)
  · exact OrderedSet.mem_insert.mpr (.inl rfl)

lemma runs_stage {stage : Stage} :
    Runs Emit.stage site e stage e' ↔ stage = site.stage ∧ e' = e := by
  constructor
  · intro h
    cases h
    exact ⟨rfl, rfl⟩
  · rintro ⟨rfl, rfl⟩
    rfl

/-- A value about the surface is passed on to the fragment stage, and computed on the spot in the
vertex stage. -/
lemma obtains_interpolated {name source inVertex : String}
    (hname : IsName name ∧ isPassed name = true) (hsource : (name, source) ∈ surfaceValues)
    (hvertex : isPlain inVertex = true) (type : SocketType) :
    Obtains known (interpolated name type source inVertex) IsOperand := by
  have hstage : Gives Emit.stage fun _ => True := by
    intro site e stage e' hsound h
    obtain ⟨-, rfl⟩ := runs_stage.mp h
    exact ⟨.refl hsound, trivial⟩
  refine hstage.bind_obtains fun stage _ => ?_
  cases stage with
  | vertex => exact .pure fun known' _ => .of_isPlain hvertex
  | fragment => exact obtains_varying hname hsource type

lemma isName_surfaceValues : ∀ entry ∈ surfaceValues, IsName entry.1 ∧ isPassed entry.1 = true := by
  decide

lemma obtains_surface {name source inVertex : String} (hsource : (name, source) ∈ surfaceValues)
    (hvertex : isPlain inVertex = true) (type : SocketType) :
    Obtains known (interpolated name type source inVertex) IsOperand :=
  obtains_interpolated (isName_surfaceValues _ hsource) hsource hvertex type

lemma obtains_uv : Obtains known uv IsOperand :=
  obtains_surface (by decide) (by decide +kernel) _

lemma obtains_objectPosition : Obtains known objectPosition IsOperand :=
  obtains_surface (by decide) (by decide +kernel) _

lemma obtains_normal : Obtains known normal IsOperand :=
  obtains_surface (by decide) (by decide +kernel) _

lemma obtains_worldPosition : Obtains known worldPosition IsOperand :=
  obtains_surface (by decide) (by decide +kernel) _

/-- An attribute, and the value that passes it on. -/
lemma obtains_attribute {name : String} (hattribute : IsName ("a_" ++ name))
    (hvarying : IsName ("v_" ++ name)) :
    Obtains known (vertexAttribute ("a_" ++ name) .vec4 >>= fun attributeName =>
      interpolated ("v_" ++ name) .vec4 attributeName attributeName) IsOperand := by
  have hform : ∀ {c : Char} {start : String}, start.toList = [c, '_'] →
      [c, '_'].isPrefixOf (start ++ name).toList = true := by
    intro c start hstart
    rw [String.toList_append, hstart]
    exact List.isPrefixOf_iff_prefix.mpr (List.prefix_append _ _)
  have hpassed : isPassed ("v_" ++ name) = true := by
    rw [isPassed, hasPassedForm, hform rfl, Bool.true_or]
  intro site e a e' outer hsound _ h
  obtain ⟨attributeName, e₁, hfirst, h⟩ := runs_bind.mp h
  obtain ⟨_, _, hmodify, hfirst⟩ := runs_bind.mp hfirst
  obtain rfl := runs_modify.mp hmodify
  obtain ⟨rfl, rfl⟩ := runs_pure.mp hfirst
  have hkeeps := hsound.keeps_attribute ⟨hattribute, hform rfl⟩ .vec4
  obtain ⟨stage, _, hstage, h⟩ := runs_bind.mp h
  obtain ⟨-, rfl⟩ := runs_stage.mp hstage
  cases stage with
  | vertex =>
    obtain ⟨rfl, rfl⟩ := runs_pure.mp h
    exact ⟨hkeeps,
      .of_isName hattribute (.inr (.inr (.inr (OrderedSet.mem_insert.mpr (.inl rfl)))))⟩
  | fragment =>
    obtain ⟨_, _, hmodify, h⟩ := runs_bind.mp h
    obtain rfl := runs_modify.mp hmodify
    obtain ⟨rfl, rfl⟩ := runs_pure.mp h
    have hsame : ∀ v, "v_" ++ name = "v_" ++ v → v = name := by
      intro v hv
      rw [← String.toList_inj, String.toList_append, String.toList_append] at hv
      exact String.toList_inj.mp (List.append_cancel_left hv).symm
    refine ⟨hkeeps.trans (hkeeps.sound.keeps_varying ⟨hvarying, hpassed⟩ (.ofAttribute name)
      (fun v hv => OrderedSet.mem_insert.mpr (.inl (hsame v hv ▸ rfl))) .vec4), ?_⟩
    exact .of_isName hvarying (.inr (.inr (.inl (OrderedSet.mem_insert.mpr (.inl rfl)))))

/-! ## Fresh names -/

lemma runs_freshName {parts : List String} {name : String}
    (h : Runs (freshName parts) site e name e') :
    name = (e.names.allocate parts).1 ∧ e' = { e with names := (e.names.allocate parts).2 } := by
  cases h
  exact ⟨rfl, rfl⟩

lemma keeps_freshName {parts : List String} {name : String} (hsound : e.Sound site.library)
    (h : Runs (freshName parts) site e name e') :
    e.Keeps site.library e' ∧ name = (e.names.allocate parts).1 := by
  obtain ⟨hname, rfl⟩ := runs_freshName h
  refine ⟨⟨⟨hsound.layered, hsound.tame, hsound.backed⟩, .refl _, fun _ => id, ?_, rfl⟩, hname⟩
  rw [NamePool.snd_allocate]
  exact List.subset_cons_self ..

/-- The name of a sampler. -/
lemma isParameter_allocate_tex (pool : NamePool) (image : String) :
    IsName (pool.allocate ["tex", image]).1 ∧
      isParameter (pool.allocate ["tex", image]).1 = true := by
  obtain ⟨hnamed, htidy, -⟩ := pool.allocate_cons (show isStem "tex" = true by decide) [image]
  refine ⟨⟨fun c hc => htidy.isNameChar_of_mem hc, ?_⟩, isParameter_of_isNamedAfter hnamed⟩
  rw [isIdentifier, head?_of_isNamedAfter hnamed rfl]
  rfl

lemma mem_keys_of_samplerOf? {uniforms : UniformTable} {image name : String}
    (h : samplerOf? uniforms image = some name) : name ∈ uniforms.keys := by
  obtain ⟨entry, hentry, hname⟩ := List.exists_of_findSome?_eq_some h
  dsimp only at hname
  split at hname
  · obtain ⟨-, hname⟩ := Option.ite_none_right_eq_some.mp hname
    exact Option.some.inj hname ▸ List.mem_map_of_mem hentry
  · cases hname

lemma obtains_sampler (image : String) : Obtains known (sampler image) IsOperand := by
  intro site e a e' outer hsound hknown h
  obtain ⟨e₁, e₂, hget, hrest⟩ := runs_bind.mp h
  obtain ⟨rfl, rfl⟩ := runs_get.mp hget
  split at hrest
  next shared hshared =>
    obtain ⟨name, e₂, hname, hrest⟩ := runs_bind.mp hrest
    obtain ⟨rfl, rfl⟩ := runs_pure.mp hname
    have hform := hsound.tame.uniforms name (mem_keys_of_samplerOf? hshared)
    exact obtains_uniform hform _ hsound hknown hrest
  next =>
    obtain ⟨name, e₂, hname, hrest⟩ := runs_bind.mp hrest
    obtain ⟨hkeeps, hallocate⟩ := keeps_freshName hsound hname
    have hform : IsName name ∧ isParameter name = true :=
      hallocate ▸ isParameter_allocate_tex _ image
    obtain ⟨hkeeps', hoperand⟩ :=
      obtains_uniform hform _ hkeeps.sound (fun x hx => hkeeps.knows (hknown x hx)) hrest
    exact ⟨hkeeps.trans hkeeps', hoperand⟩

/-! ## Helper variables -/

/-- A helper variable gets a new name. -/
lemma runs_freshLocal {suffix name : String} (h : Runs (freshLocal suffix) site e name e') :
    IsVariable name ∧ name ∉ e.names.used ∧ e' = { e with names := ⟨name :: e.names.used⟩ } := by
  obtain ⟨site', e₁, hread, hrest⟩ := runs_bind.mp h
  obtain ⟨rfl, rfl⟩ := runs_read.mp hread
  obtain ⟨hname, he'⟩ := runs_freshName hrest
  obtain ⟨hvariable, hnew⟩ := e₁.names.allocate_variable [site'.node, suffix]
  rw [he', NamePool.snd_allocate, hname]
  exact ⟨hvariable, hnew, rfl⟩

lemma runs_statement {s : Statement} (h : Runs (statement s) site e u e') :
    e' = { e with statements := e.statements ++ [s] } :=
  runs_modify.mp h

end Emit

end SceneEngine.Shading
