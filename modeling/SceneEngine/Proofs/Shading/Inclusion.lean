import SceneEngine.Proofs.Shading.Resolution
import SceneEngine.Shading.FragmentLibrary.Builtin

/-!
# Included fragments

When a node asks for a fragment of the library, the fragment is included together with what it
depends on.  In general that is a search through a graph that may have cycles.  The library at hand
has none, and in such a library more can be said: including a fragment brings in what it needs and
nothing else, and leaves every included fragment behind those that it depends on
(`FragmentLibrary.includes_resolve`).

## Layers

`FragmentLibrary.IsLayered` gives every fragment a height above those of its dependencies.  This
excludes cycles, and bounds the depth of a search by the number of fragments, so a search that may
only go so deep still visits everything.  For the library at hand the heights are given and checked
by evaluation (`isLayered_builtin`).

## Order

`FragmentLibrary.IsOrdered` is what a program needs of the included fragments: whichever is looked
at, its dependencies stand ahead of it.  It is preserved by including, where the general result
about libraries that may have cycles speaks of fragments that are arranged, which is the same once
there are no cycles (`Arranged.isOrdered`).

## Success

Including fails only if a fragment is missing.  If the library has what its fragments depend on
(`FragmentLibrary.IsClosed`), including a fragment that it has succeeds, whatever has been included
before and whatever is being visited at the time.
-/

namespace SceneEngine.Shading

namespace FragmentLibrary

open Relation

variable {library : FragmentLibrary} {name dependency : String} {names : List String}
  {before after : OrderedSet String}

/-- Every fragment has a height above those of its dependencies, and the depth of an inclusion
exceeds all heights. -/
def IsLayered (library : FragmentLibrary) : Prop :=
  ∃ height : String → Nat, (∀ name, height name ≤ library.fragments.size) ∧
    ∀ name dependency, library.Needs name dependency → height dependency < height name

/-- The included fragments are registered, each behind its dependencies. -/
def IsOrdered (library : FragmentLibrary) (included : OrderedSet String) : Prop :=
  ∀ before name after, included.toList = before ++ name :: after →
    (library.get? name).isSome = true ∧ ∀ dependency, library.Needs name dependency →
      dependency ∈ before

/-- Where nothing is included nothing is out of order. -/
lemma isOrdered_empty : library.IsOrdered ∅ := by
  intro before name after h
  cases before with
  | nil => cases h
  | cons _ _ => cases h

/-- What is included is registered. -/
lemma IsOrdered.isSome (h : library.IsOrdered after) (hname : name ∈ after) :
    (library.get? name).isSome = true := by
  obtain ⟨before, rest, hsplit⟩ := List.append_of_mem hname
  exact (h before name rest hsplit).1

/-- What an included fragment depends on is included. -/
lemma IsOrdered.mem_of_needs (h : library.IsOrdered after) (hname : name ∈ after)
    (hneeds : library.Needs name dependency) : dependency ∈ after := by
  obtain ⟨before, rest, hsplit⟩ := List.append_of_mem hname
  have hmem := (h before name rest hsplit).2 dependency hneeds
  rw [← OrderedSet.mem_toList, hsplit]
  exact List.mem_append_left _ hmem

/-- The included fragments are closed under dependencies. -/
lemma IsOrdered.mem_of_reaches (h : library.IsOrdered after) (hname : name ∈ after)
    (hreaches : ReflTransGen library.Needs name dependency) : dependency ∈ after := by
  induction hreaches with
  | refl => exact hname
  | tail _ hneeds ih => exact h.mem_of_needs ih hneeds

/-- A dependency stands ahead of what needs it. -/
lemma IsOrdered.sublist_of_needs (h : library.IsOrdered after) (hname : name ∈ after)
    (hneeds : library.Needs name dependency) : [dependency, name].Sublist after.toList := by
  obtain ⟨before, rest, hsplit⟩ := List.append_of_mem hname
  have hmem := (h before name rest hsplit).2 dependency hneeds
  rw [hsplit]
  have hfirst : [dependency].Sublist before := List.singleton_sublist.mpr hmem
  exact hfirst.append (List.Sublist.cons_cons name (List.nil_sublist rest))

/-- Fragments in order are arranged, with none about to be included. -/
lemma IsOrdered.arranged (h : library.IsOrdered after) : library.Arranged [] after where
  registered _ hx := h.isSome hx
  complete _ hx _ hneeds := .inl (h.mem_of_needs hx hneeds)
  behind _ hx _ hneeds := .inl (h.sublist_of_needs hx hneeds)

/-- Without cycles, arranged fragments are in order. -/
lemma Arranged.isOrdered (h : library.Arranged [] after)
    (hacyclic : ∀ name, ¬TransGen library.Needs name name) : library.IsOrdered after := by
  intro front name rest hsplit
  have hname : name ∈ after := by
    rw [← OrderedSet.mem_toList, hsplit]
    exact List.mem_append_right _ List.mem_cons_self
  refine ⟨h.registered name hname, fun dependency hneeds => ?_⟩
  have hpair := h.sublist_of_needs hname (hacyclic name) hneeds
  have hnodup := after.nodup
  rw [hsplit] at hpair hnodup
  obtain ⟨first, last, heq, hfirst, hlast⟩ := List.sublist_append_iff.mp hpair
  cases first with
  | nil =>
    -- the name would stand at two places
    have hagain : name ∈ rest := by
      obtain rfl := heq
      cases hlast with
      | cons _ hlast => exact hlast.subset (List.mem_cons_of_mem _ List.mem_cons_self)
      | cons_cons _ hlast => exact List.singleton_sublist.mp hlast
    exact absurd hagain (List.nodup_cons.mp (List.nodup_append.mp hnodup).2.1).1
  | cons d first =>
    obtain ⟨rfl, -⟩ := List.cons.inj heq
    exact hfirst.subset List.mem_cons_self

/-! ## Including -/

/-- Including names adds them and what they need, in order. -/
structure Includes (library : FragmentLibrary) (names : List String)
    (before after : OrderedSet String) : Prop where
  /-- Dependencies stand ahead, -/
  ordered : library.IsOrdered after
  /-- nothing is taken out, -/
  subset : ∀ x ∈ before, x ∈ after
  /-- the names are included -/
  mem : ∀ name ∈ names, name ∈ after
  /-- and nothing else but what they need. -/
  origin : ∀ x ∈ after, x ∈ before ∨ ∃ name ∈ names, ReflTransGen library.Needs name x

/-- A fragment is lower than what needs it, so there are no cycles. -/
lemma IsLayered.acyclic (h : library.IsLayered) (name : String) :
    ¬TransGen library.Needs name name := by
  obtain ⟨height, -, hheight⟩ := h
  have hlower : ∀ x, TransGen library.Needs name x → height x < height name := by
    intro x hx
    induction hx with
    | single hneeds => exact hheight _ _ hneeds
    | tail _ hneeds ih => exact Nat.lt_trans (hheight _ _ hneeds) ih
  exact fun hcycle => Nat.lt_irrefl _ (hlower name hcycle)

/-- Including a fragment of a layered library brings in it and what it needs, in order. -/
theorem includes_resolve (hlayered : library.IsLayered) (hbefore : library.IsOrdered before)
    (h : library.resolve name before = (after, .ok ())) : library.Includes [name] before after := by
  obtain ⟨harranged, hname⟩ := hbefore.arranged.resolve h
  have hvisits := visits_iff.mpr h
  exact ⟨harranged.isOrdered hlayered.acyclic, fun _ => hvisits.mem_of_mem,
    List.forall_mem_singleton.mpr hname, fun _ => hvisits.origin⟩

/-- The fragments at hand depend on each other without cycles. -/
lemma isLayered_builtin : IsLayered .builtin := by
  let height (name : String) : Nat := if name = "noise" then 1 else 0
  have hentries : ∀ entry ∈ builtin.fragments.entries, ∀ d ∈ entry.2.dependencies,
      (if d = "noise" then 1 else 0) < if entry.1 = "noise" then 1 else 0 := by
    decide +kernel
  refine ⟨height, fun name => ?_, fun name dependency hneeds => ?_⟩
  · have hsize : builtin.fragments.size = 5 := by decide +kernel
    rw [hsize]
    dsimp only [height]
    split
    · decide
    · decide
  · obtain ⟨fragment, hget, hmem⟩ := hneeds
    exact hentries _ (OrderedMap.get?_eq_some_iff.mp hget) dependency hmem

/-! ## Including never fails -/

/-- The dependencies of registered fragments are registered. -/
def IsClosed (library : FragmentLibrary) : Prop :=
  ∀ name dependency, library.Needs name dependency → (library.get? dependency).isSome = true

/-- Including one after another succeeds if each single inclusion does. -/
lemma exists_includeAll_eq_ok {step : String → OrderedSet String → Inclusion}
    (hstep : ∀ name ∈ names, ∀ before, ∃ after, step name before = (after, .ok ()))
    (before : OrderedSet String) : ∃ after, includeAll step names before = (after, .ok ()) := by
  induction names generalizing before with
  | nil => exact ⟨before, rfl⟩
  | cons name names ih =>
    obtain ⟨hfirst, hstep⟩ := List.forall_mem_cons.mp hstep
    obtain ⟨included, hincluded⟩ := hfirst before
    obtain ⟨after, hafter⟩ := ih hstep included
    exact ⟨after, by rw [includeAll, hincluded]; exact hafter⟩

/-- Whatever is included or about to be, a visit of a registered fragment succeeds. -/
lemma IsClosed.exists_visit_eq_ok (h : library.IsClosed) (hname : (library.get? name).isSome = true)
    (depth : Nat) (visiting : List String) (before : OrderedSet String) :
    ∃ after, library.visit depth visiting name before = (after, .ok ()) := by
  induction depth generalizing name visiting before with
  | zero => exact ⟨before, rfl⟩
  | succ depth ih =>
    rw [visit]
    split
    · exact ⟨before, rfl⟩
    · obtain ⟨fragment, hget⟩ := Option.isSome_iff_exists.mp hname
      have hdependencies : ∀ d ∈ fragment.dependencies, (library.get? d).isSome = true :=
        fun d hd => h name d ⟨fragment, hget, hd⟩
      obtain ⟨after, hafter⟩ := exists_includeAll_eq_ok
        (fun d hd before => ih (hdependencies d hd) (name :: visiting) before) before
      exact ⟨after.insert name, by rw [hget]; dsimp only; rw [hafter]⟩

/-- Including a registered fragment of a closed library succeeds. -/
lemma IsClosed.exists_resolve_eq_ok (h : library.IsClosed)
    (hname : (library.get? name).isSome = true) (before : OrderedSet String) :
    ∃ after, library.resolve name before = (after, .ok ()) :=
  h.exists_visit_eq_ok hname _ [] before

/-- The library at hand has what its fragments depend on. -/
lemma isClosed_builtin : IsClosed .builtin := by
  have hentries : ∀ entry ∈ builtin.fragments.entries, ∀ d ∈ entry.2.dependencies,
      (builtin.get? d).isSome = true := by
    decide +kernel
  rintro name dependency ⟨fragment, hget, hmem⟩
  exact hentries _ (OrderedMap.get?_eq_some_iff.mp hget) dependency hmem

end FragmentLibrary

end SceneEngine.Shading
