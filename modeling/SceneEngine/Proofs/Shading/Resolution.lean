import Mathlib.Data.List.Perm.Subperm
import Mathlib.Logic.Relation
import SceneEngine.Proofs.Ordered.Collections
import SceneEngine.Shading.FragmentLibrary

/-!
# Resolving fragments

Including a fragment of the library visits what it depends on first, skipping what is included and
what is about to be.  Libraries can be extended, so a dependency may be missing and dependencies may
lead in a circle.  This module shows what including comes to in any library: it always ends, it
includes what the fragment leads to and nothing else, it fails just when something is missing, and
the order is right as far as an order can be.

## Visits without a bound

The visits go as deep as the dependencies lead (`FragmentLibrary.Visits`).  They come to an end in
every library, with cycles or without, because names about to be included are registered and
distinct, so there can be no more of them than there are fragments
(`FragmentLibrary.visits_includeAll`).  They have one result (`FragmentLibrary.Visits.unique`), and
it is that of `FragmentLibrary.resolve`.

## Closure and order

A visit that succeeds leaves a set closed under dependencies, apart from names about to be included
(`FragmentLibrary.Arranged`).  What is about to be included leads to everything that is visited
meanwhile.  So if a fragment comes to stand ahead of one of its dependencies, this is because the
dependency was about to be included then, and leads back to the fragment: the two are on a cycle.

## Results

`FragmentLibrary.Gathered` describes the sets that can come about, by including fragments one after
another.  For these, including another fragment succeeds just when everything that it leads to is
registered or included (`Arranged.resolve_eq_ok_iff`); it appends exactly what is new, and without
cycles dependencies stand ahead.  The main result is `FragmentLibrary.resolve_reachable`.
-/

namespace SceneEngine.Shading

namespace FragmentLibrary

open Relation

variable {library : FragmentLibrary} {name dependency x : String} {names visiting : List String}
  {before between after included : OrderedSet String} {result : Except CompileError Unit}

/-- A fragment depends on another one directly. -/
def Needs (library : FragmentLibrary) (name dependency : String) : Prop :=
  ∃ fragment, library.get? name = some fragment ∧ dependency ∈ fragment.dependencies

/-! ## Visits without a bound -/

/-- Including names one after another, while those in `visiting` are about to be included, turns
the included fragments `before` into `after` and has the given result. -/
inductive Visits (library : FragmentLibrary) :
    List String → List String → OrderedSet String → OrderedSet String →
      Except CompileError Unit → Prop
  /-- There is nothing left to include. -/
  | done {visiting : List String} {included : OrderedSet String} :
    Visits library visiting [] included included (.ok ())
  /-- A name that is included, or about to be, is skipped. -/
  | skips {visiting names : List String} {name : String} {before after : OrderedSet String}
    {result : Except CompileError Unit} (hskipped : name ∈ before ∨ name ∈ visiting)
    (hrest : Visits library visiting names before after result) :
    Visits library visiting (name :: names) before after result
  /-- A name that is not registered ends the visits. -/
  | unknown {visiting names : List String} {name : String} {included : OrderedSet String}
    (hnew : ¬(name ∈ included ∨ name ∈ visiting)) (hget : library.get? name = none) :
    Visits library visiting (name :: names) included included (.error (.unknownFragment name))
  /-- So does a dependency that cannot be included, -/
  | fails {visiting names : List String} {name : String} {fragment : Fragment}
    {before after : OrderedSet String} {e : CompileError}
    (hnew : ¬(name ∈ before ∨ name ∈ visiting)) (hget : library.get? name = some fragment)
    (hdependencies : Visits library (name :: visiting) fragment.dependencies before after
      (.error e)) :
    Visits library visiting (name :: names) before after (.error e)
  /-- while otherwise the fragment goes behind its dependencies. -/
  | includes {visiting names : List String} {name : String} {fragment : Fragment}
    {before between after : OrderedSet String} {result : Except CompileError Unit}
    (hnew : ¬(name ∈ before ∨ name ∈ visiting)) (hget : library.get? name = some fragment)
    (hdependencies : Visits library (name :: visiting) fragment.dependencies before between
      (.ok ()))
    (hrest : Visits library visiting names (between.insert name) after result) :
    Visits library visiting (name :: names) before after result

/-- Visits have one result. -/
lemma Visits.unique {after' : OrderedSet String} {result' : Except CompileError Unit}
    (h : library.Visits visiting names before after result)
    (h' : library.Visits visiting names before after' result') :
    after = after' ∧ result = result' := by
  induction h generalizing after' result' with
  | done =>
    cases h'
    exact ⟨rfl, rfl⟩
  | skips hskipped _ ih =>
    cases h' with
    | skips _ hrest => exact ih hrest
    | unknown hnew _ => exact absurd hskipped hnew
    | fails hnew _ _ => exact absurd hskipped hnew
    | includes hnew _ _ _ => exact absurd hskipped hnew
  | unknown hnew hget =>
    cases h' with
    | skips hskipped _ => exact absurd hskipped hnew
    | unknown _ _ => exact ⟨rfl, rfl⟩
    | fails _ hget' _ => exact absurd (hget.symm.trans hget') (by simp)
    | includes _ hget' _ _ => exact absurd (hget.symm.trans hget') (by simp)
  | fails hnew hget _ ih =>
    cases h' with
    | skips hskipped _ => exact absurd hskipped hnew
    | unknown _ hget' => exact absurd (hget.symm.trans hget') (by simp)
    | fails _ hget' hdependencies =>
      obtain rfl := Option.some.inj (hget.symm.trans hget')
      exact ih hdependencies
    | includes _ hget' hdependencies _ =>
      obtain rfl := Option.some.inj (hget.symm.trans hget')
      exact absurd (ih hdependencies).2 (by simp)
  | includes hnew hget _ _ ihdependencies ihrest =>
    cases h' with
    | skips hskipped _ => exact absurd hskipped hnew
    | unknown _ hget' => exact absurd (hget.symm.trans hget') (by simp)
    | fails _ hget' hdependencies =>
      obtain rfl := Option.some.inj (hget.symm.trans hget')
      exact absurd (ihdependencies hdependencies).2 (by simp)
    | includes _ hget' hdependencies hrest =>
      obtain rfl := Option.some.inj (hget.symm.trans hget')
      obtain ⟨rfl, -⟩ := ihdependencies hdependencies
      exact ihrest hrest

/-- No more fragments can be about to be included than are registered. -/
lemma length_le_size (hnodup : visiting.Nodup)
    (hregistered : ∀ v ∈ visiting, (library.get? v).isSome = true) :
    visiting.length ≤ library.fragments.size := by
  have hsubset : visiting ⊆ library.fragments.keys := fun v hv =>
    OrderedMap.mem_keys_iff.mpr (Option.isSome_iff_exists.mp (hregistered v hv))
  have hle := (List.subperm_of_subset hnodup hsubset).length_le
  rwa [OrderedMap.keys, List.length_map] at hle

/-- A depth that leaves room for every registered fragment never cuts a visit short. -/
lemma visits_includeAll {depth : Nat} (hnodup : visiting.Nodup)
    (hregistered : ∀ v ∈ visiting, (library.get? v).isSome = true)
    (hdepth : visiting.length + depth = library.fragments.size + 1) (names : List String)
    (before : OrderedSet String) :
    library.Visits visiting names before (includeAll (library.visit depth visiting) names before).1
      (includeAll (library.visit depth visiting) names before).2 := by
  -- on the depth, and within one depth on the names: dependencies are visited one less deep
  induction depth generalizing visiting names before with
  | zero =>
    have hle := length_le_size hnodup hregistered
    omega
  | succ depth ih =>
    induction names generalizing before with
    | nil => exact .done
    | cons name names ihnames =>
      rw [includeAll, visit]
      by_cases hskipped : name ∈ before ∨ name ∈ visiting
      · rw [if_pos hskipped]
        exact .skips hskipped (ihnames before)
      · rw [if_neg hskipped]
        cases hget : library.get? name with
        | none => exact .unknown hskipped hget
        | some fragment =>
          have hnodup' : (name :: visiting).Nodup :=
            List.nodup_cons.mpr ⟨fun hmem => hskipped (.inr hmem), hnodup⟩
          have hregistered' : ∀ v ∈ name :: visiting, (library.get? v).isSome = true :=
            List.forall_mem_cons.mpr ⟨by rw [hget]; rfl, hregistered⟩
          have hdependencies := ih hnodup' hregistered' (by rw [List.length_cons]; omega)
            fragment.dependencies before
          dsimp only
          rcases hall : includeAll (library.visit depth (name :: visiting)) fragment.dependencies
            before with ⟨between, e | ⟨⟩⟩
          · rw [hall] at hdependencies
            exact .fails hskipped hget hdependencies
          · rw [hall] at hdependencies
            exact .includes hskipped hget hdependencies (ihnames _)

/-- Including one name is one step. -/
lemma includeAll_singleton (step : String → OrderedSet String → Inclusion) :
    includeAll step [name] before = step name before := by
  rw [includeAll]
  split
  next heq => rw [heq, includeAll]
  · rfl

/-- Including a fragment comes to an end, in what `resolve` gives. -/
lemma visits_iff : library.Visits [] [name] before after result ↔
    library.resolve name before = (after, result) := by
  have hdepth : ([] : List String).length + (library.fragments.size + 1) =
      library.fragments.size + 1 := Nat.zero_add _
  have hvisits := library.visits_includeAll List.nodup_nil (List.forall_mem_nil _) hdepth [name]
    before
  rw [includeAll_singleton, ← resolve] at hvisits
  constructor
  · intro h
    obtain ⟨hafter, hresult⟩ := hvisits.unique h
    exact Prod.ext hafter hresult
  · intro h
    rwa [h] at hvisits

/-! ## What a visit adds -/

/-- What is included stays where it is. -/
lemma Visits.isPrefix (h : library.Visits visiting names before after result) :
    before.toList <+: after.toList := by
  induction h with
  | done => exact List.prefix_rfl
  | skips _ _ ih => exact ih
  | unknown _ _ => exact List.prefix_rfl
  | fails _ _ _ ih => exact ih
  | includes _ _ _ _ ihdependencies ihrest =>
    exact (ihdependencies.trans (OrderedSet.prefix_insert _ _)).trans ihrest

/-- Nothing that is included is taken out. -/
lemma Visits.mem_of_mem (h : library.Visits visiting names before after result) (hx : x ∈ before) :
    x ∈ after :=
  h.isPrefix.subset hx

/-- Nothing is included but what the names lead to. -/
lemma Visits.origin (h : library.Visits visiting names before after result) (hx : x ∈ after) :
    x ∈ before ∨ ∃ name ∈ names, ReflTransGen library.Needs name x := by
  induction h with
  | done => exact .inl hx
  | skips _ _ ih =>
    exact (ih hx).imp_right fun ⟨other, hother, hreaches⟩ =>
      ⟨other, List.mem_cons_of_mem _ hother, hreaches⟩
  | unknown _ _ => exact .inl hx
  | @fails _ _ name fragment _ _ _ _ hget _ ih =>
    refine (ih hx).imp_right fun ⟨d, hd, hreaches⟩ => ?_
    exact ⟨name, List.mem_cons_self, .head ⟨fragment, hget, hd⟩ hreaches⟩
  | @includes _ _ name fragment _ _ _ _ _ hget _ _ ihdependencies ihrest =>
    rcases ihrest hx with hx | ⟨other, hother, hreaches⟩
    · rcases OrderedSet.mem_insert.mp hx with rfl | hx
      · exact .inr ⟨x, List.mem_cons_self, .refl⟩
      · refine (ihdependencies hx).imp_right fun ⟨d, hd, hreaches⟩ => ?_
        exact ⟨name, List.mem_cons_self, .head ⟨fragment, hget, hd⟩ hreaches⟩
    · exact .inr ⟨other, List.mem_cons_of_mem name hother, hreaches⟩

/-- A failure names a fragment that is missing: the names lead to it, and it is not included. -/
lemma Visits.exists_of_error {e : CompileError}
    (h : library.Visits visiting names before after (.error e)) :
    ∃ x, (∃ name ∈ names, ReflTransGen library.Needs name x) ∧ x ∉ before ∧
      library.get? x = none ∧ e = .unknownFragment x := by
  generalize hresult : Except.error e = result at h
  induction h with
  | done => cases hresult
  | skips _ _ ih =>
    obtain ⟨x, ⟨other, hother, hreaches⟩, hx⟩ := ih hresult
    exact ⟨x, ⟨other, List.mem_cons_of_mem _ hother, hreaches⟩, hx⟩
  | @unknown _ _ name _ hnew hget =>
    exact ⟨name, ⟨name, List.mem_cons_self, .refl⟩, fun hmem => hnew (.inl hmem), hget,
      Except.error.inj hresult⟩
  | @fails _ _ name fragment _ _ _ _ hget _ ih =>
    obtain ⟨x, ⟨d, hd, hreaches⟩, hx⟩ := ih hresult
    exact ⟨x, ⟨name, List.mem_cons_self, .head ⟨fragment, hget, hd⟩ hreaches⟩, hx⟩
  | @includes _ _ name _ _ _ _ _ _ _ hdependencies _ _ ihrest =>
    obtain ⟨x, ⟨other, hother, hreaches⟩, hx, hget⟩ := ihrest hresult
    refine ⟨x, ⟨other, List.mem_cons_of_mem name hother, hreaches⟩, fun hmem => hx ?_, hget⟩
    exact OrderedSet.mem_insert.mpr (.inr (hdependencies.mem_of_mem hmem))

/-! ## Closure and order -/

/-- The included fragments are registered, with their dependencies included or about to be.  One
that does not stand behind a dependency is on a cycle with it. -/
structure Arranged (library : FragmentLibrary) (visiting : List String)
    (included : OrderedSet String) : Prop where
  /-- Nothing is included that the library does not have. -/
  registered : ∀ x ∈ included, (library.get? x).isSome = true
  /-- Dependencies are included, or on the way, -/
  complete : ∀ x ∈ included, ∀ d, library.Needs x d → d ∈ included ∨ d ∈ visiting
  /-- and stand ahead of what needs them, unless they lead back to it. -/
  behind : ∀ x ∈ included, ∀ d, library.Needs x d →
    [d, x].Sublist included.toList ∨ ReflTransGen library.Needs d x

/-- Where nothing is included nothing is missing. -/
lemma arranged_empty : library.Arranged visiting ∅ where
  registered _ hx := absurd hx OrderedSet.notMem_empty
  complete _ hx := absurd hx OrderedSet.notMem_empty
  behind _ hx := absurd hx OrderedSet.notMem_empty

/-- Being about to include one more name asks for less. -/
lemma Arranged.cons (h : library.Arranged visiting included) (name : String) :
    library.Arranged (name :: visiting) included :=
  { h with complete := fun x hx d hneeds =>
      (h.complete x hx d hneeds).imp_right (List.mem_cons_of_mem name) }

/-- The included fragments are closed under dependencies. -/
lemma Arranged.mem_of_reaches (h : library.Arranged [] included) (hname : name ∈ included)
    (hreaches : ReflTransGen library.Needs name dependency) : dependency ∈ included := by
  induction hreaches with
  | refl => exact hname
  | tail _ hneeds ih => exact (h.complete _ ih _ hneeds).resolve_right List.not_mem_nil

/-- A fragment goes behind its dependencies, apart from those that are about to be included and
lead to it. -/
lemma Arranged.insert {fragment : Fragment} (h : library.Arranged (name :: visiting) included)
    (hget : library.get? name = some fragment)
    (hdependencies : ∀ d ∈ fragment.dependencies, d ∈ included ∨ d ∈ name :: visiting)
    (hpath : ∀ v ∈ name :: visiting, ReflTransGen library.Needs v name) :
    library.Arranged visiting (included.insert name) := by
  have hneeded : ∀ x ∈ included.insert name, ∀ d, library.Needs x d →
      d ∈ included ∨ d ∈ name :: visiting := by
    intro x hx d hneeds
    rcases OrderedSet.mem_insert.mp hx with rfl | hx
    · obtain ⟨fragment', hget', hd⟩ := hneeds
      obtain rfl := Option.some.inj (hget.symm.trans hget')
      exact hdependencies d hd
    · exact h.complete x hx d hneeds
  refine ⟨fun x hx => ?_, fun x hx d hneeds => ?_, fun x hx d hneeds => ?_⟩
  · rcases OrderedSet.mem_insert.mp hx with rfl | hx
    · rw [hget]
      rfl
    · exact h.registered x hx
  · rcases hneeded x hx d hneeds with hd | hd
    · exact .inl (OrderedSet.mem_insert.mpr (.inr hd))
    · rcases List.mem_cons.mp hd with rfl | hd
      · exact .inl (OrderedSet.mem_insert.mpr (.inl rfl))
      · exact .inr hd
  · by_cases hold : x ∈ included
    · refine (h.behind x hold d hneeds).imp_left fun hpair => ?_
      exact hpair.trans (included.prefix_insert name).sublist
    · obtain rfl := (OrderedSet.mem_insert.mp hx).resolve_right hold
      rcases hneeded x hx d hneeds with hd | hd
      · rw [OrderedSet.toList_insert hold]
        exact .inl ((List.singleton_sublist.mpr hd).append (List.Sublist.refl [x]))
      · exact .inr (hpath d hd)

/-- A visit that succeeds keeps what is included arranged, and includes the names it is given.
Names about to be included have to lead to these. -/
lemma Visits.arranged (h : library.Visits visiting names before after (.ok ()))
    (hpath : ∀ v ∈ visiting, ∀ name ∈ names, ReflTransGen library.Needs v name)
    (hbefore : library.Arranged visiting before) :
    library.Arranged visiting after ∧ ∀ name ∈ names, name ∈ after ∨ name ∈ visiting := by
  generalize hresult : Except.ok () = result at h
  induction h with
  | done => exact ⟨hbefore, List.forall_mem_nil _⟩
  | skips hskipped hrest ih =>
    obtain ⟨hafter, hnames⟩ :=
      ih (fun v hv other hother => hpath v hv other (List.mem_cons_of_mem _ hother)) hbefore hresult
    exact ⟨hafter, List.forall_mem_cons.mpr ⟨hskipped.imp_left hrest.mem_of_mem, hnames⟩⟩
  | unknown _ _ => cases hresult
  | fails _ _ _ _ => cases hresult
  | @includes visiting names name fragment _ _ _ _ _ hget _ hrest ihdependencies ihrest =>
    have hname : ∀ v ∈ name :: visiting, ReflTransGen library.Needs v name :=
      List.forall_mem_cons.mpr ⟨.refl, fun v hv => hpath v hv name List.mem_cons_self⟩
    -- whatever is about to be included leads to the fragment, and so to its dependencies
    have hdeeper : ∀ v ∈ name :: visiting, ∀ d ∈ fragment.dependencies,
        ReflTransGen library.Needs v d :=
      fun v hv d hd => (hname v hv).tail ⟨fragment, hget, hd⟩
    obtain ⟨hbetween, hdependencies⟩ := ihdependencies hdeeper (hbefore.cons name) rfl
    obtain ⟨hafter, hnames⟩ :=
      ihrest (fun v hv other hother => hpath v hv other (List.mem_cons_of_mem name hother))
        (hbetween.insert hget hdependencies hname) hresult
    refine ⟨hafter, List.forall_mem_cons.mpr ⟨.inl (hrest.mem_of_mem ?_), hnames⟩⟩
    exact OrderedSet.mem_insert.mpr (.inl rfl)

/-- Including a fragment keeps what is included arranged, and the fragment is included then. -/
lemma Arranged.resolve (h : library.Arranged [] before)
    (hresolve : library.resolve name before = (after, .ok ())) :
    library.Arranged [] after ∧ name ∈ after := by
  obtain ⟨hafter, hname⟩ :=
    (visits_iff.mpr hresolve).arranged (fun _ hv => absurd hv List.not_mem_nil) h
  exact ⟨hafter, (hname name List.mem_cons_self).resolve_right List.not_mem_nil⟩

/-- After a fragment has been included, what it leads to is included. -/
lemma Arranged.mem_resolve (h : library.Arranged [] before)
    (hresolve : library.resolve name before = (after, .ok ())) :
    x ∈ after ↔ x ∈ before ∨ ReflTransGen library.Needs name x := by
  obtain ⟨hafter, hname⟩ := h.resolve hresolve
  have hvisits := visits_iff.mpr hresolve
  constructor
  · intro hx
    refine (hvisits.origin hx).imp_right fun ⟨other, hother, hreaches⟩ => ?_
    exact List.mem_singleton.mp hother ▸ hreaches
  · rintro (hx | hreaches)
    · exact hvisits.mem_of_mem hx
    · exact hafter.mem_of_reaches hname hreaches

/-- A fragment that is not on a cycle stands behind its dependencies. -/
lemma Arranged.sublist_of_needs (h : library.Arranged [] included) (hname : name ∈ included)
    (hacyclic : ¬TransGen library.Needs name name) (hneeds : library.Needs name dependency) :
    [dependency, name].Sublist included.toList :=
  (h.behind name hname dependency hneeds).resolve_right fun hreaches =>
    hacyclic (.head' hneeds hreaches)

/-! ## Resolving -/

/-- The included fragments come from fragments included before, each with success. -/
inductive Gathered (library : FragmentLibrary) : OrderedSet String → Prop
  /-- Nothing has been included. -/
  | empty : Gathered library ∅
  /-- One more fragment has been included, without an error. -/
  | resolve {before after : OrderedSet String} {name : String} (hbefore : Gathered library before)
    (hresolve : library.resolve name before = (after, .ok ())) : Gathered library after

/-- What was gathered is arranged. -/
lemma Gathered.arranged (h : library.Gathered included) : library.Arranged [] included := by
  induction h with
  | empty => exact arranged_empty
  | resolve _ hresolve ih => exact (ih.resolve hresolve).1

/-- Including a fragment succeeds just when nothing that it leads to is missing. -/
lemma Arranged.resolve_eq_ok_iff (h : library.Arranged [] included) :
    (library.resolve name included).2 = .ok () ↔
      ∀ x, ReflTransGen library.Needs name x → x ∉ included → (library.get? x).isSome = true := by
  rcases hresolve : library.resolve name included with ⟨after, e | ⟨⟩⟩
  · obtain ⟨x, ⟨other, hother, hreaches⟩, hx, hget, -⟩ :=
      (visits_iff.mpr hresolve).exists_of_error
    refine iff_of_false (by simp) fun hall => ?_
    have hsome := hall x (List.mem_singleton.mp hother ▸ hreaches) hx
    rw [hget] at hsome
    cases hsome
  · refine iff_of_true rfl fun x hreaches _ => ?_
    exact (h.resolve hresolve).1.registered x ((h.mem_resolve hresolve).mpr (.inr hreaches))

/-- Including a fragment comes to an end in every library.  It succeeds just when nothing that the
fragment leads to is missing; it then appends what the fragment leads to and nothing else, each
once, and where there is no cycle, dependencies stand first. -/
theorem resolve_reachable (h : library.Gathered included) (name : String) :
    (∀ after result, library.Visits [] [name] included after result ↔
      library.resolve name included = (after, result)) ∧
    ((library.resolve name included).2 = .ok () ↔
      ∀ x, ReflTransGen library.Needs name x → x ∉ included → (library.get? x).isSome = true) ∧
    ∀ after, library.resolve name included = (after, .ok ()) →
      (∃ appended, after.toList = included.toList ++ appended ∧ appended.Nodup ∧
        ∀ x, x ∈ appended ↔ ReflTransGen library.Needs name x ∧ x ∉ included) ∧
      ((∀ x, ReflTransGen library.Needs name x → ¬TransGen library.Needs x x) →
        ∀ x, ReflTransGen library.Needs name x → ∀ d, library.Needs x d →
          [d, x].Sublist after.toList) := by
  have harranged := h.arranged
  refine ⟨fun _ _ => visits_iff, harranged.resolve_eq_ok_iff, fun after hresolve => ⟨?_, ?_⟩⟩
  · obtain ⟨appended, happended⟩ := (visits_iff.mpr hresolve).isPrefix
    have hnodup := after.nodup
    rw [← happended] at hnodup
    obtain ⟨-, hdistinct, hnew⟩ := List.nodup_append.mp hnodup
    refine ⟨appended, happended.symm, hdistinct, fun x => ?_⟩
    have hmem : x ∈ after ↔ x ∈ included ∨ x ∈ appended := by
      rw [← OrderedSet.mem_toList, ← happended, List.mem_append, OrderedSet.mem_toList]
    constructor
    · intro hx
      have hold : x ∉ included := fun hold => hnew x hold x hx rfl
      exact ⟨((harranged.mem_resolve hresolve).mp (hmem.mpr (.inr hx))).resolve_left hold, hold⟩
    · rintro ⟨hreaches, hold⟩
      exact (hmem.mp ((harranged.mem_resolve hresolve).mpr (.inr hreaches))).resolve_left hold
  · intro hacyclic x hreaches d hneeds
    have hx : x ∈ after := (harranged.mem_resolve hresolve).mpr (.inr hreaches)
    exact (harranged.resolve hresolve).1.sublist_of_needs hx (hacyclic x hreaches) hneeds

/-- Two fragments that depend on each other, and two that stand apart from them. -/
def grove : FragmentLibrary where
  fragments := ((((∅ : OrderedMap String Fragment).insert "ring" ⟨"ring", "", ["stone"]⟩).insert
    "stone" ⟨"stone", "", ["ring"]⟩).insert "moss" ⟨"moss", "", ["fern"]⟩).insert
    "fern" ⟨"fern", "", []⟩

/-- What is included in the grove once `ring` is. -/
def grove.ringed : OrderedSet String := (grove.resolve "ring" ∅).1

lemma grove.gathered_ringed : grove.Gathered grove.ringed :=
  .resolve .empty (by decide +kernel : grove.resolve "ring" ∅ = (grove.ringed, .ok ()))

lemma grove.eq_of_needs (h : grove.Needs name dependency) :
    (name = "moss" ∧ dependency = "fern") ∨ name = "ring" ∨ name = "stone" := by
  have hentries : ∀ entry ∈ grove.fragments.entries, ∀ d ∈ entry.2.dependencies,
      (entry.1 = "moss" ∧ d = "fern") ∨ entry.1 = "ring" ∨ entry.1 = "stone" := by
    decide +kernel
  obtain ⟨fragment, hget, hd⟩ := h
  exact hentries _ (OrderedMap.get?_eq_some_iff.mp hget) dependency hd

lemma grove.eq_fern_of_needs (h : grove.Needs "moss" dependency) : dependency = "fern" := by
  rcases grove.eq_of_needs h with ⟨-, hd⟩ | hname | hname
  · exact hd
  · exact absurd hname (by decide)
  · exact absurd hname (by decide)

lemma grove.not_needs_fern : ¬grove.Needs "fern" dependency := by
  intro h
  rcases grove.eq_of_needs h with ⟨hname, -⟩ | hname | hname <;> exact absurd hname (by decide)

lemma grove.eq_or_eq_of_reaches (h : ReflTransGen grove.Needs "moss" x) :
    x = "moss" ∨ x = "fern" := by
  induction h with
  | refl => exact .inl rfl
  | tail _ hneeds ih =>
    rcases ih with rfl | rfl
    · exact .inr (grove.eq_fern_of_needs hneeds)
    · exact absurd hneeds grove.not_needs_fern

/-- What `moss` leads to is not on a cycle. -/
lemma grove.acyclic_of_reaches (h : ReflTransGen grove.Needs "moss" x) :
    ¬TransGen grove.Needs x x := by
  intro hcycle
  obtain ⟨d, hneeds, hback⟩ := TransGen.head'_iff.mp hcycle
  rcases grove.eq_or_eq_of_reaches h with rfl | rfl
  · obtain rfl := grove.eq_fern_of_needs hneeds
    rcases ReflTransGen.cases_head hback with heq | ⟨_, hneeds, -⟩
    · exact absurd heq (by decide)
    · exact grove.not_needs_fern hneeds
  · exact grove.not_needs_fern hneeds

/-- A cycle elsewhere does no harm: `moss` comes behind `fern`, and both behind the cycle. -/
theorem resolve_reachable_grove :
    grove.Gathered grove.ringed ∧ grove.ringed.toList = ["stone", "ring"] ∧
    (grove.resolve "moss" grove.ringed).2 = .ok () ∧
    ["fern", "moss"].Sublist (grove.resolve "moss" grove.ringed).1.toList := by
  have hgathered := grove.gathered_ringed
  obtain ⟨-, hok, hafter⟩ := resolve_reachable hgathered "moss"
  have hresolve : (grove.resolve "moss" grove.ringed).2 = .ok () := by
    refine hok.mpr fun x hreaches _ => ?_
    rcases grove.eq_or_eq_of_reaches hreaches with rfl | rfl
    · decide +kernel
    · decide +kernel
  obtain ⟨-, hbehind⟩ := hafter _ (Prod.ext rfl hresolve)
  have hneeds : grove.Needs "moss" "fern" :=
    ⟨⟨"moss", "", ["fern"]⟩, rfl, List.mem_cons_self⟩
  exact ⟨hgathered, by decide +kernel, hresolve,
    hbehind (fun _ => grove.acyclic_of_reaches) "moss" .refl "fern" hneeds⟩

end FragmentLibrary

end SceneEngine.Shading
