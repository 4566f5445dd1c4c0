import SceneEngine.Proofs.TopologicalOrder

/-!
# Sorting comes to an end

`sort` bounds its two loops by the number of nodes and subtracts in the natural numbers.  A bound
can hide that a loop does not end, and subtraction that a number falls below zero.  This module
writes the loops down without a bound, with a subtraction that is refused at zero, and shows that
they come to the same.

## Loops without a bound

`State.Ends` is the search that goes on as long as a node is ready, and `Trims` takes nodes without
an edge into the rest away as long as there are any.  Both are relations, so that nothing is assumed
about their coming to an end.  `State.follow?` follows an edge only while one is left.  `Concludes`
puts them together: what sorting comes to.

## Why they end

Every step of the search places a node, and no node is placed twice, so as many steps as there are
nodes are enough (`Searching.ends_run`).  Edges are followed at most as often as they are counted,
which is what the invariant of the search says, so no number falls below zero
(`Tracks.foldlM_follow?_eq_some`).  Every round of the second loop but the last shortens the list
(`trims_trimSinks`).  And what both come to is unique (`State.Ends.unique`, `Trims.unique`).

The main result is `sort_correct_and_complete`, which adds what `Proofs/TopologicalOrder` says about
the result.
-/

namespace SceneEngine.TopologicalOrder

variable {α : Type} [DecidableEq α] {nodes : List α} {edges : List (α × α)} {c v : α}
  {s s' t t' : State α} {remaining : α → Nat}

/-! ## Loops without a bound -/

/-- Follows one edge to `child`, and refuses to when no edge into it is left. -/
def State.follow? (s : State α) (child : α) : Option (State α) :=
  if s.degrees.get? child = some 0 then none else some (s.follow child)

/-- The search that goes on from `s`, placing nodes as long as one is ready, ends in `t`. -/
inductive State.Ends (edges : List (α × α)) : State α → State α → Prop
  /-- Nothing is ready. -/
  | done {s : State α} (hready : s.ready = []) : Ends edges s s
  /-- The first ready node is placed, and its edges are followed. -/
  | place {s next t : State α} {node : α} {ready : List α} (hready : s.ready = node :: ready)
    (hfollow : (children edges node).foldlM State.follow?
      { s with ready, placed := node :: s.placed } = some next)
    (hrest : Ends edges next t) : Ends edges s t

/-- Taking nodes without an edge into the rest away, as long as there are any, leaves `kept`. -/
inductive Trims (edges : List (α × α)) : List α → List α → Prop
  /-- Every node has an edge into the rest. -/
  | done {nodes : List α} (hnone : ∀ v ∈ nodes, leadsInto edges nodes v = true) :
    Trims edges nodes nodes
  /-- Some node has none, and all such nodes go at once. -/
  | round {nodes kept : List α} {v : α} (hv : v ∈ nodes) (hsink : leadsInto edges nodes v = false)
    (hrest : Trims edges (nodes.filter (leadsInto edges nodes)) kept) : Trims edges nodes kept

/-- What sorting comes to when both loops go on until they find nothing more to do. -/
inductive Concludes (nodes : List α) (edges : List (α × α)) :
    Except (CycleError α) (List α) → Prop
  /-- All nodes could be placed. -/
  | sorted {t : State α}
    (hsearch : State.Ends (retained nodes edges) (State.start nodes (retained nodes edges)) t)
    (hall : t.placed.length = nodes.length) : Concludes nodes edges (.ok t.placed.reverse)
  /-- Some could not, and those that are kept of them are reported. -/
  | stuck {t : State α} {cycle : List α}
    (hsearch : State.Ends (retained nodes edges) (State.start nodes (retained nodes edges)) t)
    (hleft : t.placed.length ≠ nodes.length)
    (htrim : Trims (retained nodes edges) (nodes.filter fun node => !t.placed.contains node)
      cycle) : Concludes nodes edges (.error ⟨cycle⟩)

/-! ## The search -/

/-- An edge is followed as long as there is one left. -/
lemma Tracks.follow?_eq_some (h : Tracks nodes remaining s) (hc : c ∈ nodes)
    (hpos : 0 < remaining c) : s.follow? c = some (s.follow c) := by
  have hzero : ¬s.degrees.get? c = some 0 := by
    rw [h.degree c hc, Option.some.injEq]
    omega
  exact if_neg hzero

/-- When every node has as many edges left as are to be followed, no number falls below zero. -/
lemma Tracks.foldlM_follow?_eq_some (h : Tracks nodes remaining s) (targets : List α)
    (htargets : ∀ c ∈ targets, c ∈ nodes) (hcount : ∀ c, targets.count c ≤ remaining c) :
    targets.foldlM State.follow? s = some (targets.foldl State.follow s) := by
  induction targets generalizing s remaining with
  | nil => rfl
  | cons c targets ih =>
    obtain ⟨hc, htargets⟩ := List.forall_mem_cons.mp htargets
    have hpos : 0 < remaining c := by
      have hle := hcount c
      rw [List.count_cons_self] at hle
      omega
    obtain ⟨remaining', hnext, -, hcount', -⟩ := h.follow_cons hc hcount
    rw [List.foldlM_cons, h.follow?_eq_some hc hpos, List.foldl_cons]
    exact ih hnext htargets hcount'

lemma Searching.foldlM_follow?_eq_some (h : Searching nodes edges s)
    (hedges : ∀ e ∈ edges, e.1 ∈ nodes ∧ e.2 ∈ nodes) {ready : List α}
    (hready : s.ready = v :: ready) :
    (children edges v).foldlM State.follow? { s with ready, placed := v :: s.placed } =
      some ((children edges v).foldl State.follow { s with ready, placed := v :: s.placed }) := by
  obtain ⟨-, hmoved, hcount⟩ := h.take hready
  exact hmoved.foldlM_follow?_eq_some (children edges v) (mem_of_mem_children hedges) hcount

/-- Ready and placed nodes are no more than there are nodes. -/
lemma Searching.length_le (h : Searching nodes edges s) :
    s.ready.length + s.placed.length ≤ nodes.length := by
  have hsubset : s.ready ++ s.placed ⊆ nodes := fun c hc => ((h.tracks.reached c).mp hc).1
  have hle := (List.subperm_of_subset h.tracks.nodup hsubset).length_le
  rwa [List.length_append] at hle

/-- With as many steps as nodes that are not placed, the bounded search is the search. -/
lemma Searching.ends_run (hedges : ∀ e ∈ edges, e.1 ∈ nodes ∧ e.2 ∈ nodes) (steps : Nat)
    (h : Searching nodes edges s) (hsteps : nodes.length ≤ s.placed.length + steps) :
    State.Ends edges s (State.run edges steps s) := by
  -- by induction on the steps: each of them places a node, and no more can be placed than there are
  induction steps generalizing s with
  | zero =>
    have hle := h.length_le
    exact .done (List.eq_nil_of_length_eq_zero (by omega))
  | succ steps ih =>
    cases hready : s.ready with
    | nil =>
      have hrun : State.run edges (steps + 1) s = s := by simp [State.run, hready]
      rw [hrun]
      exact .done hready
    | cons v ready =>
      obtain ⟨hnext, hplaced⟩ := h.place hedges hready
      have hrun : State.run edges (steps + 1) s = State.run edges steps
          ((children edges v).foldl State.follow { s with ready, placed := v :: s.placed }) := by
        simp [State.run, hready]
      rw [hrun]
      refine .place hready (h.foldlM_follow?_eq_some hedges hready) (ih hnext ?_)
      rw [hplaced, List.length_cons]
      omega

/-- The search ends in one state only: it does not choose. -/
lemma State.Ends.unique (h : State.Ends edges s t) (h' : State.Ends edges s t') : t = t' := by
  -- along the first search: a state with a ready node cannot be the last, and the next one is fixed
  induction h with
  | done hready =>
    cases h' with
    | done => rfl
    | place hready' => cases hready.symm.trans hready'
  | place hready hfollow _ ih =>
    cases h' with
    | done hready' => cases hready.symm.trans hready'
    | place hready' hfollow' hrest' =>
      cases hready.symm.trans hready'
      cases hfollow.symm.trans hfollow'
      exact ih hrest'

/-! ## Taking nodes away -/

/-- Every round but the last shortens the list, so as many rounds as it is long are enough. -/
lemma trims_trimSinks (rounds : Nat) {l : List α} (hrounds : l.length ≤ rounds) :
    Trims edges l (trimSinks edges rounds l) := by
  induction rounds generalizing l with
  | zero =>
    obtain rfl := List.eq_nil_of_length_eq_zero (Nat.le_zero.mp hrounds)
    exact .done (List.forall_mem_nil _)
  | succ rounds ih =>
    by_cases hlength : (l.filter (leadsInto edges l)).length = l.length
    · have htrim : trimSinks edges (rounds + 1) l = l := by simp only [trimSinks, if_pos hlength]
      rw [htrim]
      exact .done (List.length_filter_eq_length_iff.mp hlength)
    · have htrim : trimSinks edges (rounds + 1) l =
          trimSinks edges rounds (l.filter (leadsInto edges l)) := by
        simp only [trimSinks, if_neg hlength]
      have hsink : ¬∀ v ∈ l, leadsInto edges l v = true :=
        mt List.length_filter_eq_length_iff.mpr hlength
      push Not at hsink
      obtain ⟨v, hv, hv'⟩ := hsink
      have hle := List.length_filter_le (leadsInto edges l) l
      rw [htrim]
      exact .round hv (Bool.eq_false_iff.mpr hv') (ih (by omega))

/-- What is left is the same however the loop is read. -/
lemma Trims.unique {l kept kept' : List α} (h : Trims edges l kept) (h' : Trims edges l kept') :
    kept = kept' := by
  -- along the first derivation; in each round the same sinks go at once
  induction h with
  | done hnone =>
    cases h' with
    | done => rfl
    | round hv hsink => exact absurd (hnone _ hv) (Bool.eq_false_iff.mp hsink)
  | round hv hsink _ ih =>
    cases h' with
    | done hnone => exact absurd (hnone _ hv) (Bool.eq_false_iff.mp hsink)
    | round _ _ hrest' => exact ih hrest'

/-! ## Sorting -/

lemma ends_finalState (hnodes : nodes.Nodup) (edges : List (α × α)) :
    State.Ends (retained nodes edges) (State.start nodes (retained nodes edges))
      (finalState nodes edges) := by
  refine (searching_start hnodes (retained nodes edges)).ends_run
    (fun e he => mem_nodes_of_retained he) nodes.length ?_
  exact Nat.le_add_left _ _

/-- Without a bound on its loops, sorting comes to what `sort` gives and to nothing else. -/
lemma concludes_iff (hnodes : nodes.Nodup) {outcome : Except (CycleError α) (List α)} :
    Concludes nodes edges outcome ↔ outcome = sort nodes edges := by
  have hends := ends_finalState hnodes edges
  constructor
  · rintro (⟨hsearch, hall⟩ | ⟨hsearch, hleft, htrim⟩)
    · cases hsearch.unique hends
      exact (if_pos hall).symm
    · cases hsearch.unique hends
      rw [htrim.unique (trims_trimSinks _ le_rfl)]
      exact (if_neg hleft).symm
  · rintro rfl
    by_cases hlength : (finalState nodes edges).placed.length = nodes.length
    · have hsort : sort nodes edges = .ok (finalState nodes edges).placed.reverse := if_pos hlength
      rw [hsort]
      exact .sorted hends hlength
    · have hsort : sort nodes edges = .error ⟨trimSinks (retained nodes edges)
          (nodes.filter fun node => !(finalState nodes edges).placed.contains node).length
          (nodes.filter fun node => !(finalState nodes edges).placed.contains node)⟩ :=
        if_neg hlength
      rw [hsort]
      exact .stuck hends hlength (trims_trimSinks _ le_rfl)

/-- **Sorting is correct and complete.**  On distinct nodes, with any edges, both loops come to an
end without a number that falls below zero, and `sort` gives what they come to; it is an order
exactly when the edges between the nodes form no cycle, and that order has every node once and every
edge pointing forward. -/
theorem sort_correct_and_complete (hnodes : nodes.Nodup) (edges : List (α × α)) :
    (∀ outcome, Concludes nodes edges outcome ↔ outcome = sort nodes edges) ∧
      ((∃ order, sort nodes edges = .ok order) ↔ Acyclic nodes edges) ∧
      ∀ order, sort nodes edges = .ok order → Sorts nodes edges order := by
  refine ⟨fun outcome => concludes_iff hnodes, exists_sort_eq_ok_iff hnodes, fun order hsort => ?_⟩
  exact sorts_of_sort_eq_ok hnodes hsort

/-- An edge twice over, an edge from a node that is not listed and a loop on such a node. -/
theorem acyclic_of_repeated_and_foreign_edges :
    sort [1, 2, 3] [(3, 1), (3, 1), (9, 2), (9, 9)] = .ok [2, 3, 1] ∧
      Acyclic [1, 2, 3] [(3, 1), (3, 1), (9, 2), (9, 9)] := by
  have hsort : sort [1, 2, 3] [(3, 1), (3, 1), (9, 2), (9, 9)] = .ok [2, 3, 1] := rfl
  have hnodes : [1, 2, 3].Nodup := by decide
  have hcorrect := sort_correct_and_complete hnodes [(3, 1), (3, 1), (9, 2), (9, 9)]
  exact ⟨hsort, hcorrect.2.1.mp ⟨_, hsort⟩⟩

end SceneEngine.TopologicalOrder
