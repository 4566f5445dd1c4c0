import Mathlib.Data.List.Dedup
import SceneEngine.Proofs.TopologicalOrder.Completion

/-!
# Nodes that become ready together

Several nodes may be ready at the same time, and then the order among them is open.  One would
expect that it is the order in which the nodes are given.  This module says which order it is.

## Who becomes ready when

Nodes with the same predecessors (`Siblings`) become ready in the same step, when the last of these
is placed.  They enter the queue as their last edges from it are followed, since only then does
their number become zero (`State.arrivals_foldl_follow`).  Nothing overtakes in the queue, so this
is also their order in the result.  `State.arrivals` lists the nodes in the order in which they have
become ready, and a result is nothing else (`eq_arrivals_of_sort_eq_ok`).

## The invariant

`Queues` says what the order of arrival owes to the order of the nodes and to that of the edges:
nodes without predecessors arrive in the order given, and siblings in the order of their last edges
from the last of their predecessors (`LastParent`, `LastEdgeBefore`).  It is kept when a node is
placed (`Queues.place`), for siblings with two cases: their last predecessor is the one just placed,
or it was placed before and nothing changes.

## Main results

`sublist_of_roots` and `sublist_of_lastEdgeBefore` say in which order nodes stand.
`keepsGivenOrder_iff` says when the given order is kept, namely when the edges come in an order that
agrees with it, and `not_forall_keepsGivenOrder` has two edges that do not.
-/

namespace SceneEngine.TopologicalOrder

variable {α : Type} [DecidableEq α] {nodes : List α} {edges : List (α × α)} {u v p : α}
  {s : State α} {remaining : α → Nat}

/-- The same edges lead to both nodes.  How often an edge is given makes no difference. -/
def Siblings (nodes : List α) (edges : List (α × α)) (u v : α) : Prop :=
  ∀ p, Joins nodes edges p u ↔ Joins nodes edges p v

/-- When sorting succeeds, nodes with the same predecessors stand in the order given. -/
def KeepsGivenOrder (nodes : List α) (edges : List (α × α)) : Prop :=
  ∀ order, sort nodes edges = .ok order →
    ∀ u v, Siblings nodes edges u v → [u, v].Sublist nodes → [u, v].Sublist order

/-- Of the predecessors of a node, the one that is placed last. -/
structure LastParent (nodes : List α) (edges : List (α × α)) (order : List α) (p u : α) :
    Prop where
  /-- It is a predecessor, -/
  joins : Joins nodes edges p u
  /-- and all other predecessors are placed before it. -/
  last : ∀ q, Joins nodes edges q u → q = p ∨ [q, p].Sublist order

/-- The last edge from `p` to `u` comes before the last one to `v`. -/
def LastEdgeBefore (edges : List (α × α)) (p u v : α) : Prop :=
  ∃ before after, children edges p = before ++ u :: after ∧ u ∉ after ∧ v ∈ after

/-! ## The last edges -/

/-- Of two nodes that edges lead to from `p`, one has its last edge before the other. -/
lemma lastEdgeBefore_or (hne : u ≠ v) (hu : u ∈ children edges p) (hv : v ∈ children edges p) :
    LastEdgeBefore edges p u v ∨ LastEdgeBefore edges p v u := by
  rw [LastEdgeBefore, LastEdgeBefore]
  generalize children edges p = targets at hu hv ⊢
  induction targets with
  | nil => cases hu
  | cons c targets ih =>
    by_cases hu' : u ∈ targets
    · by_cases hv' : v ∈ targets
      · refine (ih hu' hv').imp ?_ ?_ <;>
        · rintro ⟨before, after, rfl, hnot, hmem⟩
          exact ⟨c :: before, after, rfl, hnot, hmem⟩
      · obtain rfl := (List.mem_cons.mp hv).resolve_right hv'
        exact .inr ⟨[], targets, rfl, hv', hu'⟩
    · obtain rfl := (List.mem_cons.mp hu).resolve_right hu'
      exact .inl ⟨[], targets, rfl, hu', (List.mem_cons.mp hv).resolve_left (Ne.symm hne)⟩

/-- Edges that do not count do not change which of two nodes of the graph has its last edge
first. -/
lemma LastEdgeBefore.retained (h : LastEdgeBefore edges p u v) (hp : p ∈ nodes) (hu : u ∈ nodes)
    (hv : v ∈ nodes) : LastEdgeBefore (retained nodes edges) p u v := by
  obtain ⟨before, after, hchildren, hnot, hmem⟩ := h
  refine ⟨before.filter fun c => nodes.contains p && nodes.contains c,
    after.filter fun c => nodes.contains p && nodes.contains c, ?_, fun h => ?_, ?_⟩
  · rw [children_retained, hchildren, List.filter_append,
      List.filter_cons_of_pos (by simp [hp, hu])]
  · exact hnot (List.mem_filter.mp h).1
  · exact List.mem_filter.mpr ⟨hmem, by simp [hp, hv]⟩

/-- Keeping the last of equal children keeps the order of the last edges. -/
lemma LastEdgeBefore.sublist_dedup (h : LastEdgeBefore edges p u v) :
    [u, v].Sublist (children edges p).dedup := by
  obtain ⟨before, after, hchildren, hnot, hmem⟩ := h
  have hlast : (u :: after).dedup.Sublist (children edges p).dedup := by
    rw [hchildren, List.dedup_append]
    exact (List.suffix_union_right _ _).sublist
  rw [List.dedup_cons_of_notMem hnot] at hlast
  have hv : [v].Sublist after.dedup := List.singleton_sublist.mpr (List.mem_dedup.mpr hmem)
  exact (hv.cons_cons u).trans hlast

/-! ## Becoming ready -/

/-- The nodes that have become ready, first come first.  Those that are placed came before those
that wait. -/
def State.arrivals (s : State α) : List α := s.placed.reverse ++ s.ready

/-- A node becomes ready when the last of its edges is followed. -/
lemma Tracks.arrivals_follow {c : α} (h : Tracks nodes remaining s) (hc : c ∈ nodes) :
    (s.follow c).arrivals = s.arrivals ++ if remaining c - 1 = 0 then [c] else [] := by
  by_cases hlast : remaining c - 1 = 0
  · simp [State.follow, h.degree c hc, hlast, State.arrivals]
  · simp [State.follow, h.degree c hc, hlast, State.arrivals]

/-- While edges are followed, the nodes for which none remains become ready in the order of the last
edges to them. -/
lemma State.arrivals_foldl_follow (h : Tracks nodes remaining s) (targets : List α)
    (htargets : ∀ c ∈ targets, c ∈ nodes) (hcount : ∀ c, targets.count c ≤ remaining c) :
    (targets.foldl State.follow s).arrivals =
      s.arrivals ++ targets.dedup.filter fun c => remaining c = targets.count c := by
  induction targets generalizing s remaining with
  | nil => simp
  | cons c targets ih =>
    obtain ⟨hc, htargets⟩ := List.forall_mem_cons.mp htargets
    obtain ⟨remaining', hnext, -, hcount', hsame⟩ := h.follow_cons hc hcount
    -- the nodes for which none remains are the same before and after the first edge
    have hdone : ∀ d, remaining' d = targets.count d ↔ remaining d = (c :: targets).count d := by
      intro d
      have := hsame d
      have := hcount d
      have := hcount' d
      omega
    have hself := hcount c
    rw [List.count_cons_self] at hself
    rw [List.foldl_cons, ih hnext htargets hcount', h.arrivals_follow hc]
    simp only [hdone]
    -- if another edge to the node is to come, it is not ready yet and takes its place with that one
    by_cases hmem : c ∈ targets
    · have hpos : 0 < targets.count c := List.count_pos_iff.mpr hmem
      have hmore : remaining c - 1 ≠ 0 := by omega
      rw [if_neg hmore, List.append_nil, List.dedup_cons_of_mem hmem]
    · have hzero : targets.count c = 0 := List.count_eq_zero.mpr hmem
      rw [List.dedup_cons_of_notMem hmem, List.append_assoc]
      congr 1
      by_cases hone : remaining c = 1
      · rw [List.filter_cons_of_pos (by simp [hone, hzero]), if_pos (by omega),
          List.singleton_append]
      · rw [List.filter_cons_of_neg (by simpa [hzero] using hone), if_neg (by omega),
          List.nil_append]

/-- Placing a ready node makes those ready to which it has all edges that remain. -/
lemma Searching.arrivals_place (h : Searching nodes edges s)
    (hedges : ∀ e ∈ edges, e.1 ∈ nodes ∧ e.2 ∈ nodes) {ready : List α}
    (hready : s.ready = v :: ready) :
    ((children edges v).foldl State.follow { s with ready, placed := v :: s.placed }).arrivals =
      s.arrivals ++ (children edges v).dedup.filter fun c =>
        owed edges s.placed c = (children edges v).count c := by
  obtain ⟨-, hmoved, hcount⟩ := h.take hready
  rw [State.arrivals_foldl_follow hmoved _ (mem_of_mem_children hedges) hcount]
  congr 1
  simp [State.arrivals, hready]

/-- What the order in which nodes have become ready owes to the order of the nodes and to that of
the edges. -/
structure Queues (nodes : List α) (edges : List (α × α)) (s : State α) : Prop where
  /-- Nodes without predecessors arrive in the order given, -/
  roots : ∀ u v, (∀ p, (p, u) ∉ edges) → (∀ p, (p, v) ∉ edges) → [u, v].Sublist nodes →
    [u, v].Sublist s.arrivals
  /-- and nodes with the same predecessors, once all of these are placed, in the order of their last
  edges. -/
  siblings : ∀ p u v, (∀ q, (q, u) ∈ edges ↔ (q, v) ∈ edges) → p ∈ s.placed →
    (∀ q, (q, u) ∈ edges → q = p ∨ [p, q].Sublist s.placed) → LastEdgeBefore edges p u v →
    [u, v].Sublist s.arrivals

lemma queues_start (nodes : List α) (edges : List (α × α)) :
    Queues nodes edges (State.start nodes edges) where
  roots := by
    intro u v hu hv huv
    have hdegree : ∀ c ∈ nodes, (∀ p, (p, c) ∉ edges) →
        (inDegrees nodes edges).get? c = some 0 := by
      intro c hc hnone
      rw [get?_inDegrees hc, ← owed_nil, Option.some.injEq, owed_eq_zero_iff]
      exact fun p hp => absurd hp (hnone p)
    have hkept := huv.filter fun node => ((inDegrees nodes edges).get? node).getD 0 == 0
    rw [List.filter_eq_self.mpr] at hkept
    · exact hkept
    · intro c hc
      rcases List.mem_pair.mp hc with rfl | rfl
      · rw [hdegree c (huv.subset (by simp)) hu]
        rfl
      · rw [hdegree c (huv.subset (by simp)) hv]
        rfl
  siblings := fun p u v _ hp => absurd hp List.not_mem_nil

/-- Placing a ready node settles the order of the nodes of which it is the last predecessor. -/
lemma Queues.place (hqueues : Queues nodes edges s) (h : Searching nodes edges s)
    (hedges : ∀ e ∈ edges, e.1 ∈ nodes ∧ e.2 ∈ nodes) {w : α} {ready : List α}
    (hready : s.ready = w :: ready) :
    Queues nodes edges
      ((children edges w).foldl State.follow { s with ready, placed := w :: s.placed }) := by
  have harrivals := h.arrivals_place hedges hready
  have hplaced := (h.place hedges hready).2
  have hw := (h.take hready).1
  refine ⟨fun u v hu hv huv => ?_, fun p u v hsame hp hlast hbefore => ?_⟩
  · rw [harrivals]
    exact (hqueues.roots u v hu hv huv).trans (List.sublist_append_left _ _)
  · rw [hplaced] at hp hlast
    rw [harrivals]
    by_cases hpw : p = w
    · -- all other predecessors are placed, so all edges that remain come from this one
      subst hpw
      have hsettled : ∀ c, (∀ q, (q, u) ∈ edges ↔ (q, c) ∈ edges) →
          owed edges s.placed c = (children edges p).count c := by
        intro c hc
        have hzero : owed edges (p :: s.placed) c = 0 := by
          refine owed_eq_zero_iff.mpr fun q hq => ?_
          rcases hlast q ((hc q).mpr hq) with rfl | hq
          · exact List.mem_cons_self
          · exact hq.subset (by simp)
        have hcons := owed_cons hw edges c
        omega
      have hready' := hbefore.sublist_dedup.filter fun c =>
        owed edges s.placed c = (children edges p).count c
      rw [List.filter_eq_self.mpr] at hready'
      · exact hready'.trans (List.sublist_append_right _ _)
      · intro c hc
        rcases List.mem_pair.mp hc with rfl | rfl
        · exact decide_eq_true (hsettled c fun q => Iff.rfl)
        · exact decide_eq_true (hsettled c hsame)
    · -- the last predecessor was placed before, and so were all others
      have hp' : p ∈ s.placed := (List.mem_cons.mp hp).resolve_left hpw
      refine (hqueues.siblings p u v hsame hp' (fun q hq => ?_) hbefore).trans
        (List.sublist_append_left _ _)
      refine (hlast q hq).imp_right fun hsub => ?_
      cases hsub with
      | cons _ hsub => exact hsub
      | cons_cons => exact absurd rfl hpw

lemma Queues.run (hedges : ∀ e ∈ edges, e.1 ∈ nodes ∧ e.2 ∈ nodes) (steps : Nat)
    (hqueues : Queues nodes edges s) (h : Searching nodes edges s) :
    Queues nodes edges (State.run edges steps s) := by
  induction steps generalizing s with
  | zero => exact hqueues
  | succ steps ih =>
    cases hready : s.ready with
    | nil =>
      have hrun : State.run edges (steps + 1) s = s := by simp [State.run, hready]
      rwa [hrun]
    | cons w ready =>
      have hrun : State.run edges (steps + 1) s = State.run edges steps
          ((children edges w).foldl State.follow { s with ready, placed := w :: s.placed }) := by
        simp [State.run, hready]
      rw [hrun]
      exact ih (hqueues.place h hedges hready) (h.place hedges hready).1

/-! ## The order of the result -/

/-- A result lists the nodes in the order in which they became ready. -/
lemma eq_arrivals_of_sort_eq_ok (hnodes : nodes.Nodup) {order : List α}
    (h : sort nodes edges = .ok order) :
    order = (finalState nodes edges).placed.reverse ∧
      order = (finalState nodes edges).arrivals := by
  rcases sort_eq nodes edges with ⟨order', hok, rfl, hlength⟩ | ⟨cycle, herror, -⟩
  · rw [hok] at h
    cases h
    have hle := (searching_finalState hnodes edges).1.length_le
    have hready : (finalState nodes edges).ready = [] :=
      List.eq_nil_of_length_eq_zero (by omega)
    exact ⟨rfl, by rw [State.arrivals, hready, List.append_nil]⟩
  · rw [herror] at h
    cases h

lemma queues_finalState (hnodes : nodes.Nodup) (edges : List (α × α)) :
    Queues nodes (retained nodes edges) (finalState nodes edges) :=
  (queues_start nodes (retained nodes edges)).run (fun _ he => mem_nodes_of_retained he)
    nodes.length (searching_start hnodes (retained nodes edges))

/-- Nodes without predecessors stand in the order given. -/
lemma sublist_of_roots (hnodes : nodes.Nodup) {order : List α} (h : sort nodes edges = .ok order)
    (hu : ∀ p, ¬Joins nodes edges p u) (hv : ∀ p, ¬Joins nodes edges p v)
    (huv : [u, v].Sublist nodes) : [u, v].Sublist order := by
  rw [(eq_arrivals_of_sort_eq_ok hnodes h).2]
  exact (queues_finalState hnodes edges).roots u v hu hv huv

/-- Nodes with the same predecessors stand in the order of their last edges from the last of
these. -/
lemma sublist_of_lastEdgeBefore (hnodes : nodes.Nodup) {order : List α}
    (h : sort nodes edges = .ok order) (hsiblings : Siblings nodes edges u v)
    (hp : LastParent nodes edges order p u) (hbefore : LastEdgeBefore edges p u v) :
    [u, v].Sublist order := by
  obtain ⟨hplaced, harrivals⟩ := eq_arrivals_of_sort_eq_ok hnodes h
  obtain ⟨-, hmemp, hmemu⟩ := joins_iff.mp hp.joins
  have hmemv : v ∈ nodes := (joins_iff.mp ((hsiblings p).mp hp.joins)).2.2
  have hpplaced : p ∈ (finalState nodes edges).placed := by
    rw [← List.mem_reverse, ← hplaced]
    exact (sorts_of_sort_eq_ok hnodes h).perm.mem_iff.mpr hmemp
  rw [harrivals]
  refine (queues_finalState hnodes edges).siblings p u v hsiblings hpplaced (fun q hq => ?_)
    (hbefore.retained hmemp hmemu hmemv)
  refine (hp.last q hq).imp_right fun hsub => ?_
  rw [hplaced] at hsub
  exact List.reverse_sublist.mp hsub

/-- A node with a predecessor has a last one. -/
lemma exists_lastParent (hnodes : nodes.Nodup) {order : List α} (h : sort nodes edges = .ok order)
    (hu : ∃ p, Joins nodes edges p u) : ∃ p, LastParent nodes edges order p u := by
  have hsorts := sorts_of_sort_eq_ok hnodes h
  have hmem : ∀ q, q ∈ order.filter (fun q => (q, u) ∈ retained nodes edges) ↔
      Joins nodes edges q u := by
    intro q
    rw [List.mem_filter, decide_eq_true_iff, hsorts.perm.mem_iff]
    exact and_iff_right_of_imp fun hq => (joins_iff.mp hq).2.1
  obtain ⟨q, hq⟩ := hu
  obtain ⟨others, p, hsplit⟩ :=
    (List.eq_nil_or_concat' _).resolve_left (List.ne_nil_of_mem ((hmem q).mpr hq))
  refine ⟨p, (hmem p).mp (by simp [hsplit]), fun q hq => ?_⟩
  have hq := (hmem q).mpr hq
  rw [hsplit, List.mem_append, List.mem_singleton] at hq
  refine hq.symm.imp_right fun hq => ?_
  have hpair : [q, p].Sublist (others ++ [p]) :=
    (List.singleton_sublist.mpr hq).append (List.Sublist.refl [p])
  exact (hsplit ▸ hpair).trans List.filter_sublist

/-- **When the given order is kept.**  Nodes with the same predecessors stand in the order given
just when their last edges from the last of these predecessors come in that order. -/
theorem keepsGivenOrder_iff (hnodes : nodes.Nodup) (edges : List (α × α)) :
    KeepsGivenOrder nodes edges ↔
      ∀ order, sort nodes edges = .ok order → ∀ u v p, Siblings nodes edges u v →
        [u, v].Sublist nodes → LastParent nodes edges order p u → LastEdgeBefore edges p u v := by
  constructor
  · intro hkeeps order hsort u v p hsiblings huv hp
    have horder : order.Nodup := (sorts_of_sort_eq_ok hnodes hsort).perm.nodup_iff.mpr hnodes
    have hfirst := idxOf_lt_idxOf_of_sublist (hkeeps order hsort u v hsiblings huv) horder
    have hmem : ∀ c, Joins nodes edges p c → c ∈ children edges p := fun c hc =>
      List.mem_map.mpr ⟨(p, c), List.mem_filter.mpr ⟨(joins_iff.mp hc).1, beq_self_eq_true p⟩, rfl⟩
    have hne : u ≠ v := fun heq => Nat.lt_irrefl _ (heq ▸ hfirst)
    refine (lastEdgeBefore_or hne (hmem u hp.joins)
      (hmem v ((hsiblings p).mp hp.joins))).resolve_right fun hafter => ?_
    -- otherwise the second node would stand before the first
    have hp' : LastParent nodes edges order p v :=
      ⟨(hsiblings p).mp hp.joins, fun q hq => hp.last q ((hsiblings q).mpr hq)⟩
    have hsecond := sublist_of_lastEdgeBefore hnodes hsort (fun q => (hsiblings q).symm) hp' hafter
    exact Nat.lt_asymm hfirst (idxOf_lt_idxOf_of_sublist hsecond horder)
  · intro hlast order hsort u v hsiblings huv
    by_cases hparent : ∃ p, Joins nodes edges p u
    · obtain ⟨p, hp⟩ := exists_lastParent hnodes hsort hparent
      exact sublist_of_lastEdgeBefore hnodes hsort hsiblings hp
        (hlast order hsort u v p hsiblings huv hp)
    · push Not at hparent
      exact sublist_of_roots hnodes hsort hparent
        (fun p hp => hparent p ((hsiblings p).mpr hp)) huv

/-- An edge to the third node comes first, but the last one to it comes after the edge to the
second. -/
theorem keepsGivenOrder_of_repeated_edge : KeepsGivenOrder [1, 2, 3] [(1, 3), (1, 2), (1, 3)] := by
  refine (keepsGivenOrder_iff (by decide) _).mpr fun order _ u v p hsiblings huv hp => ?_
  have hchild : ∀ c, Joins [1, 2, 3] [(1, 3), (1, 2), (1, 3)] p c → p = 1 ∧ (c = 2 ∨ c = 3) := by
    intro c hc
    have hedge := (joins_iff.mp hc).1
    simp at hedge
    omega
  obtain ⟨rfl, hu⟩ := hchild u hp.joins
  obtain ⟨-, hv⟩ := hchild v ((hsiblings 1).mp hp.joins)
  have hlt := idxOf_lt_idxOf_of_sublist huv (by decide)
  obtain rfl | rfl := hu <;> obtain rfl | rfl := hv
  · exact absurd hlt (by decide)
  · exact ⟨[3], [3], rfl, by decide, by decide⟩
  · exact absurd hlt (by decide)
  · exact absurd hlt (by decide)

/-- Two nodes that become ready together stand in the order of the edges to them, against the order
given. -/
theorem not_forall_keepsGivenOrder :
    ¬∀ (nodes : List Nat) (edges : List (Nat × Nat)), nodes.Nodup →
      KeepsGivenOrder nodes edges := by
  intro hkeeps
  have hsort : sort [1, 2, 3] [(1, 3), (1, 2)] = .ok [1, 3, 2] := rfl
  have hsiblings : Siblings [1, 2, 3] [(1, 3), (1, 2)] 2 3 := by
    intro p
    simp [joins_iff]
  have horder := hkeeps [1, 2, 3] [(1, 3), (1, 2)] (by decide) _ hsort 2 3 hsiblings (by decide)
  exact absurd horder (by decide)

end SceneEngine.TopologicalOrder
