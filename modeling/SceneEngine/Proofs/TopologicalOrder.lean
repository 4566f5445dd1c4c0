import Mathlib.Data.List.Perm.Subperm
import Mathlib.Data.Set.Finite.List
import SceneEngine.Proofs.Ordered.Collections
import SceneEngine.TopologicalOrder

/-!
# Sorting a graph

The nodes of a directed graph are placed one after another, each as soon as all its predecessors
are.  This module shows that the order which comes out is right, and that there is one exactly when
the graph has no cycle.  It also has the description of the search that the modules on ties and on
cycle reports build on.

## Edges that count

`Joins` are the edges between two of the nodes.  Others may be given and are ignored.  An edge that
is given twice counts twice, also among the predecessors that a node waits for, and is followed
twice.

## The search

The search does not look at predecessors.  It has a number for every node, lowers the number when it
follows an edge into the node, and takes the node for ready when the number becomes zero.  `Tracks`
says that these numbers, and the nodes that are ready or placed, agree with a given count of edges;
following one edge keeps it with a count that is one lower (`Tracks.follow`).  While nodes are
placed, the right count is the number of edges from nodes that are not placed yet (`owed`).
`Searching` is the invariant with this count; it also says that edges into placed nodes point
forward.  It holds at the start, is kept when a node is placed (`Searching.place`), and so holds in
the end (`Searching.run`).

## Main results

* `sorts_of_sort_eq_ok`: what is found has every node once and every edge pointing forward.
* `acyclic_of_sorts`: a graph with such an order has no cycle, because along every path the
  positions grow.
* `exists_sort_eq_ok_iff`: sorting succeeds exactly on graphs without a cycle.  A search that ends
  early leaves nodes that each have a predecessor among them, and finitely many such nodes have a
  cycle before them (`exists_cycle_of_forall_exists`).
* `sort_congr`: which order is found depends on the order of the edges only among those that leave
  one node.
-/

namespace SceneEngine.TopologicalOrder

variable {α : Type} [DecidableEq α] {nodes : List α} {edges edges' : List (α × α)} {u v c : α}

/-- An edge between two of the nodes.  The statements about sorting speak of these and not of the
edges as they are given. -/
def Joins (nodes : List α) (edges : List (α × α)) (u v : α) : Prop :=
  (u, v) ∈ retained nodes edges

/-- No node can be reached from itself. -/
def Acyclic (nodes : List α) (edges : List (α × α)) : Prop :=
  ∀ v, ¬Relation.TransGen (Joins nodes edges) v v

/-- The nodes in an order in which every edge points forward. -/
structure Sorts (nodes : List α) (edges : List (α × α)) (order : List α) : Prop where
  /-- Every node is listed once, and nothing else. -/
  perm : order.Perm nodes
  /-- The start of an edge comes before its end, so no edge leads from a node to itself. -/
  forward : ∀ u v, Joins nodes edges u v → [u, v].Sublist order

lemma joins_iff : Joins nodes edges u v ↔ (u, v) ∈ edges ∧ u ∈ nodes ∧ v ∈ nodes := by
  simp [Joins, retained]

/-! ## Counting edges -/

/-- The number of edges into `c` from nodes that are not placed.  An edge that is given twice is
owed twice. -/
def owed (edges : List (α × α)) (placed : List α) (c : α) : Nat :=
  edges.countP fun e => decide (e.2 = c) && decide (e.1 ∉ placed)

lemma owed_nil (edges : List (α × α)) (c : α) :
    owed edges [] c = edges.countP fun e => decide (e.2 = c) := by
  simp [owed]

lemma owed_eq_zero_iff {placed : List α} :
    owed edges placed c = 0 ↔ ∀ u, (u, c) ∈ edges → u ∈ placed := by
  simp only [owed, List.countP_eq_zero, Bool.and_eq_true, decide_eq_true_eq, not_and, not_not]
  constructor
  · exact fun h u hu => h (u, c) hu rfl
  · rintro h ⟨u, v⟩ hu rfl
    exact h u hu

/-- Placing a node settles its edges. -/
lemma owed_cons {placed : List α} (hv : v ∉ placed) (edges : List (α × α)) (c : α) :
    owed edges (v :: placed) c + (children edges v).count c = owed edges placed c := by
  induction edges with
  | nil => rfl
  | cons e edges ih =>
    obtain ⟨a, b⟩ := e
    simp only [owed, children, List.countP_cons, List.filter_cons] at ih ⊢
    by_cases hav : a = v
    · subst hav
      by_cases hbc : b = c
      · simp [hbc, hv] at ih ⊢
        omega
      · simp [hbc] at ih ⊢
        omega
    · by_cases hbc : b = c
      · by_cases hplaced : a ∈ placed
        · simp [hbc, hav, hplaced] at ih ⊢
          omega
        · simp [hbc, hav, hplaced] at ih ⊢
          omega
      · simp [hbc, hav] at ih ⊢
        omega

/-! ## Degrees -/

/-- What the search keeps track of: the number of edges into every node that remain to be followed,
and the nodes for which none remains. -/
structure Tracks (nodes : List α) (remaining : α → Nat) (s : State α) : Prop where
  /-- The number that is kept for a node is that of the edges that remain. -/
  degree : ∀ c ∈ nodes, s.degrees.get? c = some (remaining c)
  /-- The nodes that are ready or placed are those for which none remains, -/
  reached : ∀ c, c ∈ s.ready ++ s.placed ↔ c ∈ nodes ∧ remaining c = 0
  /-- and none of them is listed twice. -/
  nodup : (s.ready ++ s.placed).Nodup

variable {remaining : α → Nat} {s : State α}

/-- Following an edge to a node that still has one lowers its number by one.  If it was the last
one, the node is ready from then on, and it was not before. -/
lemma Tracks.follow (h : Tracks nodes remaining s) (hc : c ∈ nodes) (hpos : 0 < remaining c) :
    Tracks nodes (fun d => if d = c then remaining c - 1 else remaining d) (s.follow c) ∧
      (s.follow c).placed = s.placed := by
  have hget := h.degree c hc
  have hdegree : ∀ d ∈ nodes, (s.degrees.modify c (· - 1)).get? d =
      some (if d = c then remaining c - 1 else remaining d) := by
    intro d hd
    rw [OrderedMap.get?_modify]
    by_cases hdc : d = c
    · simp [hdc, hget]
    · simp [hdc, h.degree d hd]
  have hnew : c ∉ s.ready ++ s.placed := by
    rw [h.reached]
    omega
  by_cases hlast : remaining c - 1 = 0
  · have hfollow : s.follow c =
        { ready := s.ready ++ [c], placed := s.placed, degrees := s.degrees.modify c (· - 1) } := by
      simp [State.follow, hget, hlast]
    rw [hfollow]
    refine ⟨⟨hdegree, fun d => ?_, ?_⟩, rfl⟩
    · have hmem : d ∈ s.ready ++ [c] ++ s.placed ↔ d = c ∨ d ∈ s.ready ++ s.placed := by
        simp only [List.mem_append, List.mem_singleton]
        tauto
      rw [hmem, h.reached]
      by_cases hdc : d = c
      · simp [hdc, hc, hlast]
      · simp [hdc]
    · have hperm : (s.ready ++ [c] ++ s.placed).Perm (c :: (s.ready ++ s.placed)) := by
        rw [List.append_assoc]
        exact List.perm_middle
      exact hperm.nodup_iff.mpr (List.nodup_cons.mpr ⟨hnew, h.nodup⟩)
  · have hfollow : s.follow c =
        { ready := s.ready, placed := s.placed, degrees := s.degrees.modify c (· - 1) } := by
      simp [State.follow, hget, hlast]
    rw [hfollow]
    refine ⟨⟨hdegree, fun d => ?_, h.nodup⟩, rfl⟩
    rw [h.reached]
    by_cases hdc : d = c
    · subst hdc
      simp only [if_pos, hlast, and_false, iff_false, not_and]
      omega
    · simp [hdc]

/-- Following the first of several edges, when every node has at least as many as are to be
followed. -/
lemma Tracks.follow_cons (h : Tracks nodes remaining s) {targets : List α} (hc : c ∈ nodes)
    (hcount : ∀ d, (c :: targets).count d ≤ remaining d) :
    ∃ remaining', Tracks nodes remaining' (s.follow c) ∧ (s.follow c).placed = s.placed ∧
      (∀ d, targets.count d ≤ remaining' d) ∧
      ∀ d, remaining' d - targets.count d = remaining d - (c :: targets).count d := by
  have hpos : 0 < remaining c := by
    have hle := hcount c
    rw [List.count_cons_self] at hle
    omega
  obtain ⟨hnext, hplaced⟩ := h.follow hc hpos
  refine ⟨_, hnext, hplaced, fun d => ?_, fun d => ?_⟩
  · have hle := hcount d
    by_cases hdc : d = c
    · subst hdc
      rw [List.count_cons_self] at hle
      rw [if_pos rfl]
      omega
    · rw [List.count_cons_of_ne (Ne.symm hdc)] at hle
      rwa [if_neg hdc]
  · by_cases hdc : d = c
    · subst hdc
      rw [if_pos rfl, List.count_cons_self]
      omega
    · rw [if_neg hdc, List.count_cons_of_ne (Ne.symm hdc)]

/-- Following the edges to a list of nodes. -/
lemma Tracks.follow_all (h : Tracks nodes remaining s) (targets : List α)
    (htargets : ∀ c ∈ targets, c ∈ nodes) (hcount : ∀ c, targets.count c ≤ remaining c) :
    Tracks nodes (fun c => remaining c - targets.count c) (targets.foldl State.follow s) ∧
      (targets.foldl State.follow s).placed = s.placed := by
  induction targets generalizing s remaining with
  | nil => exact ⟨by simpa using h, rfl⟩
  | cons c targets ih =>
    obtain ⟨hc, htargets⟩ := List.forall_mem_cons.mp htargets
    obtain ⟨remaining', hnext, hplaced, hcount', hsame⟩ := h.follow_cons hc hcount
    obtain ⟨hall, hplaced'⟩ := ih hnext htargets hcount'
    rw [List.foldl_cons, ← funext hsame]
    exact ⟨hall, hplaced'.trans hplaced⟩

/-! ## The search -/

/-- What holds at every step of the search. -/
structure Searching (nodes : List α) (edges : List (α × α)) (s : State α) : Prop where
  /-- The edges that remain are those from nodes that are not placed. -/
  tracks : Tracks nodes (owed edges s.placed) s
  /-- What leads to a placed node was placed before it.  Placed nodes are listed latest first. -/
  forward : ∀ u v, (u, v) ∈ edges → v ∈ s.placed → [v, u].Sublist s.placed

/-- Writing zeros leaves a zero under every key that is written. -/
lemma get?_foldl_insert_zero (l : List α) {m : OrderedMap α Nat}
    (h : c ∈ l ∨ m.get? c = some 0) :
    ((l.map (·, 0)).foldl (fun m e => m.insert e.1 e.2) m).get? c = some 0 := by
  induction l generalizing m with
  | nil => exact h.resolve_left List.not_mem_nil
  | cons a l ih =>
    rw [List.map_cons, List.foldl_cons]
    apply ih
    rw [OrderedMap.get?_insert]
    by_cases hac : c = a
    · simp [hac]
    · rw [if_neg hac]
      exact h.imp_left fun hc => (List.mem_cons.mp hc).resolve_left hac

/-- Counting edges adds their number under the key of their end. -/
lemma get?_foldl_modify_succ (l : List (α × α)) {m : OrderedMap α Nat} {n : Nat}
    (h : m.get? c = some n) :
    (l.foldl (fun degrees e => degrees.modify e.2 (· + 1)) m).get? c =
      some (n + l.countP fun e => decide (e.2 = c)) := by
  induction l generalizing m n with
  | nil => exact h
  | cons e l ih =>
    rw [List.foldl_cons, List.countP_cons]
    by_cases hec : e.2 = c
    · have hnext : (m.modify e.2 (· + 1)).get? c = some (n + 1) := by
        rw [OrderedMap.get?_modify, if_pos hec.symm, h]
        rfl
      rw [ih hnext]
      simp only [hec, decide_true, if_true, Option.some.injEq]
      omega
    · have hnext : (m.modify e.2 (· + 1)).get? c = some n := by
        rw [OrderedMap.get?_modify, if_neg (Ne.symm hec), h]
      rw [ih hnext]
      simp [hec]

/-- At the start the degree of a node is the number of edges into it. -/
lemma get?_inDegrees (hc : c ∈ nodes) (edges : List (α × α)) :
    (inDegrees nodes edges).get? c = some (edges.countP fun e => decide (e.2 = c)) := by
  have hzero : (OrderedMap.ofList (nodes.map (·, 0))).get? c = some 0 :=
    get?_foldl_insert_zero nodes (.inl hc)
  rw [inDegrees, get?_foldl_modify_succ edges hzero, Nat.zero_add]

lemma searching_start (hnodes : nodes.Nodup) (edges : List (α × α)) :
    Searching nodes edges (State.start nodes edges) where
  tracks := by
    have hdegree : ∀ c ∈ nodes, (inDegrees nodes edges).get? c = some (owed edges [] c) := by
      intro c hc
      rw [get?_inDegrees hc, owed_nil]
    refine ⟨hdegree, fun c => ?_, ?_⟩
    · simp only [State.start, List.append_nil, List.mem_filter]
      refine and_congr_right fun hc => ?_
      simp [hdegree c hc]
    · simp only [State.start, List.append_nil]
      exact hnodes.filter _
  forward := fun u v _ hv => absurd hv List.not_mem_nil

/-- Placing a ready node leaves the numbers as they are, and its edges are among those that
remain. -/
lemma Searching.take (h : Searching nodes edges s) {ready : List α}
    (hready : s.ready = v :: ready) :
    v ∉ s.placed ∧ Tracks nodes (owed edges s.placed) { s with ready, placed := v :: s.placed } ∧
      ∀ c, (children edges v).count c ≤ owed edges s.placed c := by
  have hnodup : (v :: (ready ++ s.placed)).Nodup := by
    have hall := h.tracks.nodup
    rwa [hready, List.cons_append] at hall
  have hv : v ∉ s.placed := fun hmem =>
    (List.nodup_cons.mp hnodup).1 (List.mem_append.mpr (.inr hmem))
  have hperm : (ready ++ v :: s.placed).Perm (v :: (ready ++ s.placed)) := List.perm_middle
  refine ⟨hv, ⟨h.tracks.degree, fun c => ?_, hperm.nodup_iff.mpr hnodup⟩, fun c => ?_⟩
  · rw [hperm.mem_iff, ← h.tracks.reached c, hready, List.cons_append]
  · have hcons := owed_cons hv edges c
    omega

lemma mem_of_mem_children (hedges : ∀ e ∈ edges, e.1 ∈ nodes ∧ e.2 ∈ nodes) :
    ∀ c ∈ children edges v, c ∈ nodes := by
  intro c hc
  obtain ⟨e, he, rfl⟩ := List.mem_map.mp hc
  exact (hedges e (List.mem_filter.mp he).1).2

/-- Placing a ready node and following its edges. -/
lemma Searching.place (h : Searching nodes edges s)
    (hedges : ∀ e ∈ edges, e.1 ∈ nodes ∧ e.2 ∈ nodes) {ready : List α}
    (hready : s.ready = v :: ready) :
    Searching nodes edges ((children edges v).foldl State.follow
      { s with ready, placed := v :: s.placed }) ∧
    ((children edges v).foldl State.follow
      { s with ready, placed := v :: s.placed }).placed = v :: s.placed := by
  obtain ⟨hv, hmoved, hcount⟩ := h.take hready
  obtain ⟨hall, hplaced⟩ := hmoved.follow_all (children edges v)
    (mem_of_mem_children hedges) hcount
  have howed : (fun c => owed edges s.placed c - (children edges v).count c) =
      owed edges (v :: s.placed) := by
    funext c
    have hcons := owed_cons hv edges c
    omega
  rw [howed] at hall
  refine ⟨⟨hplaced.symm ▸ hall, fun a b hab hb => ?_⟩, hplaced⟩
  rw [hplaced] at hb ⊢
  rcases List.mem_cons.mp hb with rfl | hb
  · -- a ready node has all its predecessors placed
    have hzero := ((h.tracks.reached b).mp (by simp [hready])).2
    have ha := owed_eq_zero_iff.mp hzero a hab
    exact List.Sublist.cons_cons b (List.singleton_sublist.mpr ha)
  · exact (h.forward a b hab hb).cons v

/-- The search goes on until nothing is ready, or until it has placed as many nodes as there were
steps.  In the second case with as many steps as nodes, nothing is left to place. -/
lemma Searching.run (hedges : ∀ e ∈ edges, e.1 ∈ nodes ∧ e.2 ∈ nodes) (steps : Nat)
    (h : Searching nodes edges s) :
    Searching nodes edges (State.run edges steps s) ∧
      ((State.run edges steps s).ready = [] ∨
        (State.run edges steps s).placed.length = s.placed.length + steps) := by
  induction steps generalizing s with
  | zero => exact ⟨h, .inr rfl⟩
  | succ steps ih =>
    -- nothing is ready, and the search ends here, or a node is placed
    cases hready : s.ready with
    | nil =>
      have hrun : State.run edges (steps + 1) s = s := by simp [State.run, hready]
      rw [hrun]
      exact ⟨h, .inl hready⟩
    | cons v ready =>
      obtain ⟨hnext, hplaced⟩ := h.place hedges hready
      obtain ⟨hsearch, hend⟩ := ih hnext
      have hrun : State.run edges (steps + 1) s = State.run edges steps
          ((children edges v).foldl State.follow { s with ready, placed := v :: s.placed }) := by
        simp [State.run, hready]
      rw [hrun]
      refine ⟨hsearch, hend.imp_right fun hlength => ?_⟩
      rw [hlength, hplaced, List.length_cons]
      omega

/-! ## Sorting -/

lemma mem_nodes_of_retained {e : α × α} (he : e ∈ retained nodes edges) :
    e.1 ∈ nodes ∧ e.2 ∈ nodes := by
  simpa [retained] using (List.mem_filter.mp he).2

/-- The state in which the search ends. -/
def finalState (nodes : List α) (edges : List (α × α)) : State α :=
  (State.start nodes (retained nodes edges)).run (retained nodes edges) nodes.length

lemma searching_finalState (hnodes : nodes.Nodup) (edges : List (α × α)) :
    Searching nodes (retained nodes edges) (finalState nodes edges) ∧
      ((finalState nodes edges).ready = [] ∨
        (finalState nodes edges).placed.length = nodes.length) := by
  obtain ⟨hsearch, hend⟩ := (searching_start hnodes (retained nodes edges)).run
    (fun e he => mem_nodes_of_retained he) nodes.length
  refine ⟨hsearch, hend.imp_right fun hlength => ?_⟩
  rw [finalState, hlength]
  exact Nat.zero_add _

/-- Sorting gives what was placed, in the order in which it was, if that is everything. -/
lemma sort_eq (nodes : List α) (edges : List (α × α)) :
    (∃ order, sort nodes edges = .ok order ∧ order = (finalState nodes edges).placed.reverse ∧
      (finalState nodes edges).placed.length = nodes.length) ∨
    (∃ cycle, sort nodes edges = .error cycle ∧
      (finalState nodes edges).placed.length ≠ nodes.length) := by
  by_cases hlength : (finalState nodes edges).placed.length = nodes.length
  · exact .inl ⟨_, if_pos hlength, rfl, hlength⟩
  · exact .inr ⟨_, if_neg hlength, hlength⟩

/-- A sorted graph lists every node once, with every edge pointing forward. -/
theorem sorts_of_sort_eq_ok (hnodes : nodes.Nodup) {order : List α}
    (h : sort nodes edges = .ok order) : Sorts nodes edges order := by
  obtain ⟨hsearch, -⟩ := searching_finalState hnodes edges
  have hplacedNodup : (finalState nodes edges).placed.Nodup :=
    (List.nodup_append.mp hsearch.tracks.nodup).2.1
  have hsubset : (finalState nodes edges).placed ⊆ nodes := by
    intro c hc
    exact ((hsearch.tracks.reached c).mp (List.mem_append.mpr (.inr hc))).1
  rcases sort_eq nodes edges with ⟨order', hok, rfl, hlength⟩ | ⟨cycle, herror, -⟩
  · rw [hok] at h
    cases h
    have hperm : (finalState nodes edges).placed.Perm nodes :=
      (List.subperm_of_subset hplacedNodup hsubset).perm_of_length_le hlength.ge
    refine ⟨(List.reverse_perm _).trans hperm, fun u v huv => ?_⟩
    have hv : v ∈ (finalState nodes edges).placed :=
      hperm.mem_iff.mpr (mem_nodes_of_retained huv).2
    exact (hsearch.forward u v huv hv).reverse
  · rw [herror] at h
    cases h

/-- In a list without repetitions the first of two elements has the smaller position. -/
lemma idxOf_lt_idxOf_of_sublist {order : List α} (h : [u, v].Sublist order)
    (hnodup : order.Nodup) : order.idxOf u < order.idxOf v := by
  induction order with
  | nil => cases h
  | cons a order ih =>
    obtain ⟨ha, hrest⟩ := List.nodup_cons.mp hnodup
    cases h with
    | cons _ h =>
      have hu : a ≠ u := fun heq => ha (heq ▸ h.subset List.mem_cons_self)
      have hv : a ≠ v := fun heq => ha (heq ▸ h.subset (by simp))
      rw [List.idxOf_cons_ne _ hu, List.idxOf_cons_ne _ hv]
      exact Nat.succ_lt_succ (ih h hrest)
    | cons_cons _ h =>
      have hv : u ≠ v := fun heq => ha (heq ▸ List.singleton_sublist.mp h)
      rw [List.idxOf_cons_self, List.idxOf_cons_ne _ hv]
      exact Nat.succ_pos _

/-- A graph that can be sorted has no cycle, because along every path the positions grow. -/
theorem acyclic_of_sorts (hnodes : nodes.Nodup) {order : List α} (h : Sorts nodes edges order) :
    Acyclic nodes edges := by
  have horder : order.Nodup := h.perm.nodup_iff.mpr hnodes
  have hpath : ∀ u v, Relation.TransGen (Joins nodes edges) u v →
      order.idxOf u < order.idxOf v := by
    intro u v huv
    induction huv with
    | single huv => exact idxOf_lt_idxOf_of_sublist (h.forward _ _ huv) horder
    | tail _ hvw ih => exact ih.trans (idxOf_lt_idxOf_of_sublist (h.forward _ _ hvw) horder)
  exact fun v hv => Nat.lt_irrefl _ (hpath v v hv)

/-- Where every node has a predecessor among the same nodes, each can be reached from a cycle.
Going back from a node one would otherwise never meet a node again, and there are only finitely
many. -/
lemma exists_cycle_of_forall_exists {β : Type} {r : β → β → Prop} {rest : List β}
    (hrest : ∀ v ∈ rest, ∃ u ∈ rest, r u v) :
    ∀ v ∈ rest, ∃ u, Relation.TransGen r u u ∧ Relation.ReflTransGen r u v := by
  by_contra hnone
  push Not at hnone
  obtain ⟨v, hv, hv'⟩ := hnone
  -- among the nodes that no cycle reaches, every node has a predecessor, and none reaches itself
  let Free (v : β) : Prop := v ∈ rest ∧ ∀ u, Relation.TransGen r u u → ¬Relation.ReflTransGen r u v
  let reaches (u v : {w // Free w}) : Prop := Relation.TransGen r u.1 v.1
  have : Finite {w // Free w} := rest.finite_toSet.subset fun w hw => hw.1
  have : IsTrans {w // Free w} reaches := ⟨fun _ _ _ huv hvw => huv.trans hvw⟩
  have : Std.Irrefl reaches := ⟨fun v hcycle => v.2.2 v.1 hcycle .refl⟩
  have hwell : WellFounded reaches := Finite.wellFounded_of_trans_of_irrefl reaches
  have hfree : ∀ v : {w // Free w}, False := by
    intro v
    induction v using hwell.induction with
    | _ v ih =>
      obtain ⟨u, hu, huv⟩ := hrest v.1 v.2.1
      exact ih ⟨u, hu, fun w hcycle hwu => v.2.2 w hcycle (hwu.tail huv)⟩ (.single huv)
  exact hfree ⟨v, hv, hv'⟩

/-- In a graph without a cycle, nodes that each have a predecessor among them are none at all. -/
lemma eq_nil_of_forall_exists_joins (hacyclic : Acyclic nodes edges) {rest : List α}
    (hrest : ∀ v ∈ rest, ∃ u ∈ rest, Joins nodes edges u v) : rest = [] := by
  refine List.eq_nil_iff_forall_not_mem.mpr fun v hv => ?_
  obtain ⟨u, hcycle, -⟩ := exists_cycle_of_forall_exists hrest v hv
  exact hacyclic u hcycle

/-- When the search ends before all nodes are placed, every node that is left has a predecessor that
is left. -/
lemma exists_joins_of_not_placed (hnodes : nodes.Nodup)
    (hlength : (finalState nodes edges).placed.length ≠ nodes.length) :
    ∀ v ∈ nodes.filter (· ∉ (finalState nodes edges).placed),
      ∃ u ∈ nodes.filter (· ∉ (finalState nodes edges).placed), Joins nodes edges u v := by
  obtain ⟨hsearch, hend⟩ := searching_finalState hnodes edges
  have hready := hend.resolve_right hlength
  intro v hv
  obtain ⟨hmem, hleft⟩ := List.mem_filter.mp hv
  have howed : owed (retained nodes edges) (finalState nodes edges).placed v ≠ 0 := by
    intro hzero
    have hreached := (hsearch.tracks.reached v).mpr ⟨hmem, hzero⟩
    rw [hready, List.nil_append] at hreached
    exact of_decide_eq_true hleft hreached
  rw [ne_eq, owed_eq_zero_iff] at howed
  push Not at howed
  obtain ⟨u, hjoins, hu⟩ := howed
  exact ⟨u, List.mem_filter.mpr ⟨(mem_nodes_of_retained hjoins).1, decide_eq_true hu⟩, hjoins⟩

/-- **Sorting succeeds exactly on graphs without a cycle.** -/
theorem exists_sort_eq_ok_iff (hnodes : nodes.Nodup) :
    (∃ order, sort nodes edges = .ok order) ↔ Acyclic nodes edges := by
  constructor
  · rintro ⟨order, hsort⟩
    exact acyclic_of_sorts hnodes (sorts_of_sort_eq_ok hnodes hsort)
  · intro hacyclic
    rcases sort_eq nodes edges with ⟨order, hok, -⟩ | ⟨cycle, -, hlength⟩
    · exact ⟨order, hok⟩
    · -- nothing is left, so all nodes are placed after all
      have hnone := eq_nil_of_forall_exists_joins hacyclic
        (exists_joins_of_not_placed hnodes hlength)
      obtain ⟨hsearch, -⟩ := searching_finalState hnodes edges
      have hsubset : nodes ⊆ (finalState nodes edges).placed := by
        intro v hv
        simpa using List.filter_eq_nil_iff.mp hnone v hv
      have hnodup := (List.nodup_append.mp hsearch.tracks.nodup).2.1
      have hsubset' : (finalState nodes edges).placed ⊆ nodes := by
        intro v hv
        exact ((hsearch.tracks.reached v).mp (List.mem_append.mpr (.inr hv))).1
      have hle := (List.subperm_of_subset hnodes hsubset).length_le
      have hge := (List.subperm_of_subset hnodup hsubset').length_le
      exact absurd (Nat.le_antisymm hge hle) hlength

/-! ## Edges in another order -/

lemma children_retained (nodes : List α) (edges : List (α × α)) (v : α) :
    children (retained nodes edges) v =
      (children edges v).filter fun c => nodes.contains v && nodes.contains c := by
  rw [children, retained, List.filter_filter, children, List.filter_map, List.filter_filter]
  refine congrArg (List.map Prod.snd) (List.filter_congr fun e _ => ?_)
  by_cases he : e.1 = v
  · simp [he]
  · have hne : (e.1 == v) = false := beq_eq_false_iff_ne.mpr he
    simp [hne]

lemma count_children (edges : List (α × α)) (u v : α) :
    (children edges u).count v = edges.count (u, v) := by
  rw [children, List.count_eq_countP, List.countP_map, List.countP_filter, List.count_eq_countP]
  refine List.countP_congr fun e _ => ?_
  simp [Prod.ext_iff, and_comm]

/-- The edges are the same up to their order when the same edges leave every node. -/
lemma perm_of_children_eq (h : ∀ v, children edges v = children edges' v) : edges.Perm edges' := by
  refine List.perm_iff_count.mpr fun e => ?_
  rw [← count_children, ← count_children, h]

lemma inDegrees_congr (h : edges.Perm edges') : inDegrees nodes edges = inDegrees nodes edges' := by
  exact h.foldl_eq' (fun e _ e' _ degrees => degrees.modify_comm e.2 e'.2 (· + 1)) _

lemma run_congr (h : ∀ v, children edges v = children edges' v) (steps : Nat) (s : State α) :
    State.run edges steps s = State.run edges' steps s := by
  induction steps generalizing s with
  | zero => rfl
  | succ steps ih =>
    simp only [State.run]
    split
    · rfl
    · rw [h, ih]

lemma trimSinks_congr (h : ∀ v, children edges v = children edges' v) (rounds : Nat)
    (l : List α) : trimSinks edges rounds l = trimSinks edges' rounds l := by
  induction rounds generalizing l with
  | zero => rfl
  | succ rounds ih =>
    have hinto : leadsInto edges l = leadsInto edges' l := by
      funext v
      rw [leadsInto, leadsInto, h]
    simp only [trimSinks, hinto, ih]

/-- Sorting reads the edges only by the nodes that they leave.  In particular, edges that leave
different nodes may be given in any order. -/
theorem sort_congr (h : ∀ v, children edges v = children edges' v) :
    sort nodes edges = sort nodes edges' := by
  have hretained : ∀ v, children (retained nodes edges) v = children (retained nodes edges') v := by
    intro v
    rw [children_retained, children_retained, h]
  have hstart : State.start nodes (retained nodes edges) =
      State.start nodes (retained nodes edges') := by
    rw [State.start, State.start, inDegrees_congr (perm_of_children_eq hretained)]
  simp only [sort, hstart, run_congr hretained, trimSinks_congr hretained]

end SceneEngine.TopologicalOrder
