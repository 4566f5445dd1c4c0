import SceneEngine.Proofs.TopologicalOrder.Completion

/-!
# What the report of a cycle holds

When a graph cannot be sorted, the nodes to blame are reported.  One would expect these to be the
nodes that lie on cycles.  This module says which nodes are reported, and when they are those.

## What is left

A search that gets stuck leaves the nodes that can be reached from a cycle (`mem_left_iff`): nothing
on a cycle or behind it is ever placed, since along a path to a placed node every node is placed
before (`Searching.placed_of_transGen`); and whatever is left has a predecessor that is left.

## What is kept

From these, nodes without an edge into the rest are taken away as long as there are any.  This
leaves the nodes from which a cycle can be reached: every node that is kept has an edge to one that
is kept (`Trims.exists_edge`), and nodes that each have an edge to one of them are all kept
(`Trims.mem_of_forall_exists`).  Only nodes behind all cycles go.

## The report

So the report lists the nodes that lie between cycles, in the order given: they can be reached from
a cycle, and a cycle can be reached from them (`mem_report_iff`).  Nodes on cycles are among them.
A node on a path from one cycle to another is as well, though it may lie on none.
`reportsCycles_iff` says that the report is exact just when there is no such node, and
`not_forall_reportsCycles` is a graph with one.
-/

namespace SceneEngine.TopologicalOrder

open Relation

variable {α : Type} [DecidableEq α] {nodes : List α} {edges : List (α × α)} {u v : α}
  {e : CycleError α}

/-- A path of at least one edge leads from the node back to it. -/
def OnCycle (nodes : List α) (edges : List (α × α)) (v : α) : Prop :=
  TransGen (Joins nodes edges) v v

/-- The node can be reached from a cycle, or lies on one. -/
def AfterCycle (nodes : List α) (edges : List (α × α)) (v : α) : Prop :=
  ∃ u, OnCycle nodes edges u ∧ ReflTransGen (Joins nodes edges) u v

/-- A cycle can be reached from the node, or it lies on one. -/
def BeforeCycle (nodes : List α) (edges : List (α × α)) (v : α) : Prop :=
  ∃ w, OnCycle nodes edges w ∧ ReflTransGen (Joins nodes edges) v w

/-- When sorting fails, it reports the nodes on cycles and no others, in the order given. -/
def ReportsCycles (nodes : List α) (edges : List (α × α)) : Prop :=
  ∀ e, sort nodes edges = .error e →
    e.nodes.Sublist nodes ∧ ∀ v, v ∈ e.nodes ↔ OnCycle nodes edges v

/-! ## Paths and cycles -/

lemma OnCycle.afterCycle (h : OnCycle nodes edges v) : AfterCycle nodes edges v := ⟨v, h, .refl⟩

lemma OnCycle.beforeCycle (h : OnCycle nodes edges v) : BeforeCycle nodes edges v := ⟨v, h, .refl⟩

/-- What can be reached from a cycle goes on along every edge. -/
lemma AfterCycle.joins (h : AfterCycle nodes edges u) (huv : Joins nodes edges u v) :
    AfterCycle nodes edges v := by
  obtain ⟨w, hcycle, hwu⟩ := h
  exact ⟨w, hcycle, hwu.tail huv⟩

/-- From a node before a cycle some edge leads to another node before that cycle.  On the cycle
itself it is the next edge of it. -/
lemma BeforeCycle.exists_joins (h : BeforeCycle nodes edges u) :
    ∃ v, Joins nodes edges u v ∧ BeforeCycle nodes edges v := by
  obtain ⟨w, hcycle, huw⟩ := h
  -- where the path is empty, `u` is on the cycle itself, which goes round once more
  have hpath : TransGen (Joins nodes edges) u w := TransGen.trans_right huw hcycle
  obtain ⟨v, huv, hvw⟩ := TransGen.head'_iff.mp hpath
  exact ⟨v, huv, w, hcycle, hvw⟩

lemma OnCycle.mem_nodes (h : OnCycle nodes edges v) : v ∈ nodes := by
  obtain ⟨w, hvw, -⟩ := TransGen.head'_iff.mp h
  exact (joins_iff.mp hvw).2.1

lemma AfterCycle.mem_nodes (h : AfterCycle nodes edges v) : v ∈ nodes := by
  obtain ⟨u, hcycle, huv⟩ := h
  cases huv with
  | refl => exact hcycle.mem_nodes
  | tail _ hjoins => exact (joins_iff.mp hjoins).2.2

/-! ## The nodes that the search leaves -/

/-- Along a path to a placed node every node is placed, and the later the nearer to the end. -/
lemma Searching.placed_of_transGen {s : State α} (h : Searching nodes (retained nodes edges) s)
    (hpath : TransGen (Joins nodes edges) u v) (hv : v ∈ s.placed) :
    u ∈ s.placed ∧ s.placed.idxOf v < s.placed.idxOf u := by
  have hplaced : s.placed.Nodup := (List.nodup_append.mp h.tracks.nodup).2.1
  induction hpath with
  | single huv =>
    have hforward := h.forward _ _ huv hv
    exact ⟨hforward.subset (by simp), idxOf_lt_idxOf_of_sublist hforward hplaced⟩
  | tail _ hvw ih =>
    have hforward := h.forward _ _ hvw hv
    obtain ⟨hu, hlt⟩ := ih (hforward.subset (by simp))
    exact ⟨hu, (idxOf_lt_idxOf_of_sublist hforward hplaced).trans hlt⟩

/-- Nothing that can be reached from a cycle is ever placed. -/
lemma Searching.not_mem_placed {s : State α} (h : Searching nodes (retained nodes edges) s)
    (hv : AfterCycle nodes edges v) : v ∉ s.placed := by
  obtain ⟨u, hcycle, huv⟩ := hv
  intro hplaced
  have hu : u ∈ s.placed := (h.placed_of_transGen (hcycle.trans_left huv) hplaced).1
  exact Nat.lt_irrefl _ (h.placed_of_transGen hcycle hu).2

/-- A search that gets stuck leaves exactly the nodes that can be reached from a cycle. -/
lemma mem_left_iff (hnodes : nodes.Nodup)
    (hlength : (finalState nodes edges).placed.length ≠ nodes.length) :
    (v ∈ nodes.filter fun node => !(finalState nodes edges).placed.contains node) ↔
      AfterCycle nodes edges v := by
  have hleft : (v ∈ nodes.filter fun node => !(finalState nodes edges).placed.contains node) ↔
      v ∈ nodes.filter (· ∉ (finalState nodes edges).placed) := by
    simp
  rw [hleft]
  constructor
  · exact exists_cycle_of_forall_exists (exists_joins_of_not_placed hnodes hlength) v
  · intro hv
    obtain ⟨hsearch, -⟩ := searching_finalState hnodes edges
    exact List.mem_filter.mpr ⟨hv.mem_nodes, decide_eq_true (hsearch.not_mem_placed hv)⟩

/-! ## The nodes that are kept -/

lemma leadsInto_eq_true_iff {l : List α} :
    leadsInto edges l u = true ↔ ∃ v ∈ l, (u, v) ∈ edges := by
  simp only [leadsInto, children, List.any_eq_true, List.mem_map, List.mem_filter, beq_iff_eq,
    List.contains_iff_mem]
  constructor
  · rintro ⟨_, ⟨e, ⟨he, rfl⟩, rfl⟩, hv⟩
    exact ⟨e.2, hv, he⟩
  · rintro ⟨v, hv, huv⟩
    exact ⟨v, ⟨(u, v), ⟨huv, rfl⟩, rfl⟩, hv⟩

lemma Trims.sublist {l kept : List α} (h : Trims edges l kept) : kept.Sublist l := by
  induction h with
  | done => exact List.Sublist.refl _
  | round _ _ _ ih => exact ih.trans List.filter_sublist

/-- Every node that is kept has an edge to one that is kept. -/
lemma Trims.exists_edge {l kept : List α} (h : Trims edges l kept) :
    ∀ u ∈ kept, ∃ v ∈ kept, (u, v) ∈ edges := by
  induction h with
  | done hnone => exact fun u hu => leadsInto_eq_true_iff.mp (hnone u hu)
  | round _ _ _ ih => exact ih

/-- Nodes that each have an edge to one of them are all kept. -/
lemma Trims.mem_of_forall_exists {l kept : List α} (h : Trims edges l kept) {P : α → Prop}
    (hmem : ∀ u, P u → u ∈ l) (hnext : ∀ u, P u → ∃ v, (u, v) ∈ edges ∧ P v) :
    ∀ u, P u → u ∈ kept := by
  induction h with
  | done => exact hmem
  | round _ _ _ ih =>
    refine ih fun u hu => ?_
    obtain ⟨v, huv, hv⟩ := hnext u hu
    exact List.mem_filter.mpr ⟨hmem u hu, leadsInto_eq_true_iff.mpr ⟨v, hmem v hv, huv⟩⟩

/-- From the nodes that can be reached from a cycle, those before a cycle are kept. -/
lemma Trims.mem_iff {l kept : List α} (h : Trims (retained nodes edges) l kept)
    (hl : ∀ v, v ∈ l ↔ AfterCycle nodes edges v) :
    v ∈ kept ↔ AfterCycle nodes edges v ∧ BeforeCycle nodes edges v := by
  constructor
  · intro hv
    refine ⟨(hl v).mp (h.sublist.subset hv), ?_⟩
    -- against the edges, every kept node has a predecessor that is kept
    have hback : ∀ v ∈ kept, ∃ u ∈ kept, Function.swap (Joins nodes edges) u v := h.exists_edge
    obtain ⟨w, hcycle, hwv⟩ := exists_cycle_of_forall_exists hback v hv
    exact ⟨w, transGen_swap.mp hcycle, reflTransGen_swap.mp hwv⟩
  · refine h.mem_of_forall_exists
      (P := fun v => AfterCycle nodes edges v ∧ BeforeCycle nodes edges v)
      (fun u hu => (hl u).mpr hu.1) (fun u hu => ?_) v
    obtain ⟨w, huw, hw⟩ := hu.2.exists_joins
    exact ⟨w, huw, hu.1.joins huw, hw⟩

/-! ## The report -/

/-- A failing sort reports, in the order given, the nodes that lie between cycles. -/
lemma mem_report_iff (hnodes : nodes.Nodup) (h : sort nodes edges = .error e) :
    e.nodes.Sublist nodes ∧
      ∀ v, v ∈ e.nodes ↔ AfterCycle nodes edges v ∧ BeforeCycle nodes edges v := by
  have hends := ends_finalState hnodes edges
  cases (concludes_iff hnodes).mpr h.symm with
  | stuck hsearch hleft htrim =>
    cases hsearch.unique hends
    exact ⟨htrim.sublist.trans List.filter_sublist,
      fun v => htrim.mem_iff fun v => mem_left_iff hnodes hleft⟩

/-- **Which nodes are reported.**  The report of a failing sort is exact just when every node
between two cycles lies on a cycle itself. -/
theorem reportsCycles_iff (hnodes : nodes.Nodup) (edges : List (α × α)) :
    ReportsCycles nodes edges ↔
      ∀ v, AfterCycle nodes edges v → BeforeCycle nodes edges v → OnCycle nodes edges v := by
  constructor
  · intro hreports v hafter hbefore
    cases hsort : sort nodes edges with
    | ok order =>
      obtain ⟨u, hcycle, -⟩ := hafter
      exact absurd hcycle ((exists_sort_eq_ok_iff hnodes).mp ⟨order, hsort⟩ u)
    | error e =>
      have hv := ((mem_report_iff hnodes hsort).2 v).mpr ⟨hafter, hbefore⟩
      exact ((hreports e hsort).2 v).mp hv
  · intro hcycles e hsort
    obtain ⟨hsublist, hmem⟩ := mem_report_iff hnodes hsort
    refine ⟨hsublist, fun v => (hmem v).trans ⟨fun hv => hcycles v hv.1 hv.2, fun hv => ?_⟩⟩
    exact ⟨hv.afterCycle, hv.beforeCycle⟩

/-- Of a cycle, a node that leads into it and a node that is reached from it, exactly the cycle is
reported. -/
theorem reportsCycles_of_root_and_tail :
    ReportsCycles [1, 2, 3, 4] [(1, 2), (2, 3), (3, 2), (3, 4)] := by
  refine (reportsCycles_iff (by decide) _).mpr fun v hafter hbefore => ?_
  obtain ⟨w, hvw, -⟩ := hbefore.exists_joins
  have hcases : v = 1 ∨ v = 2 ∨ v = 3 := by
    have hedge := (joins_iff.mp hvw).1
    simp at hedge
    omega
  have htwo : Joins [1, 2, 3, 4] [(1, 2), (2, 3), (3, 2), (3, 4)] 2 3 := by simp [joins_iff]
  have hthree : Joins [1, 2, 3, 4] [(1, 2), (2, 3), (3, 2), (3, 4)] 3 2 := by simp [joins_iff]
  obtain rfl | rfl | rfl := hcases
  · -- no edge leads to the first node
    obtain ⟨u, hcycle, hpath⟩ := hafter
    obtain ⟨u', -, hu'⟩ := TransGen.tail'_iff.mp (hcycle.trans_left hpath)
    have hedge := (joins_iff.mp hu').1
    simp at hedge
  · exact .tail (.single htwo) hthree
  · exact .tail (.single hthree) htwo

/-- A node on the way from one cycle to another is reported, though it lies on none. -/
theorem not_forall_reportsCycles :
    ¬∀ (nodes : List Nat) (edges : List (Nat × Nat)), nodes.Nodup → ReportsCycles nodes edges := by
  intro hreports
  have hsort : sort [1, 2, 3] [(1, 1), (1, 2), (2, 3), (3, 3)] = .error ⟨[1, 2, 3]⟩ := rfl
  have hcycle : OnCycle [1, 2, 3] [(1, 1), (1, 2), (2, 3), (3, 3)] 2 :=
    ((hreports _ _ (by decide) _ hsort).2 2).mp (by simp)
  have hpath : ∀ v, TransGen (Joins [1, 2, 3] [(1, 1), (1, 2), (2, 3), (3, 3)]) 2 v → v = 3 := by
    intro v hv
    induction hv with
    | single hjoins => simpa using (joins_iff.mp hjoins).1
    | tail _ hjoins ih =>
      subst ih
      simpa using (joins_iff.mp hjoins).1
  cases hpath 2 hcycle

end SceneEngine.TopologicalOrder
