import SceneEngine.Proofs.Shading.Validation
import SceneEngine.Shading.Compiler

/-!
# Needed nodes

For each stage only the nodes are evaluated that its roots need.  They are found by a search along
connections, backwards from the roots, and then put into the order in which nodes are evaluated.
This module says what the search finds, and what becomes of it.

## The search

A node is needed for some seeds when one of them can be reached from it along connections
(`Network.mem_closure_iff`).  The search for such nodes keeps a list of those it has found and a
stack of those it still has to look at, and its invariant is that whatever a found node reads from
is found or on the stack (`Network.Explored`): with an empty stack the found nodes are closed under
reading, so that every path to a seed lies within them.

Only whether a node was found counts afterwards, not when.

## Order

The needed nodes are picked from the order of the network (`Network.needed`), and so each stands
there once and behind those that it reads from (`Network.Resolves.nodup_needed`,
`Network.Resolves.sublist_needed_of_feeds`), and the nodes needed for fewer seeds are a part of
those needed for more (`Network.filter_needed`).

## Evaluated nodes

When nodes are evaluated, their code comes in the order that was asked for (`keys_evaluate`), so
that picking the code of some nodes again means leaving out the rest (`filterMap_find?_eq`).
-/

namespace SceneEngine.Shading

namespace Network

variable {registry : NodeRegistry} {tree : NodeTree} {network : Network} {i j : Nat}
  {seeds found stack : List Nat}

/-- The node in one position feeds the node in another. -/
def Feeds (network : Network) (i j : Nat) : Prop := i ∈ network.producers j

/-- What feeds a station is read off its sources, -/
lemma feeds_iff_of_getElem? {station : Station} (h : network.stations[j]? = some station) :
    network.Feeds i j ↔ ∃ source ∈ station.sources.values, source.node = i := by
  rw [Feeds, producers, h]
  exact List.mem_map

/-- and is the same as an edge between positions. -/
lemma feeds_iff : network.Feeds i j ↔ (i, j) ∈ connections network.stations := by
  rw [connections, List.mem_flatMap]
  constructor
  · intro h
    cases hstation : network.stations[j]? with
    | none =>
      rw [Feeds, producers, hstation] at h
      cases h
    | some station =>
      obtain ⟨source, hsource, rfl⟩ := (feeds_iff_of_getElem? hstation).mp h
      exact ⟨(station, j), List.mem_zipIdx_iff_getElem?.mpr hstation,
        List.mem_map.mpr ⟨source, hsource, rfl⟩⟩
  · rintro ⟨⟨station, k⟩, hstation, hedge⟩
    obtain ⟨source, hsource, heq⟩ := List.mem_map.mp hedge
    obtain ⟨rfl, rfl⟩ := Prod.mk.inj heq
    have hstation := List.mem_zipIdx_iff_getElem?.mp hstation
    exact (feeds_iff_of_getElem? hstation).mpr ⟨source, hsource, rfl⟩

/-! ## The search -/

/-- What the found nodes read from is found or on the stack.  The search preserves it. -/
def Explored (network : Network) (found stack : List Nat) : Prop :=
  ∀ i j, network.Feeds i j → j ∈ found → i ∈ found ∨ i ∈ stack

/-- A node that was found before leaves the stack. -/
lemma Explored.skip (h : network.Explored found (i :: stack)) (hi : i ∈ found) :
    network.Explored found stack := by
  intro k j hfeeds hj
  rcases h k j hfeeds hj with hk | hk
  · exact .inl hk
  · rcases List.mem_cons.mp hk with rfl | hk
    · exact .inl hi
    · exact .inr hk

/-- A node that is found leaves the stack to what it reads from. -/
lemma Explored.find (h : network.Explored found (i :: stack)) :
    network.Explored (i :: found) ((network.producers i).reverse ++ stack) := by
  intro k j hfeeds hj
  rcases List.mem_cons.mp hj with rfl | hj
  · exact .inr (List.mem_append_left stack (List.mem_reverse.mpr hfeeds))
  · rcases h k j hfeeds hj with hk | hk
    · exact .inl (List.mem_cons_of_mem i hk)
    · rcases List.mem_cons.mp hk with rfl | hk
      · exact .inl List.mem_cons_self
      · exact .inr (List.mem_append_right _ hk)

/-- The search ends with what leads to a node that was found before or is on the stack. -/
lemma mem_search_iff (h : network.Explored found stack) :
    i ∈ network.search found stack ↔
      ∃ s, (s ∈ found ∨ s ∈ stack) ∧ Relation.ReflTransGen network.Feeds i s := by
  fun_induction network.search found stack with
  | case1 found =>
    constructor
    · exact fun hi => ⟨i, .inl hi, .refl⟩
    · rintro ⟨s, hs, hpath⟩
      -- with nothing left on the stack, the found nodes are closed under what they read from
      induction hpath using Relation.ReflTransGen.head_induction_on with
      | refl => exact hs.resolve_right List.not_mem_nil
      | head hfeeds _ ih => exact (h _ _ hfeeds ih).resolve_right List.not_mem_nil
  | case2 found a stack hfound ih =>
    have ha : a ∈ found := List.contains_iff_mem.mp hfound
    rw [ih (h.skip ha)]
    constructor
    · rintro ⟨s, hs, hpath⟩
      exact ⟨s, hs.imp_right (List.mem_cons_of_mem a), hpath⟩
    · rintro ⟨s, hs | hs, hpath⟩
      · exact ⟨s, .inl hs, hpath⟩
      · rcases List.mem_cons.mp hs with rfl | hs
        · exact ⟨s, .inl ha, hpath⟩
        · exact ⟨s, .inr hs, hpath⟩
  | case3 found a stack hfound ih =>
    -- what reaches a node that it reads from reaches the node itself
    rw [ih h.find]
    constructor
    · rintro ⟨s, hs | hs, hpath⟩
      · rcases List.mem_cons.mp hs with rfl | hs
        · exact ⟨s, .inr List.mem_cons_self, hpath⟩
        · exact ⟨s, .inl hs, hpath⟩
      · rcases List.mem_append.mp hs with hs | hs
        · exact ⟨a, .inr List.mem_cons_self, hpath.tail (List.mem_reverse.mp hs)⟩
        · exact ⟨s, .inr (List.mem_cons_of_mem a hs), hpath⟩
    · rintro ⟨s, hs | hs, hpath⟩
      · exact ⟨s, .inl (List.mem_cons_of_mem a hs), hpath⟩
      · rcases List.mem_cons.mp hs with rfl | hs
        · exact ⟨s, .inl List.mem_cons_self, hpath⟩
        · exact ⟨s, .inr (List.mem_append_right _ hs), hpath⟩

/-- The search finds the nodes from which a seed can be reached. -/
theorem mem_closure_iff : i ∈ network.closure seeds ↔
    ∃ s ∈ seeds, Relation.ReflTransGen network.Feeds i s := by
  have hstart : network.Explored [] seeds.reverse := fun _ _ _ hj => absurd hj List.not_mem_nil
  rw [closure, mem_search_iff hstart]
  simp only [List.not_mem_nil, false_or, List.mem_reverse]

/-- With more seeds more nodes are found. -/
lemma closure_subset {seeds' : List Nat} (hseeds : seeds ⊆ seeds') :
    network.closure seeds ⊆ network.closure seeds' := by
  intro i hi
  obtain ⟨s, hs, hpath⟩ := mem_closure_iff.mp hi
  exact mem_closure_iff.mpr ⟨s, hseeds hs, hpath⟩

/-! ## Needed nodes in order -/

/-- A node is needed if it is in the order and was found. -/
lemma mem_needed_iff_mem_closure :
    i ∈ network.needed seeds ↔ i ∈ network.order ∧ i ∈ network.closure seeds := by
  rw [needed, List.mem_filter, List.contains_iff_mem]

/-- The needed nodes are those from which a seed can be reached. -/
theorem mem_needed_iff : i ∈ network.needed seeds ↔
    i ∈ network.order ∧ ∃ s ∈ seeds, Relation.ReflTransGen network.Feeds i s := by
  rw [mem_needed_iff_mem_closure, mem_closure_iff]

/-- The nodes needed for some of the seeds are those needed for all of them, without some. -/
lemma filter_needed {seeds' : List Nat} (hseeds : seeds ⊆ seeds') :
    (network.needed seeds').filter (network.closure seeds).contains = network.needed seeds := by
  rw [needed, needed, List.filter_filter]
  refine List.filter_congr fun i _ => ?_
  rw [Bool.and_eq_left_iff_imp]
  intro hi
  exact List.contains_iff_mem.mpr (closure_subset hseeds (List.contains_iff_mem.mp hi))

namespace Resolves

variable (h : network.Resolves registry tree)
include h

/-- The edges of the network are those that it was sorted by. -/
lemma feeds_eq : network.Feeds =
    TopologicalOrder.Joins (List.range network.stations.length) (connections network.stations) := by
  funext i j
  rw [feeds_iff, h.wired.mem_connections_iff, h.wired.joins_iff]

/-- One node feeds another exactly when a link leads from it to the other. -/
lemma feeds_iff_exists_link : network.Feeds i j ↔
    ∃ link ∈ tree.links, tree.indexOf? link.source.node = some i ∧
      tree.indexOf? link.target.node = some j := by
  rw [feeds_iff, h.wired.mem_connections_iff]

lemma nodup_order : network.order.Nodup := h.sorts.perm.nodup_iff.mpr List.nodup_range

/-- All nodes of the network are in its order. -/
lemma mem_order_iff : i ∈ network.order ↔ i < network.stations.length := by
  rw [h.sorts.perm.mem_iff, List.mem_range]

/-- A node stands in the order behind those that it reads from. -/
lemma forward (hfeeds : network.Feeds i j) : [i, j].Sublist network.order := by
  rw [h.feeds_eq] at hfeeds
  exact h.sorts.forward i j hfeeds

lemma nodup_needed (seeds : List Nat) : (network.needed seeds).Nodup := h.nodup_order.filter _

/-- What a needed node reads from is needed as well, and stands before it. -/
lemma sublist_needed_of_feeds (hfeeds : network.Feeds i j) (hj : j ∈ network.needed seeds) :
    [i, j].Sublist (network.needed seeds) := by
  have hj := (mem_needed_iff_mem_closure.mp hj).2
  obtain ⟨s, hs, hpath⟩ := mem_closure_iff.mp hj
  have hi : i ∈ network.closure seeds := mem_closure_iff.mpr ⟨s, hs, .head hfeeds hpath⟩
  -- both nodes survive the filter that makes the needed nodes from the order
  have hkept : [i, j].filter (network.closure seeds).contains = [i, j] := by
    simp [hi, hj]
  have hsub := (h.forward hfeeds).filter (network.closure seeds).contains
  rwa [hkept] at hsub

end Resolves

end Network

/-! ## Evaluated nodes -/

/-- Picking the code of some nodes, in their order, leaves out the rest. -/
lemma filterMap_find?_eq {code : StageCode} (hnodup : (code.map Prod.fst).Nodup) (p : Nat → Bool) :
    ((code.map Prod.fst).filter p).filterMap (fun i => (code.find? (·.1 == i)).map Prod.snd) =
      (code.filter fun entry => p entry.1).map Prod.snd := by
  have hfind : ∀ entry ∈ code.filter fun entry => p entry.1,
      (code.find? (·.1 == entry.1)).map Prod.snd = some entry.2 := fun entry hentry =>
    OrderedMap.get?_eq_some_iff (m := ⟨code, hnodup⟩).mpr (List.mem_filter.mp hentry).1
  rw [List.filter_map, List.filterMap_map]
  exact (List.filterMap_congr hfind).trans (congrFun List.filterMap_eq_map _)

section

variable {library : FragmentLibrary} {network : Network} {stage : Stage} {index : Nat}
  {indices : List Nat} {declarations declarations' : Declarations} {names names' : NamePool}
  {code : StageCode}

/-- Nodes are evaluated one after another, each with what the nodes before it have left. -/
lemma evaluate_cons_eq_ok_iff :
    evaluate library network stage (index :: indices) declarations names =
        .ok (code, declarations', names') ↔
      ∃ station first declarations₁ names₁ rest, network.stations[index]? = some station ∧
        evaluateNode library network stage index station declarations names =
          .ok (first, declarations₁, names₁) ∧
        evaluate library network stage indices declarations₁ names₁ =
          .ok (rest, declarations', names') ∧ code = (index, first) :: rest := by
  rw [evaluate]
  constructor
  · intro h
    split at h
    · cases h
    next station hstation =>
      obtain ⟨⟨first, declarations₁, names₁⟩, hfirst, h⟩ := bind_eq_ok_iff.mp h
      obtain ⟨⟨rest, declarations₂, names₂⟩, hrest, h⟩ := bind_eq_ok_iff.mp h
      cases h
      exact ⟨station, first, declarations₁, names₁, rest, hstation, hfirst, hrest, rfl⟩
  · rintro ⟨station, first, declarations₁, names₁, rest, hstation, hfirst, hrest, rfl⟩
    rw [hstation]
    exact bind_eq_ok_iff.mpr ⟨_, hfirst, bind_eq_ok_iff.mpr ⟨_, hrest, rfl⟩⟩

/-- Every node that is to be evaluated is evaluated once, in the order given. -/
lemma keys_evaluate
    (h : evaluate library network stage indices declarations names =
      .ok (code, declarations', names')) :
    code.map Prod.fst = indices := by
  induction indices generalizing declarations names code with
  | nil =>
    cases h
    rfl
  | cons index indices ih =>
    obtain ⟨-, first, declarations₁, names₁, rest, -, -, hrest, rfl⟩ :=
      evaluate_cons_eq_ok_iff.mp h
    rw [List.map_cons, ih hrest]

end

end SceneEngine.Shading
