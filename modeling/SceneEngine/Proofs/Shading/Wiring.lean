import SceneEngine.Proofs.Attempts
import SceneEngine.Proofs.Ordered.Collections
import SceneEngine.Proofs.TopologicalOrder
import SceneEngine.Shading.Network

/-!
# Wiring a network

A tree speaks of nodes by their ids, a network by their positions.  Between the two stand the
stations: one for each node, in the same order, with the sources of its inputs.  This module says
what it means that stations are connected as links say (`Wired`), and shows that connecting link
after link gets there.

## Positions

An id has a position, which is where the node stands among the values of the tree
(`NodeTree.indexOf?`); the position tells the id.  `Link.Joins` says in terms of positions which
output a link leads from and which input it leads to.

## The invariant

Stations are wired by some links when they are the nodes of the tree, have the sockets that their
types give them, and when an input has a source exactly if one of the links joins the two.  Since an
input has one source at most, links to one input then come from one output (`Wired.source_eq`).

`Connects` lists what connecting a link can come to: the five faults, each with what the error says
about it, and success, with the station that has one more source.  That connecting ends in one of
these ways is shown once (`Wired.connects`).  Both that each connected link keeps the stations wired
(`Wired.connect`) and that each error names a violated condition follow from it by cases.

## Afterwards

The edges that are then sorted are the links between positions (`Wired.mem_connections_iff`), so a
cycle among the edges is a cycle of the tree, and naming the outputs leaves the wiring as it is
(`Wired.nameAll`).
-/

namespace SceneEngine.Shading

/-! ## Nodes and their positions -/

namespace NodeTree

variable {tree : NodeTree} {id id' : String} {i j : Nat} {node : Node}

/-- The position of an id is where it stands among the ids. -/
lemma indexOf?_eq_some_iff : tree.indexOf? id = some i ↔ tree.nodes.keys[i]? = some id := by
  -- ids are keys, so each stands in one position only
  have hnodup : tree.nodes.keys.Nodup := tree.nodes.nodup
  rw [indexOf?, List.idxOf?_eq_some_iff]
  constructor
  · rintro ⟨hi, hid, -⟩
    rw [List.getElem?_eq_getElem hi, hid]
  · intro h
    obtain ⟨hi, hid⟩ := List.getElem?_eq_some_iff.mp h
    refine ⟨hi, hid, fun j hj hjid => ?_⟩
    have hij : j = i := hnodup.getElem_inj_iff.mp (hjid.trans hid.symm)
    omega

/-- No two ids have one position. -/
lemma indexOf?_inj (h : tree.indexOf? id = some i) (h' : tree.indexOf? id' = some i) :
    id = id' := by
  rw [indexOf?_eq_some_iff] at h h'
  exact Option.some.inj (h.symm.trans h')

/-- An id has no position if it has no node. -/
lemma indexOf?_eq_none_iff : tree.indexOf? id = none ↔ tree.nodes.get? id = none := by
  rw [indexOf?, List.idxOf?_eq_none_iff, OrderedMap.get?_eq_none_iff]

lemma exists_indexOf? (h : tree.nodes.get? id = some node) : ∃ i, tree.indexOf? id = some i := by
  apply Option.ne_none_iff_exists'.mp
  rw [ne_eq, indexOf?_eq_none_iff, h]
  exact Option.some_ne_none node

/-- The node of an id stands in the position of the id. -/
lemma get?_of_indexOf? (h : tree.indexOf? id = some i) :
    ∃ node, tree.nodes.get? id = some node ∧ tree.nodes.values[i]? = some node := by
  rw [indexOf?_eq_some_iff] at h
  obtain ⟨entry, hentry, rfl⟩ : ∃ entry, tree.nodes.entries[i]? = some entry ∧ entry.1 = id := by
    simpa [OrderedMap.keys] using h
  refine ⟨entry.2, OrderedMap.get?_eq_some_iff.mpr (List.mem_of_getElem? hentry), ?_⟩
  simp [OrderedMap.values, hentry]

/-- There are as many nodes as ids. -/
lemma length_keys (tree : NodeTree) : tree.nodes.keys.length = tree.nodes.values.length := by
  simp [OrderedMap.keys, OrderedMap.values]

end NodeTree

/-! ## Sockets of nodes and links -/

/-- A node is of a registered type, which gives it these sockets. -/
def Node.HasSignature (registry : NodeRegistry) (node : Node) (signature : Signature) : Prop :=
  ∃ kind, registry.get? node.kind = some kind ∧ kind.signature node = .ok signature

/-- A node has an output of this name and type. -/
def Node.HasOutput (registry : NodeRegistry) (node : Node) (socket : String)
    (type : SocketType) : Prop :=
  ∃ signature, node.HasSignature registry signature ∧ signature.outputType? socket = some type

/-- A node has an input of this name and type. -/
def Node.HasInput (registry : NodeRegistry) (node : Node) (socket : String)
    (type : SocketType) : Prop :=
  ∃ signature, node.HasSignature registry signature ∧ signature.inputType? socket = some type

/-- A link joins an output and an input of two nodes of the tree, and the types convert.  That the
input is free is not asked for. -/
def Link.Fits (registry : NodeRegistry) (tree : NodeTree) (link : Link) : Prop :=
  ∃ producer consumer produced expected,
    tree.nodes.get? link.source.node = some producer ∧
    tree.nodes.get? link.target.node = some consumer ∧
    producer.HasOutput registry link.source.socket produced ∧
    consumer.HasInput registry link.target.socket expected ∧ fits produced expected = true

/-- A link leads from an output of a node, by its position, to an input of the node in position
`target`. -/
def Link.Joins (tree : NodeTree) (link : Link) (source : Source) (target : Nat)
    (socket : String) : Prop :=
  tree.indexOf? link.source.node = some source.node ∧ link.source.socket = source.socket ∧
    tree.indexOf? link.target.node = some target ∧ link.target.socket = socket

/-- A node feeds another one when a link leads from an output of it to an input of the other. -/
def NodeTree.Feeds (tree : NodeTree) (producer consumer : String) : Prop :=
  ∃ link ∈ tree.links, link.source.node = producer ∧ link.target.node = consumer

/-! ## Stations -/

/-- A station has the type of its node, and the sockets that the type gives it. -/
def Station.IsTyped (registry : NodeRegistry) (station : Station) : Prop :=
  registry.get? station.node.kind = some station.kind ∧
    station.kind.signature station.node = .ok station.signature

lemma Station.IsTyped.hasSignature {registry : NodeRegistry} {station : Station}
    (h : station.IsTyped registry) : station.node.HasSignature registry station.signature :=
  ⟨station.kind, h.1, h.2⟩

/-- The stations are the nodes of a tree, and their inputs are connected as the links say.  It is
stated for any list of links, so that it can be kept while links are connected one by one. -/
structure Wired (registry : NodeRegistry) (tree : NodeTree) (links : List Link)
    (stations : List Station) : Prop where
  /-- The stations are the nodes, in the same order. -/
  nodes_eq : stations.map Station.node = tree.nodes.values
  /-- Their sockets are those of their types. -/
  typed : ∀ station ∈ stations, station.IsTyped registry
  /-- Inputs are connected just as the links say. -/
  sources_iff : ∀ j station, stations[j]? = some station → ∀ socket source,
    station.sources.get? socket = some source ↔ ∃ link ∈ links, link.Joins tree source j socket
  /-- All links fit. -/
  fits : ∀ link ∈ links, link.Fits registry tree

variable {registry : NodeRegistry} {tree : NodeTree} {links : List Link} {link : Link}
  {stations : List Station} {station : Station} {i j : Nat} {id id' socket : String}

namespace Wired

lemma length_eq (h : Wired registry tree links stations) :
    stations.length = tree.nodes.keys.length := by
  rw [tree.length_keys, ← h.nodes_eq, List.length_map]

/-- The station in the position of an id has the node of the id. -/
lemma station_of_indexOf? (h : Wired registry tree links stations)
    (hi : tree.indexOf? id = some i) :
    ∃ station, stations[i]? = some station ∧ tree.nodes.get? id = some station.node := by
  obtain ⟨node, hnode, hvalue⟩ := NodeTree.get?_of_indexOf? hi
  rw [← h.nodes_eq, List.getElem?_map] at hvalue
  obtain ⟨station, hstation, rfl⟩ := Option.map_eq_some_iff.mp hvalue
  exact ⟨station, hstation, hnode⟩

/-- Every station stands in the position of an id. -/
lemma exists_id (h : Wired registry tree links stations) (hstation : stations[i]? = some station) :
    ∃ id, tree.indexOf? id = some i ∧ tree.nodes.get? id = some station.node := by
  have hlt : i < tree.nodes.keys.length := by
    rw [← h.length_eq]
    exact (List.getElem?_eq_some_iff.mp hstation).1
  have hi : tree.indexOf? tree.nodes.keys[i] = some i :=
    NodeTree.indexOf?_eq_some_iff.mpr (List.getElem?_eq_getElem hlt)
  obtain ⟨station', hstation', hnode⟩ := h.station_of_indexOf? hi
  obtain rfl := Option.some.inj (hstation.symm.trans hstation')
  exact ⟨_, hi, hnode⟩

/-- Links of one target have one source. -/
lemma source_eq (h : Wired registry tree links stations) {link' : Link} (hlink : link ∈ links)
    (hlink' : link' ∈ links) (htarget : link.target = link'.target) :
    link.source = link'.source := by
  obtain ⟨producer, consumer, -, -, hproducer, hconsumer, -⟩ := h.fits link hlink
  obtain ⟨producer', -, -, -, hproducer', -⟩ := h.fits link' hlink'
  obtain ⟨i, hi⟩ := NodeTree.exists_indexOf? hproducer
  obtain ⟨i', hi'⟩ := NodeTree.exists_indexOf? hproducer'
  obtain ⟨j, hj⟩ := NodeTree.exists_indexOf? hconsumer
  obtain ⟨station, hstation, -⟩ := h.station_of_indexOf? hj
  -- both links connect the same input, and an input has one source
  have hsource := (h.sources_iff j station hstation link.target.socket ⟨i, link.source.socket⟩).mpr
    ⟨link, hlink, hi, rfl, hj, rfl⟩
  have hsource' := (h.sources_iff j station hstation link.target.socket
    ⟨i', link'.source.socket⟩).mpr ⟨link', hlink', hi', rfl, htarget ▸ hj, htarget ▸ rfl⟩
  obtain ⟨hnode, hsocket⟩ := Source.mk.inj (Option.some.inj (hsource.symm.trans hsource'))
  have hid := NodeTree.indexOf?_inj hi (hnode ▸ hi')
  cases hl : link.source
  cases hl' : link'.source
  rw [hl, hl'] at hid hsocket
  exact congrArg₂ SocketRef.mk hid hsocket

end Wired

/-! ## Connecting a link -/

/-- A link whose two nodes stand in known positions joins nothing else. -/
lemma Link.joins_iff {target : Nat} {source : Source} (hi : tree.indexOf? link.source.node = some i)
    (hj : tree.indexOf? link.target.node = some j) :
    link.Joins tree source target socket ↔
      source = ⟨i, link.source.socket⟩ ∧ target = j ∧ socket = link.target.socket := by
  rw [Link.Joins, hi, hj]
  constructor
  · rintro ⟨hsource, hsocket, htarget, rfl⟩
    obtain ⟨node, name⟩ := source
    exact ⟨by rw [Source.mk.injEq]; exact ⟨(Option.some.inj hsource).symm, hsocket.symm⟩,
      (Option.some.inj htarget).symm, rfl⟩
  · rintro ⟨rfl, rfl, rfl⟩
    exact ⟨rfl, rfl, rfl, rfl⟩

/-- Connecting an input that is free or fed by the same output already. -/
lemma Station.get?_connect {station' : Station} {source : Source}
    (h : station.connect socket source = .ok station') :
    station' = { station with sources := station'.sources } ∧
      (∀ existing, station.sources.get? socket = some existing → existing = source) ∧
      ∀ socket', station'.sources.get? socket' =
        if socket' = socket then some source else station.sources.get? socket' := by
  rw [Station.connect] at h
  -- the input is free, or it is fed already, and then only by the same output
  split at h
  next hnone =>
    cases h
    refine ⟨rfl, fun existing hexisting => ?_, fun socket' => OrderedMap.get?_insert⟩
    rw [hnone] at hexisting
    cases hexisting
  next existing hexisting =>
    split at h
    next heq =>
      cases h
      refine ⟨rfl, fun existing' hexisting' => ?_, fun socket' => ?_⟩
      · exact (Option.some.inj (hexisting'.symm.trans hexisting)).trans heq
      · by_cases hsocket : socket' = socket
        · rw [if_pos hsocket, hsocket, hexisting, heq]
        · rw [if_neg hsocket]
    · cases h

/-- Connecting is refused when another output feeds the input. -/
lemma Station.connect_eq_error {source : Source} {e : CompileError}
    (h : station.connect socket source = .error e) :
    e = .duplicateLink station.node.id socket ∧
      ∃ existing, station.sources.get? socket = some existing ∧ existing ≠ source := by
  rw [Station.connect] at h
  split at h
  · cases h
  next existing hexisting =>
    split at h
    · cases h
    next hne =>
      cases h
      exact ⟨rfl, existing, hexisting, hne⟩

/-- What connecting a link comes to: one of the faults, or a station with one more source.  Each
constructor has the error with everything that it says. -/
inductive Connects (registry : NodeRegistry) (tree : NodeTree) (stations : List Station)
    (link : Link) : Except CompileError (List Station) → Prop
  /-- One of the two nodes is not there. -/
  | dangling (hmissing : tree.nodes.get? link.source.node = none ∨
      tree.nodes.get? link.target.node = none) :
    Connects registry tree stations link (.error (.danglingLink link.source.path link.target.path))
  /-- The producer has no such output. -/
  | unknownOutput {producer : Node} {signature : Signature}
    (hproducer : tree.nodes.get? link.source.node = some producer)
    (hsignature : producer.HasSignature registry signature)
    (hsocket : signature.outputType? link.source.socket = none) :
    Connects registry tree stations link
      (.error (.unknownSocket link.source.node link.source.socket))
  /-- The consumer has no such input. -/
  | unknownInput {consumer : Node} {signature : Signature}
    (hconsumer : tree.nodes.get? link.target.node = some consumer)
    (hsignature : consumer.HasSignature registry signature)
    (hsocket : signature.inputType? link.target.socket = none) :
    Connects registry tree stations link
      (.error (.unknownSocket link.target.node link.target.socket))
  /-- The types do not convert. -/
  | misfit {producer consumer : Node} {produced expected : SocketType}
    (hproducer : tree.nodes.get? link.source.node = some producer)
    (hconsumer : tree.nodes.get? link.target.node = some consumer)
    (hproduced : producer.HasOutput registry link.source.socket produced)
    (hexpected : consumer.HasInput registry link.target.socket expected)
    (hfits : fits produced expected = false) :
    Connects registry tree stations link
      (.error (.typeMismatch link.target.node link.target.socket produced expected))
  /-- The input has another source already. -/
  | duplicate {i j : Nat} {consumer : Station} {existing : Source}
    (hi : tree.indexOf? link.source.node = some i) (hj : tree.indexOf? link.target.node = some j)
    (hconsumer : stations[j]? = some consumer)
    (hexisting : consumer.sources.get? link.target.socket = some existing)
    (hne : existing ≠ ⟨i, link.source.socket⟩) :
    Connects registry tree stations link
      (.error (.duplicateLink consumer.node.id link.target.socket))
  /-- The input has the source now, and nothing else has changed. -/
  | connected {i j : Nat} {consumer consumer' : Station}
    (hi : tree.indexOf? link.source.node = some i) (hj : tree.indexOf? link.target.node = some j)
    (hfits : link.Fits registry tree) (hconsumer : stations[j]? = some consumer)
    (hsame : consumer' = { consumer with sources := consumer'.sources })
    (hfree : ∀ existing, consumer.sources.get? link.target.socket = some existing →
      existing = ⟨i, link.source.socket⟩)
    (hsources : ∀ socket, consumer'.sources.get? socket =
      if socket = link.target.socket then some ⟨i, link.source.socket⟩
      else consumer.sources.get? socket) :
    Connects registry tree stations link (.ok (stations.set j consumer'))

namespace Wired

/-- Connecting a link to wired stations ends in one of these ways. -/
lemma connects (h : Wired registry tree links stations) (link : Link) :
    Connects registry tree stations link (connectLink tree stations link) := by
  -- the cases follow the checks, in their order
  cases hi : tree.indexOf? link.source.node with
  | none =>
    have hresult : connectLink tree stations link =
        .error (.danglingLink link.source.path link.target.path) := by simp [connectLink, hi]
    exact hresult ▸ .dangling (.inl (NodeTree.indexOf?_eq_none_iff.mp hi))
  | some i =>
    cases hj : tree.indexOf? link.target.node with
    | none =>
      have hresult : connectLink tree stations link =
          .error (.danglingLink link.source.path link.target.path) := by simp [connectLink, hi, hj]
      exact hresult ▸ .dangling (.inr (NodeTree.indexOf?_eq_none_iff.mp hj))
    | some j =>
      obtain ⟨producer, hproducer, hsource⟩ := h.station_of_indexOf? hi
      obtain ⟨consumer, hconsumer, htarget⟩ := h.station_of_indexOf? hj
      have hproducerTyped := (h.typed _ (List.mem_of_getElem? hproducer)).hasSignature
      have hconsumerTyped := (h.typed _ (List.mem_of_getElem? hconsumer)).hasSignature
      cases hproduced : producer.signature.outputType? link.source.socket with
      | none =>
        have hresult : connectLink tree stations link =
            .error (.unknownSocket link.source.node link.source.socket) := by
          simp [connectLink, hi, hj, hproducer, hconsumer, hproduced]
        exact hresult ▸ .unknownOutput hsource hproducerTyped hproduced
      | some produced =>
        cases hexpected : consumer.signature.inputType? link.target.socket with
        | none =>
          have hresult : connectLink tree stations link =
              .error (.unknownSocket link.target.node link.target.socket) := by
            simp [connectLink, hi, hj, hproducer, hconsumer, hproduced, hexpected]
          exact hresult ▸ .unknownInput htarget hconsumerTyped hexpected
        | some expected =>
          have houtput : producer.node.HasOutput registry link.source.socket produced :=
            ⟨_, hproducerTyped, hproduced⟩
          have hinput : consumer.node.HasInput registry link.target.socket expected :=
            ⟨_, hconsumerTyped, hexpected⟩
          cases hfits : Shading.fits produced expected with
          | false =>
            have hresult : connectLink tree stations link = .error
                (.typeMismatch link.target.node link.target.socket produced expected) := by
              simp [connectLink, hi, hj, hproducer, hconsumer, hproduced, hexpected, hfits]
            exact hresult ▸ .misfit hsource htarget houtput hinput hfits
          | true =>
            have hresult : connectLink tree stations link =
                (consumer.connect link.target.socket ⟨i, link.source.socket⟩).map
                  (stations.set j) := by
              simp only [connectLink, hi, hj, hproducer, hconsumer, hproduced, hexpected, hfits]
              rfl
            rw [hresult]
            cases hconnect : consumer.connect link.target.socket ⟨i, link.source.socket⟩ with
            | error e =>
              obtain ⟨rfl, existing, hexisting, hne⟩ := Station.connect_eq_error hconnect
              exact .duplicate hi hj hconsumer hexisting hne
            | ok consumer' =>
              obtain ⟨hsame, hfree, hsources⟩ := Station.get?_connect hconnect
              exact .connected hi hj ⟨_, _, _, _, hsource, htarget, houtput, hinput, hfits⟩
                hconsumer hsame hfree hsources

/-- A link that is connected leaves the stations wired. -/
lemma connect (h : Wired registry tree links stations) {stations' : List Station}
    (hconnect : connectLink tree stations link = .ok stations') :
    Wired registry tree (links ++ [link]) stations' := by
  have hcases := h.connects link
  rw [hconnect] at hcases
  cases hcases with
  | @connected i j consumer consumer' hi hj hfits hconsumer hsame hfree hsources =>
    have hnode : consumer'.node = consumer.node := by rw [hsame]
    have htyped : consumer'.IsTyped registry := by
      rw [hsame]
      exact h.typed consumer (List.mem_of_getElem? hconsumer)
    obtain ⟨hlt, hget⟩ := List.getElem?_eq_some_iff.mp hconsumer
    refine ⟨?_, ?_, ?_, ?_⟩
    · have hlt' : j < (stations.map Station.node).length := by rwa [List.length_map]
      have hkept : consumer.node = (stations.map Station.node)[j] := by rw [List.getElem_map, hget]
      rw [List.map_set, hnode, hkept, List.set_getElem_self, h.nodes_eq]
    · intro station hstation
      rcases List.mem_or_eq_of_mem_set hstation with hold | rfl
      · exact h.typed station hold
      · exact htyped
    · intro k station hstation socket source
      have hnew : (∃ l ∈ links ++ [link], l.Joins tree source k socket) ↔
          (∃ l ∈ links, l.Joins tree source k socket) ∨ link.Joins tree source k socket := by
        simp only [List.mem_append, List.mem_singleton, or_and_right, exists_or, exists_eq_left]
      rw [hnew, Link.joins_iff hi hj]
      -- only the station that the link leads to has changed
      by_cases hk : k = j
      · subst hk
        rw [List.getElem?_set_self hlt, Option.some.injEq] at hstation
        subst hstation
        rw [hsources, ← h.sources_iff k consumer hconsumer]
        by_cases hsocket : socket = link.target.socket
        · subst hsocket
          rw [if_pos rfl, Option.some.injEq]
          constructor
          · exact fun heq => .inr ⟨heq.symm, rfl, rfl⟩
          · rintro (hold | ⟨rfl, -, -⟩)
            · exact (hfree source hold).symm
            · rfl
        · simp [hsocket]
      · rw [List.getElem?_set_ne (Ne.symm hk)] at hstation
        rw [h.sources_iff k station hstation]
        simp [hk]
    · intro l hl
      rcases List.mem_append.mp hl with hl | hl
      · exact h.fits l hl
      · rw [List.mem_singleton.mp hl]
        exact hfits

/-! ## Edges and names -/

/-- The edges between positions are the links. -/
lemma mem_connections_iff (h : Wired registry tree links stations) :
    (i, j) ∈ connections stations ↔
      ∃ link ∈ links, tree.indexOf? link.source.node = some i ∧
        tree.indexOf? link.target.node = some j := by
  rw [connections, List.mem_flatMap]
  constructor
  · rintro ⟨⟨station, k⟩, hstation, hedge⟩
    obtain ⟨source, hsource, heq⟩ := List.mem_map.mp hedge
    obtain ⟨rfl, rfl⟩ := Prod.mk.inj heq
    obtain ⟨socket, hsocket⟩ := OrderedMap.mem_values_iff.mp hsource
    rw [List.mem_zipIdx_iff_getElem?] at hstation
    obtain ⟨link, hlink, hi, -, hj, -⟩ := (h.sources_iff _ _ hstation _ _).mp hsocket
    exact ⟨link, hlink, hi, hj⟩
  · rintro ⟨link, hlink, hi, hj⟩
    -- the other way round: a link has made a source of its input, and sources are listed
    obtain ⟨station, hstation, -⟩ := h.station_of_indexOf? hj
    have hsource := (h.sources_iff j station hstation link.target.socket
      ⟨i, link.source.socket⟩).mpr ⟨link, hlink, hi, rfl, hj, rfl⟩
    refine ⟨(station, j), List.mem_zipIdx_iff_getElem?.mpr hstation, List.mem_map.mpr ?_⟩
    exact ⟨_, OrderedMap.mem_values_iff.mpr ⟨_, hsource⟩, rfl⟩

/-- Both ends of an edge are positions of stations. -/
lemma joins_iff (h : Wired registry tree links stations) :
    TopologicalOrder.Joins (List.range stations.length) (connections stations) i j ↔
      ∃ link ∈ links, tree.indexOf? link.source.node = some i ∧
        tree.indexOf? link.target.node = some j := by
  rw [TopologicalOrder.joins_iff, h.mem_connections_iff, List.mem_range, List.mem_range]
  refine and_iff_left_of_imp ?_
  rintro ⟨link, -, hi, hj⟩
  obtain ⟨producer, hproducer, -⟩ := h.station_of_indexOf? hi
  obtain ⟨consumer, hconsumer, -⟩ := h.station_of_indexOf? hj
  exact ⟨(List.getElem?_eq_some_iff.mp hproducer).1, (List.getElem?_eq_some_iff.mp hconsumer).1⟩

lemma joins_of_feeds (h : Wired registry tree tree.links stations) (hfeeds : tree.Feeds id id') :
    TopologicalOrder.Joins (List.range stations.length) (connections stations)
      ((tree.indexOf? id).getD 0) ((tree.indexOf? id').getD 0) := by
  obtain ⟨link, hlink, rfl, rfl⟩ := hfeeds
  obtain ⟨producer, consumer, -, -, hproducer, hconsumer, -⟩ := h.fits link hlink
  obtain ⟨i, hi⟩ := NodeTree.exists_indexOf? hproducer
  obtain ⟨j, hj⟩ := NodeTree.exists_indexOf? hconsumer
  exact h.joins_iff.mpr ⟨link, hlink, by simp [hi], by simp [hj]⟩

lemma feeds_of_joins (h : Wired registry tree tree.links stations)
    (hjoins : TopologicalOrder.Joins (List.range stations.length) (connections stations) i j) :
    tree.Feeds (tree.nodes.keys[i]?.getD "") (tree.nodes.keys[j]?.getD "") := by
  obtain ⟨link, hlink, hi, hj⟩ := h.joins_iff.mp hjoins
  rw [NodeTree.indexOf?_eq_some_iff] at hi hj
  exact ⟨link, hlink, by simp [hi], by simp [hj]⟩

/-- The positions have a cycle exactly when the ids do, so that a cycle that is reported in ids is a
cycle of the tree. -/
lemma acyclic_iff (h : Wired registry tree tree.links stations) :
    TopologicalOrder.Acyclic (List.range stations.length) (connections stations) ↔
      ∀ id, ¬Relation.TransGen tree.Feeds id id := by
  constructor
  · intro hacyclic id hcycle
    exact hacyclic _ (hcycle.lift (fun id => (tree.indexOf? id).getD 0) fun _ _ => h.joins_of_feeds)
  · intro hacyclic i hcycle
    exact hacyclic _
      (hcycle.lift (fun i => tree.nodes.keys[i]?.getD "") fun _ _ => h.feeds_of_joins)

/-- What can be reached from a node of the tree is a node of the tree. -/
lemma exists_indexOf?_of_path (h : Wired registry tree tree.links stations)
    (hi : tree.indexOf? id = some i) (hpath : Relation.ReflTransGen tree.Feeds id id') :
    ∃ j, tree.indexOf? id' = some j := by
  rcases hpath.cases_tail with rfl | ⟨_, -, link, hlink, -, rfl⟩
  · exact ⟨i, hi⟩
  · obtain ⟨-, consumer, -, -, -, hconsumer, -⟩ := h.fits link hlink
    exact NodeTree.exists_indexOf? hconsumer

/-- One position can be reached from another exactly when their ids can. -/
lemma reflTransGen_iff (h : Wired registry tree tree.links stations)
    (hi : tree.indexOf? id = some i) (hj : tree.indexOf? id' = some j) :
    Relation.ReflTransGen
      (TopologicalOrder.Joins (List.range stations.length) (connections stations)) i j ↔
      Relation.ReflTransGen tree.Feeds id id' := by
  constructor
  · intro hpath
    have hlift := hpath.lift (fun i => tree.nodes.keys[i]?.getD "") fun _ _ => h.feeds_of_joins
    rw [NodeTree.indexOf?_eq_some_iff] at hi hj
    simpa [Function.onFun, hi, hj] using hlift
  · intro hpath
    have hlift := hpath.lift (fun id => (tree.indexOf? id).getD 0) fun _ _ => h.joins_of_feeds
    simpa [Function.onFun, hi, hj] using hlift

end Wired

/-- A station without the names of its outputs. -/
def Station.unnamed (station : Station) : Station := { station with outputNames := ∅ }

/-- Naming outputs changes nothing else. -/
lemma map_unnamed_nameAll (stations : List Station) (names : NamePool) :
    (nameAll stations names).1.map Station.unnamed = stations.map Station.unnamed := by
  induction stations generalizing names with
  | nil => rfl
  | cons station stations ih =>
    rw [nameAll, List.map_cons, List.map_cons, ih]
    rfl

lemma connections_map_unnamed (stations : List Station) :
    connections (stations.map Station.unnamed) = connections stations := by
  simp only [connections, List.zipIdx_map, List.flatMap_map]
  rfl

lemma connections_nameAll (stations : List Station) (names : NamePool) :
    connections (nameAll stations names).1 = connections stations := by
  rw [← connections_map_unnamed, map_unnamed_nameAll, connections_map_unnamed]

lemma length_nameAll (stations : List Station) (names : NamePool) :
    (nameAll stations names).1.length = stations.length := by
  have hlength := congrArg List.length (map_unnamed_nameAll stations names)
  rwa [List.length_map, List.length_map] at hlength

namespace Wired

/-- The wiring does not depend on the names of outputs. -/
lemma of_map_unnamed_eq (h : Wired registry tree links stations) {stations' : List Station}
    (hsame : stations'.map Station.unnamed = stations.map Station.unnamed) :
    Wired registry tree links stations' := by
  have hstation : ∀ (k : Nat) station', stations'[k]? = some station' →
      ∃ station, stations[k]? = some station ∧ station'.unnamed = station.unnamed := by
    intro k station' hk
    have hget := congrArg (·[k]?) hsame
    simp only [List.getElem?_map, hk, Option.map_some] at hget
    obtain ⟨station, hstation, heq⟩ := Option.map_eq_some_iff.mp hget.symm
    exact ⟨station, hstation, heq.symm⟩
  refine ⟨?_, ?_, ?_, h.fits⟩
  · have hnodes := congrArg (List.map Station.node) hsame
    rw [List.map_map, List.map_map] at hnodes
    exact hnodes.trans h.nodes_eq
  · intro station' hmem
    obtain ⟨k, hk⟩ := List.mem_iff_getElem?.mp hmem
    obtain ⟨station, hget, heq⟩ := hstation k station' hk
    obtain ⟨hnode, hkind, hsignature, -⟩ := Station.mk.inj heq
    have htyped := h.typed station (List.mem_of_getElem? hget)
    rw [Station.IsTyped, hnode, hkind, hsignature]
    exact htyped
  · intro k station' hk
    obtain ⟨station, hget, heq⟩ := hstation k station' hk
    obtain ⟨-, -, -, hsources, -⟩ := Station.mk.inj heq
    rw [hsources]
    exact h.sources_iff k station hget

lemma nameAll (h : Wired registry tree links stations) (names : NamePool) :
    Wired registry tree links (nameAll stations names).1 :=
  h.of_map_unnamed_eq (map_unnamed_nameAll stations names)

end Wired

end SceneEngine.Shading
