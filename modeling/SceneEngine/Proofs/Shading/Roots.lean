import SceneEngine.Proofs.Shading.Needed

/-!
# What is evaluated

A tree may contain many nodes that have no influence on the picture.  A compile evaluates exactly
those that matter, separately for each stage.  This module says which these are in terms of the tree
alone and shows that the code of a compile is theirs (`ShaderCompiler.compile_covers`).

## Roots

A root is a node that is asked for a value of a target, such as the color or the displacement.  When
roots are given these are they, and otherwise they are the nodes linked to inputs of the material
output that counts (`NodeTree.IsRoot`).  A node matters for some targets when a root for one of them
can be reached from it along links (`NodeTree.LeadsTo`).

## From requests to code

A compile turns roots into requests, and requests into resolved roots, which hold the converted
expression of an output (`ResolvedRoot.Answers`).  The resolved roots are found to be the roots of
the tree (`Network.Resolves.exists_root_iff`); the search along connections from them finds the
positions of the nodes that lead to them (`Network.Resolves.mem_needed_iff_leadsTo`).

`StageCode.Covers` states the result for one stage: each of the wanted nodes stands in the code
once, no other does, and each stands behind the nodes that feed it.

## Depth

The program that only writes depth takes over the code of those nodes of the fragment stage that
feed the coverage, without evaluating them again, and all of the vertex stage
(`Compiles.exists_alphaCode`).

`Compiles` describes how a compile comes about and is what most other modules use of it.
-/

namespace SceneEngine.Shading

variable {registry : NodeRegistry} {tree : NodeTree} {network : Network} {roots : List Root}
  {resolved : List ResolvedRoot} {requests : List RootRequest} {target : Target} {id : String}
  {i : Nat}

/-! ## Roots in a tree -/

/-- The material output that counts: the first one marked as active, or else the first. -/
def NodeTree.materialOutput? (registry : NodeRegistry) (tree : NodeTree) : Option String :=
  let outputs := tree.nodes.entries.filter fun entry =>
    (registry.get? entry.2.kind).any (·.name == Nodes.outputMaterialName)
  ((outputs.find? (·.2.isSwitchedOn "is_active_output" false)).or outputs.head?).map Prod.fst

/-- The node is asked for a value of the target: by a root, or, when no roots are given, by a link
to an input of the material output. -/
def NodeTree.IsRoot (registry : NodeRegistry) (tree : NodeTree) (roots : List Root)
    (target : Target) (id : String) : Prop :=
  if roots.isEmpty then
    ∃ link ∈ tree.links, tree.materialOutput? registry = some link.target.node ∧
      (link.target.socket, target) ∈ materialInputs ∧ link.source.node = id
  else ∃ root ∈ roots, root.target = target ∧ root.socket.node = id

/-- A root for one of the targets can be reached from the node along links. -/
def NodeTree.LeadsTo (registry : NodeRegistry) (tree : NodeTree) (roots : List Root)
    (targets : List Target) (id : String) : Prop :=
  ∃ target ∈ targets, ∃ root, tree.IsRoot registry roots target root ∧
    Relation.ReflTransGen tree.Feeds id root

/-- The code is that of exactly the wanted nodes, each once and behind the nodes that feed it. -/
structure StageCode.Covers (code : StageCode) (tree : NodeTree) (wanted : String → Prop) :
    Prop where
  /-- Each node stands in the code once. -/
  nodup : (code.map Prod.fst).Nodup
  /-- The nodes are the wanted ones. -/
  mem_iff : ∀ i, i ∈ code.map Prod.fst ↔ ∃ id, tree.indexOf? id = some i ∧ wanted id
  /-- What feeds a node of the code is in the code, ahead of it. -/
  behind : ∀ link ∈ tree.links, ∀ i j, tree.indexOf? link.source.node = some i →
    tree.indexOf? link.target.node = some j → j ∈ code.map Prod.fst →
    [i, j].Sublist (code.map Prod.fst)

/-! ## Requests -/

/-- The material output of a network is that of its tree. -/
lemma Network.Resolves.activeOutput?_cases (h : network.Resolves registry tree) :
    (activeOutput? network = none ∧ tree.materialOutput? registry = none) ∨
      ∃ k id station, activeOutput? network = some station ∧
        tree.materialOutput? registry = some id ∧ network.stations[k]? = some station ∧
        tree.indexOf? id = some k := by
  -- both look for the same among the ids with their stations
  let pairs := tree.nodes.keys.zip network.stations
  let outputs := pairs.filter fun pair => pair.2.kind.name == Nodes.outputMaterialName
  let picked := (outputs.find? (·.2.node.isSwitchedOn "is_active_output" false)).or outputs.head?
  have hstations : network.stations = pairs.map Prod.snd :=
    (List.map_snd_zip h.wired.length_eq.le).symm
  have hentries : tree.nodes.entries = pairs.map fun pair => (pair.1, pair.2.node) := by
    calc tree.nodes.entries
        = tree.nodes.keys.zip (network.stations.map Station.node) :=
          List.zip_of_prod rfl h.wired.nodes_eq.symm
      _ = _ := List.zip_map_right ..
  have hkind : ∀ pair ∈ pairs, (registry.get? pair.2.node.kind).any
      (·.name == Nodes.outputMaterialName) = (pair.2.kind.name == Nodes.outputMaterialName) := by
    intro pair hpair
    have hstation : pair.2 ∈ network.stations := (List.of_mem_zip hpair).2
    rw [(h.wired.typed pair.2 hstation).1, Option.any_some]
  have hactive : activeOutput? network = picked.map Prod.snd := by
    rw [activeOutput?, hstations, List.filter_map, List.find?_map, List.head?_map, ← Option.map_or]
    rfl
  have hmaterial : tree.materialOutput? registry = picked.map Prod.fst := by
    rw [NodeTree.materialOutput?, hentries, List.filter_map, List.find?_map, List.head?_map,
      ← Option.map_or, Option.map_map]
    have houtputs : pairs.filter ((fun entry : String × Node =>
        (registry.get? entry.2.kind).any (·.name == Nodes.outputMaterialName)) ∘
          fun pair => (pair.1, pair.2.node)) = outputs := List.filter_congr hkind
    rw [houtputs]
    rfl
  cases hpicked : picked with
  | none => exact .inl ⟨by rw [hactive, hpicked]; rfl, by rw [hmaterial, hpicked]; rfl⟩
  | some pair =>
    obtain ⟨id, station⟩ := pair
    have hmem : (id, station) ∈ pairs := by
      refine (List.mem_filter.mp (?_ : (id, station) ∈ outputs)).1
      rcases Option.or_eq_some_iff.mp hpicked with hfound | ⟨-, hhead⟩
      · exact List.mem_of_find?_eq_some hfound
      · exact List.mem_of_mem_head? hhead
    obtain ⟨k, hk⟩ := List.mem_iff_getElem?.mp hmem
    obtain ⟨hid, hstation⟩ := List.getElem?_zip_eq_some.mp hk
    exact .inr ⟨k, id, station, by rw [hactive, hpicked]; rfl, by rw [hmaterial, hpicked]; rfl,
      hstation, NodeTree.indexOf?_eq_some_iff.mpr hid⟩

/-- The requests of a compile are the roots of the tree. -/
lemma Network.Resolves.exists_request_iff (h : network.Resolves registry tree)
    (hrequests : (if roots.isEmpty then inferRoots network else findRoots tree roots) =
      .ok requests) (hi : tree.indexOf? id = some i) :
    (∃ request ∈ requests, request.target = target ∧ request.source.node = i) ↔
      tree.IsRoot registry roots target id := by
  rw [NodeTree.IsRoot]
  split at hrequests
  next hempty =>
    rw [if_pos hempty]
    rw [inferRoots] at hrequests
    rcases h.activeOutput?_cases with
      ⟨hactive, -⟩ | ⟨k, output, station, hactive, houtput, hstation, hk⟩
    · rw [hactive] at hrequests
      cases hrequests
    · rw [hactive] at hrequests
      cases hrequests
      have hsources := h.wired.sources_iff k station hstation
      constructor
      · rintro ⟨request, hrequest, rfl, rfl⟩
        obtain ⟨⟨socket, target⟩, hinput, hmap⟩ := List.mem_filterMap.mp hrequest
        obtain ⟨source, hsource, rfl⟩ := Option.map_eq_some_iff.mp hmap
        obtain ⟨link, hlink, hi', -, hk', rfl⟩ := (hsources _ _).mp hsource
        obtain rfl := NodeTree.indexOf?_inj hi hi'
        obtain rfl := NodeTree.indexOf?_inj hk hk'
        exact ⟨link, hlink, houtput, hinput, rfl⟩
      · rintro ⟨link, hlink, houtput', hinput, rfl⟩
        obtain rfl := Option.some.inj (houtput.symm.trans houtput')
        have hsource := (hsources link.target.socket ⟨i, link.source.socket⟩).mpr
          ⟨link, hlink, hi, rfl, hk, rfl⟩
        refine ⟨⟨target, ⟨i, link.source.socket⟩⟩, List.mem_filterMap.mpr ⟨_, hinput, ?_⟩, rfl, rfl⟩
        simp only [hsource, Option.map_some]
  next hempty =>
    rw [if_neg hempty]
    constructor
    · rintro ⟨request, hrequest, rfl, rfl⟩
      obtain ⟨root, hroot, hfound⟩ := (mem_iff_of_mapM_eq_ok hrequests).mp hrequest
      split at hfound
      next k hk =>
        cases hfound
        exact ⟨root, hroot, rfl, NodeTree.indexOf?_inj hk hi⟩
      · cases hfound
    · rintro ⟨root, hroot, rfl, rfl⟩
      refine ⟨⟨root.target, ⟨i, root.socket.socket⟩⟩, ?_, rfl, rfl⟩
      exact (mem_iff_of_mapM_eq_ok hrequests).mpr ⟨root, hroot, by rw [hi]⟩

/-! ## Resolved roots -/

/-- A resolved root holds the value of the output that its request is for, converted. -/
def ResolvedRoot.Answers (network : Network) (root : ResolvedRoot) (request : RootRequest) : Prop :=
  root.target = request.target ∧ root.node = request.source.node ∧
    ∃ name type, network.output request.source.node request.source.socket = .ok (name, type) ∧
      type.convert? name request.target.type = some root.expr

/-- Requests are resolved one after another, behind what has been resolved. -/
lemma forall₂_of_foldlM_resolveRoot {found : List ResolvedRoot}
    (h : requests.foldlM (resolveRoot network) found = .ok resolved) :
    ∃ new, resolved = found ++ new ∧
      List.Forall₂ (fun request root => root.Answers network request) requests new := by
  induction requests generalizing found with
  | nil =>
    cases h
    exact ⟨[], (List.append_nil _).symm, .nil⟩
  | cons request requests ih =>
    rw [List.foldlM_cons] at h
    obtain ⟨found', hfirst, hrest⟩ := bind_eq_ok_iff.mp h
    obtain ⟨new, rfl, hnew⟩ := ih hrest
    rw [resolveRoot] at hfirst
    split at hfirst
    · cases hfirst
    · obtain ⟨⟨name, type⟩, houtput, hfirst⟩ := bind_eq_ok_iff.mp hfirst
      dsimp only at hfirst
      split at hfirst
      next expr hexpr =>
        cases hfirst
        exact ⟨_ :: new, List.append_assoc .., .cons ⟨rfl, rfl, name, type, houtput, hexpr⟩ hnew⟩
      · cases hfirst

/-- The resolved roots answer the requests, one after another. -/
lemma forall₂_of_resolveRoots (h : resolveRoots tree network roots = .ok resolved) :
    ∃ requests,
      (if roots.isEmpty then inferRoots network else findRoots tree roots) = .ok requests ∧
      List.Forall₂ (fun request root => root.Answers network request) requests resolved := by
  have hbind : resolveRoots tree network roots =
      (if roots.isEmpty then inferRoots network else findRoots tree roots) >>= fun requests =>
        if requests.isEmpty then .error .missingRoot
        else requests.foldlM (resolveRoot network) [] := by
    rw [resolveRoots]
    split
    · rfl
    · rfl
  rw [hbind] at h
  obtain ⟨requests, hrequests, h⟩ := bind_eq_ok_iff.mp h
  split at h
  · cases h
  · obtain ⟨new, rfl, hnew⟩ := forall₂_of_foldlM_resolveRoot h
    exact ⟨requests, hrequests, hnew⟩

/-- An output belongs to a station. -/
lemma exists_station_of_output {socket : String} {result : String × SocketType}
    (h : network.output i socket = .ok result) :
    ∃ station, network.stations[i]? = some station := by
  rw [Network.output] at h
  split at h
  · cases h
  next station hstation => exact ⟨station, hstation⟩

lemma exists_answers_of_mem (h : resolveRoots tree network roots = .ok resolved)
    {root : ResolvedRoot} (hroot : root ∈ resolved) : ∃ request, root.Answers network request := by
  obtain ⟨requests, -, hanswers⟩ := forall₂_of_resolveRoots h
  obtain ⟨k, hk, rfl⟩ := List.mem_iff_getElem.mp hroot
  have hk' : k < requests.length := hanswers.length_eq ▸ hk
  exact ⟨requests[k], hanswers.get hk' hk⟩

lemma exists_station_of_mem (h : resolveRoots tree network roots = .ok resolved)
    {root : ResolvedRoot} (hroot : root ∈ resolved) :
    ∃ station, network.stations[root.node]? = some station := by
  obtain ⟨request, -, hnode, name, type, houtput, -⟩ := exists_answers_of_mem h hroot
  exact hnode ▸ exists_station_of_output houtput

/-- The resolved roots are the roots of the tree. -/
lemma Network.Resolves.exists_root_iff (h : network.Resolves registry tree)
    (hresolved : resolveRoots tree network roots = .ok resolved) (hi : tree.indexOf? id = some i) :
    (∃ root ∈ resolved, root.target = target ∧ root.node = i) ↔
      tree.IsRoot registry roots target id := by
  obtain ⟨requests, hrequests, hanswers⟩ := forall₂_of_resolveRoots hresolved
  rw [← h.exists_request_iff hrequests hi]
  clear hrequests hresolved
  induction hanswers with
  | nil => simp
  | @cons request root requests resolved hfirst _ ih =>
    rw [List.exists_mem_cons_iff, List.exists_mem_cons_iff, ih, hfirst.1, hfirst.2.1]

/-! ## Covering -/

/-- The nodes needed for the roots of some targets are those that lead to them. -/
lemma Network.Resolves.mem_needed_iff_leadsTo (h : network.Resolves registry tree)
    (hresolved : resolveRoots tree network roots = .ok resolved) {keep : Target → Bool}
    {targets : List Target} (hkeep : ∀ target, keep target ↔ target ∈ targets) :
    i ∈ network.needed (rootNodes resolved keep) ↔
      ∃ id, tree.indexOf? id = some i ∧ tree.LeadsTo registry roots targets id := by
  rw [Network.mem_needed_iff, h.feeds_eq, h.mem_order_iff]
  constructor
  · rintro ⟨hlt, s, hs, hpath⟩
    obtain ⟨root, hroot, rfl⟩ := List.mem_map.mp hs
    obtain ⟨hroot, hkept⟩ := List.mem_filter.mp hroot
    obtain ⟨id, hi, -⟩ := h.wired.exists_id (List.getElem?_eq_getElem hlt)
    obtain ⟨station, hstation⟩ := exists_station_of_mem hresolved hroot
    obtain ⟨last, hlast, -⟩ := h.wired.exists_id hstation
    exact ⟨id, hi, root.target, (hkeep _).mp hkept, last,
      (h.exists_root_iff hresolved hlast).mp ⟨root, hroot, rfl, rfl⟩,
      (h.wired.reflTransGen_iff hi hlast).mp hpath⟩
  · rintro ⟨id, hi, target, htarget, last, hroot, hpath⟩
    obtain ⟨j, hj⟩ := h.wired.exists_indexOf?_of_path hi hpath
    obtain ⟨root, hmem, rfl, rfl⟩ := (h.exists_root_iff hresolved hj).mpr hroot
    obtain ⟨station, hstation, -⟩ := h.wired.station_of_indexOf? hi
    refine ⟨(List.getElem?_eq_some_iff.mp hstation).1, root.node,
      List.mem_map.mpr ⟨root, ?_, rfl⟩, (h.wired.reflTransGen_iff hi hj).mpr hpath⟩
    exact List.mem_filter.mpr ⟨hmem, (hkeep _).mpr htarget⟩

/-- The code of the nodes needed for the roots of some targets covers what leads to them. -/
lemma Network.Resolves.covers (h : network.Resolves registry tree)
    (hresolved : resolveRoots tree network roots = .ok resolved) {code : StageCode}
    {keep : Target → Bool} {targets : List Target}
    (hkeep : ∀ target, keep target ↔ target ∈ targets)
    (hkeys : code.map Prod.fst = network.needed (rootNodes resolved keep)) :
    code.Covers tree (tree.LeadsTo registry roots targets) := by
  refine ⟨hkeys ▸ h.nodup_needed _, fun i => ?_, fun link hlink i j hi hj hmem => ?_⟩
  · rw [hkeys, h.mem_needed_iff_leadsTo hresolved hkeep]
  · rw [hkeys] at hmem ⊢
    exact h.sublist_needed_of_feeds (h.feeds_iff_exists_link.mpr ⟨link, hlink, hi, hj⟩) hmem

/-! ## Compiling -/

namespace ShaderCompiler

variable {compiler : ShaderCompiler} {shader : CompiledShader}

/-- How a compile comes about: the network of the tree, the roots, and the code of the nodes that
the roots of each stage need. -/
structure Compiles (compiler : ShaderCompiler) (tree : NodeTree) (roots : List Root)
    (shader : CompiledShader) (network : Network) : Prop where
  /-- The tree is resolved into the network, -/
  resolves : network.Resolves compiler.nodes tree
  /-- and the roots against it. -/
  resolved : resolveRoots tree network roots = .ok shader.roots
  /-- The fragment stage is evaluated first, and the vertex stage goes on with its declarations and
  names. -/
  evaluated : ∃ stations names names₁ names₂ declarations,
    nameAll stations .empty = (network.stations, names) ∧
    evaluate compiler.library network .fragment
      (network.needed (rootNodes shader.roots (·.stage == .fragment))) {} names =
        .ok (shader.fragmentCode, declarations, names₁) ∧
    evaluate compiler.library network .vertex
      (network.needed (rootNodes shader.roots (·.stage == .vertex))) declarations names₁ =
        .ok (shader.vertexCode, shader.base.declarations, names₂)
  /-- What was included is looked up in the library. -/
  texts : includedTexts compiler.library shader.base.declarations.includes.toList =
    .ok shader.base.includes
  /-- The nodes behind the coverage are picked from those of the fragments. -/
  alphaNodes : shader.alphaNodes = (shader.fragmentCode.map Prod.fst).filter
    (network.closure (rootNodes shader.roots (· == .alpha))).contains

/-- A compile goes over the network that its tree resolves to. -/
lemma exists_resolve_of_compile_eq_ok (h : compiler.compile tree roots = .ok shader) :
    ∃ network names, Network.resolve tree compiler.nodes .empty = .ok (network, names) ∧
      compiler.Compiles tree roots shader network := by
  obtain ⟨⟨network, names⟩, hresolve, h⟩ := bind_eq_ok_iff.mp h
  obtain ⟨resolved, hresolved, h⟩ := bind_eq_ok_iff.mp h
  obtain ⟨⟨fragmentCode, declarations, names₁⟩, hfragment, h⟩ := bind_eq_ok_iff.mp h
  obtain ⟨⟨vertexCode, declarations', names₂⟩, hvertex, h⟩ := bind_eq_ok_iff.mp h
  obtain ⟨includes, hincludes, h⟩ := bind_eq_ok_iff.mp h
  cases h
  obtain ⟨hresolves, stations, hnames⟩ := Network.resolves_of_resolve_eq_ok hresolve
  exact ⟨network, names, hresolve, hresolves, hresolved, ⟨stations, names, names₁, names₂,
    declarations, hnames, hfragment, hvertex⟩, hincludes, rfl⟩

lemma compiles_of_compile_eq_ok (h : compiler.compile tree roots = .ok shader) :
    ∃ network, compiler.Compiles tree roots shader network := by
  obtain ⟨network, _, _, hcompiles⟩ := exists_resolve_of_compile_eq_ok h
  exact ⟨network, hcompiles⟩

namespace Compiles

variable (h : compiler.Compiles tree roots shader network)
include h

/-- The fragment stage has the code of what its roots need, -/
lemma keys_fragmentCode : shader.fragmentCode.map Prod.fst =
    network.needed (rootNodes shader.roots (·.stage == .fragment)) := by
  obtain ⟨_, _, _, _, _, -, hfragment, -⟩ := h.evaluated
  exact keys_evaluate hfragment

/-- and the vertex stage that of what its own roots need. -/
lemma keys_vertexCode : shader.vertexCode.map Prod.fst =
    network.needed (rootNodes shader.roots (·.stage == .vertex)) := by
  obtain ⟨_, _, _, _, _, -, -, hvertex⟩ := h.evaluated
  exact keys_evaluate hvertex

/-- The code of the nodes that feed the coverage is taken over from the fragments. -/
lemma exists_alphaCode : ∃ alphaCode : StageCode, alphaCode.Sublist shader.fragmentCode ∧
    alphaCode.map Prod.fst = network.needed (rootNodes shader.roots (· == .alpha)) ∧
    shader.alphaCode = alphaCode.map Prod.snd := by
  have hnodup : (shader.fragmentCode.map Prod.fst).Nodup := by
    rw [h.keys_fragmentCode]
    exact h.resolves.nodup_needed _
  -- what the coverage needs is among what the fragments need
  have hseeds : rootNodes shader.roots (· == .alpha) ⊆
      rootNodes shader.roots (·.stage == .fragment) := by
    intro i hi
    obtain ⟨root, hroot, rfl⟩ := List.mem_map.mp hi
    obtain ⟨hroot, halpha⟩ := List.mem_filter.mp hroot
    refine List.mem_map.mpr ⟨root, List.mem_filter.mpr ⟨hroot, ?_⟩, rfl⟩
    rw [beq_iff_eq.mp halpha]
    rfl
  let isMember := (network.closure (rootNodes shader.roots (· == .alpha))).contains
  let alphaCode : StageCode := shader.fragmentCode.filter fun entry => isMember entry.1
  have halphaKeys : alphaCode.map Prod.fst =
      (shader.fragmentCode.map Prod.fst).filter isMember := by
    rw [List.filter_map]
    rfl
  refine ⟨alphaCode, List.filter_sublist, ?_, ?_⟩
  · rw [halphaKeys, h.keys_fragmentCode]
    exact Network.filter_needed hseeds
  · rw [CompiledShader.alphaCode, h.alphaNodes]
    exact filterMap_find?_eq hnodup isMember

end Compiles

/-- A compile evaluates what leads to its roots.  The program that only writes depth has the same
vertices, and of the fragments the code of what leads to the coverage. -/
theorem compile_covers (h : compiler.compile tree roots = .ok shader) :
    shader.fragmentCode.Covers tree (tree.LeadsTo compiler.nodes roots [.color, .alpha]) ∧
    shader.vertexCode.Covers tree (tree.LeadsTo compiler.nodes roots [.displacement]) ∧
    shader.mainVertex.statements = shader.vertexCode.flatMap (·.2.statements) ∧
    shader.mainFragment.statements = shader.fragmentCode.flatMap (·.2.statements) ∧
    shader.depthVertex.statements = shader.mainVertex.statements ∧
    ∃ alphaCode : StageCode, alphaCode.Sublist shader.fragmentCode ∧
      alphaCode.Covers tree (tree.LeadsTo compiler.nodes roots [.alpha]) ∧
      shader.depthFragment.statements = alphaCode.flatMap (·.2.statements) := by
  obtain ⟨network, hcompiles⟩ := compiles_of_compile_eq_ok h
  have hresolves := hcompiles.resolves
  have hresolved := hcompiles.resolved
  obtain ⟨alphaCode, hsub, hkeys, hcode⟩ := hcompiles.exists_alphaCode
  refine ⟨hresolves.covers hresolved ?_ hcompiles.keys_fragmentCode,
    hresolves.covers hresolved ?_ hcompiles.keys_vertexCode, ?_, ?_, rfl, alphaCode, hsub,
    hresolves.covers hresolved ?_ hkeys, ?_⟩
  · intro target
    cases target with
    | _ => decide
  · intro target
    cases target with
    | _ => decide
  · exact List.flatMap_map ..
  · exact List.flatMap_map ..
  · intro target
    cases target with
    | _ => decide
  · calc shader.depthFragment.statements
        = shader.alphaCode.flatMap NodeCode.statements := rfl
      _ = _ := by rw [hcode, List.flatMap_map]

/-- A tree that reads three times from one node, for the color and for the coverage.  The node is
evaluated once. -/
def diamond : NodeTree where
  nodes := .ofList
    [("place", ⟨"place", "tex_coord", ∅, ∅, []⟩), ("parts", ⟨"parts", "separate_xyz", ∅, ∅, []⟩),
     ("point", ⟨"point", "combine_xyz", ∅, ∅, []⟩), ("end", ⟨"end", "output_material", ∅, ∅, []⟩)]
  links :=
    [⟨⟨"place", "generated"⟩, ⟨"parts", "vector"⟩⟩, ⟨⟨"parts", "x"⟩, ⟨"point", "x"⟩⟩,
     ⟨⟨"parts", "y"⟩, ⟨"point", "y"⟩⟩, ⟨⟨"parts", "z"⟩, ⟨"point", "z"⟩⟩,
     ⟨⟨"point", "vector"⟩, ⟨"end", "surface"⟩⟩, ⟨⟨"parts", "x"⟩, ⟨"end", "alpha"⟩⟩]

theorem compile_covers_diamond : ∃ shader, standard.compile diamond [] = .ok shader ∧
    shader.fragmentCode.Covers diamond (diamond.LeadsTo .builtin [] [.color, .alpha]) := by
  have hsome : (standard.compile diamond []).toOption.isSome = true := by decide +kernel
  obtain ⟨shader, hshader⟩ := Option.isSome_iff_exists.mp hsome
  have h := toOption_eq_some_iff.mp hshader
  exact ⟨shader, h, (compile_covers h).1⟩

end ShaderCompiler

end SceneEngine.Shading
