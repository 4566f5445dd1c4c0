import SceneEngine.Proofs.Shading.LinkOrder

/-!
# Documents of node trees

Node trees are written by hand and by tools, and a document allows several forms for the same thing.
This module shows that they mean the same, and that what is read is in a normal form, so that
nothing that comes after reading has to know about the forms.

## Nodes in a list and by their ids

A document writes its nodes in a list, each with its id, or as a record by their ids.  `ListsNodes`
relates a document of the second form to one of the first: every entry of the record has become a
member of the list, with the id among its fields (`PutsId`).  Both are read as the same tree, or
refused with the same error (`ListsNodes.ofJson_eq`); errors name a node by its id in both forms.

## Normal names

Names of sockets are written in many ways.  Whichever way a tree is written, all its sockets have
normal names once it has been read (`NodeTree.IsNormal`): those that values are kept under, those of
declared outputs, and those at both ends of a link.  A name is normal if it is its own key.

## Links at inputs

A link can be written at the input that it leads to, or in the list of links.  The tree keeps one
list, in which the links written at inputs stand before those that are listed, in the order of the
nodes and their inputs (`inlineLinks`).  For this the entries of a document are followed one by one;
`ReadsInputs` is the invariant for the inputs of one node, and `IsNormal.addEntry` the step from
node to node.

The main result, `NodeTree.ofJson_forms`, states all three.
-/

namespace SceneEngine.Shading

open Identifier

variable {id key name : String} {key? : Option String} {position : Nat} {json json' : Json}
  {document document' : Json} {tree tree' : NodeTree} {ref : SocketRef} {link : Link}
  {links : List Link}

/-! ## Nodes in a list and by their ids -/

lemma field?_object (fields : List (String × Json)) (name : String) :
    (Json.object fields).field? name = Json.fieldOf? fields name := rfl

/-- A field that is written is found, and others are left. -/
lemma fieldOf?_setField (fields : List (String × Json)) (key name : String) (value : Json) :
    Json.fieldOf? (Json.setField fields key value) name =
      if name = key then some value else Json.fieldOf? fields name := by
  induction fields with
  | nil =>
    by_cases h : name = key
    · simp [Json.setField, Json.fieldOf?, h]
    · simp [Json.setField, Json.fieldOf?, h, Ne.symm h]
  | cons field fields ih =>
    obtain ⟨other, old⟩ := field
    simp only [Json.fieldOf?] at ih
    by_cases hother : other = key
    · subst hother
      by_cases h : name = other
      · simp [Json.setField, Json.fieldOf?, h]
      · simp [Json.setField, Json.fieldOf?, h, Ne.symm h]
    · by_cases h : other = name
      · subst h
        simp [Json.setField, Json.fieldOf?, hother]
      · simp [Json.setField, Json.fieldOf?, hother, h, ih]

/-- The second document is the first one, a record without an id, with this id among its fields. -/
inductive PutsId (key : String) : Json → Json → Prop
  /-- The id is the only difference between the fields. -/
  | intro {fields fields' : List (String × Json)} (hnone : Json.fieldOf? fields "id" = none)
    (hid : Json.fieldOf? fields' "id" = some (.string key))
    (hothers : ∀ name, name ≠ "id" → Json.fieldOf? fields' name = Json.fieldOf? fields name) :
    PutsId key (.object fields) (.object fields')

/-- The second document lists the nodes that the first one has under their ids, in the same order,
and has the same links beside them. -/
inductive ListsNodes : Json → Json → Prop
  /-- Beside the nodes only the links are read, and these are the same. -/
  | intro {fields fields' entries : List (String × Json)} {items : List Json}
    (hkeyed : Json.fieldOf? fields "nodes" = some (.object entries))
    (hlisted : Json.fieldOf? fields' "nodes" = some (.array items))
    (hentries : List.Forall₂ (fun entry item => entry.1 ≠ "" ∧ PutsId entry.1 entry.2 item)
      entries items)
    (hlinks : Json.fieldOf? fields' "links" = Json.fieldOf? fields "links") :
    ListsNodes (.object fields) (.object fields')

/-- Writing the id does so. -/
lemma PutsId.setField {fields : List (String × Json)} (hnone : Json.fieldOf? fields "id" = none)
    (key : String) :
    PutsId key (.object fields) (.object (Json.setField fields "id" (.string key))) := by
  refine .intro hnone ?_ fun name hname => ?_
  · rw [fieldOf?_setField, if_pos rfl]
  · rw [fieldOf?_setField, if_neg hname]

lemma NodeEntry.ofJson?_object (fields : List (String × Json)) :
    NodeEntry.ofJson? (.object fields) = do
      let id? ← optionalString? (Json.fieldOf? fields "id")
      let kind ← (← Json.fieldOf? fields "type").asString?
      let inputs ← optionalRecord? (Json.fieldOf? fields "inputs")
      let outputs ← optionalRecord? (Json.fieldOf? fields "outputs")
      let properties ← optionalRecord? (Json.fieldOf? fields "properties")
      return { id?, kind, inputs, outputs, properties } :=
  rfl

/-- The entry of a node has no id of its own, and with the id among its fields it has this one. -/
lemma PutsId.ofJson? (h : PutsId key json json') :
    (∀ entry, NodeEntry.ofJson? json = some entry → entry.id? = none) ∧
      NodeEntry.ofJson? json' =
        (NodeEntry.ofJson? json).map fun entry => { entry with id? := some key } := by
  cases h with
  | intro hnone hid hothers =>
    rw [NodeEntry.ofJson?_object, NodeEntry.ofJson?_object, hid, hnone,
      hothers "type" (by decide), hothers "inputs" (by decide), hothers "outputs" (by decide),
      hothers "properties" (by decide)]
    simp only [optionalString?, Option.bind_eq_bind, Option.bind_some, Option.pure_def]
    constructor
    · intro entry hentry
      simp only [Option.bind_eq_some_iff, Option.some.injEq] at hentry
      obtain ⟨_, -, kind, -, inputs, -, outputs, -, properties, -, rfl⟩ := hentry
      rfl
    · simp only [Option.map_bind, Function.comp_def, Option.map_some]

/-- A node that stands under its id is added as one that has the id among its fields. -/
lemma PutsId.addEntry (h : PutsId key json json') (hkey : key ≠ "") (tree : NodeTree)
    (position : Nat) :
    tree.addEntry position none json' = tree.addEntry position (some key) json := by
  obtain ⟨hnoId, hentry'⟩ := h.ofJson?
  cases hentry : NodeEntry.ofJson? json with
  | none =>
    rw [hentry, Option.map_none] at hentry'
    rw [NodeTree.addEntry, NodeTree.addEntry, hentry', hentry]
    cases h with
    | intro hnone hid hothers =>
      dsimp only
      rw [field?_object, field?_object, hnone, hid]
      rfl
  | some entry =>
    rw [hentry, Option.map_some] at hentry'
    have hid : entry.id (some key) position = .ok key := by
      rw [NodeEntry.id, hnoId entry hentry]
      simp [hkey]
    have hid' : NodeEntry.id { entry with id? := some key } none position = .ok key := by
      rw [NodeEntry.id]
      simp [hkey]
    rw [addEntry_eq hentry, addEntry_eq hentry', hid, hid']

lemma addEntries_eq_of_putsId {entries : List (String × Json)} {items : List Json}
    (h : List.Forall₂ (fun entry item => entry.1 ≠ "" ∧ PutsId entry.1 entry.2 item) entries items)
    (tree : NodeTree) (position : Nat) :
    tree.addEntries position (items.map (none, ·)) =
      tree.addEntries position (entries.map fun (id, entry) => (some id, entry)) := by
  induction h generalizing tree position with
  | nil => rfl
  | cons hfirst _ ih =>
    rw [List.map_cons, List.map_cons, NodeTree.addEntries, NodeTree.addEntries,
      hfirst.2.addEntry hfirst.1]
    exact congrArg _ (funext fun next => ih next (position + 1))

/-- Whether nodes are listed or stand under their ids, what is read is the same. -/
lemma ListsNodes.ofJson_eq (h : ListsNodes document document') :
    NodeTree.ofJson document' = NodeTree.ofJson document := by
  cases h with
  | @intro fields fields' entries items hkeyed hlisted hentries hlinks =>
    have hnodes : nodeEntries (.object fields) =
        .ok (entries.map fun (id, entry) => (some id, entry)) := by
      simp only [nodeEntries, Json.asObject?, hkeyed]
    have hnodes' : nodeEntries (.object fields') = .ok (items.map (none, ·)) := by
      simp only [nodeEntries, Json.asObject?, hlisted]
    have hlinks : listedLinks (.object fields') = listedLinks (.object fields) := by
      rw [listedLinks, listedLinks, field?_object, field?_object, hlinks]
    rw [NodeTree.ofJson, NodeTree.ofJson, hnodes, hnodes', hlinks]
    simp only [Except.mapError, ok_bind, addEntries_eq_of_putsId hentries]

/-! ## Normal names -/

/-- The socket has a normal name. -/
def SocketRef.IsNormal (ref : SocketRef) : Prop := socketKey ref.socket = ref.socket

/-- Both sockets have normal names. -/
structure Link.IsNormal (link : Link) : Prop where
  /-- The output has a normal name, -/
  source : link.source.IsNormal
  /-- and so has the input. -/
  target : link.target.IsNormal

/-- What is kept by sockets is kept under normal names. -/
def HasNormalKeys {α : Type} (m : OrderedMap String α) : Prop :=
  ∀ socket ∈ m.keys, socketKey socket = socket

/-- All sockets of a tree have normal names. -/
structure NodeTree.IsNormal (tree : NodeTree) : Prop where
  /-- Authored values are kept under normal names, -/
  literals : ∀ node ∈ tree.nodes.values, HasNormalKeys node.literals
  /-- declared outputs have normal names, -/
  outputs : ∀ node ∈ tree.nodes.values, HasNormalKeys node.outputs
  /-- and links join sockets with normal names. -/
  links : ∀ link ∈ tree.links, link.IsNormal

lemma HasNormalKeys.empty {α : Type} : HasNormalKeys (∅ : OrderedMap String α) :=
  List.forall_mem_nil _

/-- A value that is kept under a key is kept under a normal name. -/
lemma HasNormalKeys.insert {α : Type} {m : OrderedMap String α} (h : HasNormalKeys m)
    (name : String) (a : α) : HasNormalKeys (m.insert (socketKey name) a) := by
  intro socket hsocket
  rcases OrderedMap.mem_keys_insert.mp hsocket with rfl | hsocket
  · exact socketKey_socketKey name
  · exact h socket hsocket

/-- A reference is normalized when it is made. -/
lemma SocketRef.isNormal_normalized (node socket : String) : (normalized node socket).IsNormal :=
  socketKey_socketKey socket

lemma SocketRef.isNormal_of_ofJson? (h : SocketRef.ofJson? json = some ref) : ref.IsNormal := by
  simp only [SocketRef.ofJson?, Option.bind_eq_bind, Option.bind_eq_some_iff, Option.pure_def,
    Option.some.injEq] at h
  obtain ⟨-, -, _, -, node, -, _, -, socket, -, rfl⟩ := h
  exact isNormal_normalized node socket

lemma Link.isNormal_of_ofJson? (h : Link.ofJson? json = some link) : link.IsNormal := by
  simp only [Link.ofJson?, Option.bind_eq_bind, Option.bind_eq_some_iff, Option.pure_def,
    Option.some.injEq] at h
  obtain ⟨-, -, _, -, source, hsource, _, -, target, htarget, rfl⟩ := h
  exact ⟨SocketRef.isNormal_of_ofJson? hsource, SocketRef.isNormal_of_ofJson? htarget⟩

/-- The links of a list are normalized while they are read. -/
lemma isNormal_of_readLinks {items : List Json} (h : readLinks position items = .ok links) :
    ∀ link ∈ links, link.IsNormal := by
  induction items generalizing position links with
  | nil =>
    cases h
    exact List.forall_mem_nil _
  | cons json items ih =>
    rw [readLinks] at h
    split at h
    · cases h
    next link hlink =>
      obtain ⟨rest, hrest, h⟩ := bind_eq_ok_iff.mp h
      cases h
      exact List.forall_mem_cons.mpr ⟨Link.isNormal_of_ofJson? hlink, ih hrest⟩

lemma isNormal_of_listedLinks (h : listedLinks document = .ok links) :
    ∀ link ∈ links, link.IsNormal := by
  rw [listedLinks] at h
  split at h
  · cases h
    exact List.forall_mem_nil _
  split at h
  · cases h
  · exact isNormal_of_readLinks h

/-- The sources of links that are read are normalized then. -/
lemma isNormal_of_linked {sources : List SocketRef}
    (h : InputEntry.ofJson json = .ok (.linked sources)) : ∀ ref ∈ sources, ref.IsNormal := by
  rw [InputEntry.ofJson.eq_def] at h
  split at h
  next fields =>
    split at h
    next link hlink =>
      split at h
      next source hsource =>
        cases h
        exact List.forall_mem_singleton.mpr (SocketRef.isNormal_of_ofJson? hsource)
      next => cases h
    next =>
      split at h
      · split at h
        next items hitems =>
          split at h
          next read hread =>
            cases h
            intro ref href
            obtain ⟨json, -, hjson⟩ := exists_of_mem_of_mapM_eq_some hread href
            exact SocketRef.isNormal_of_ofJson? hjson
          next => cases h
        next => cases h
      · cases h
  next => cases h

/-! ## Links at inputs -/

/-- The links written at an input of a node. -/
def inputLinks (id : String) (input : String × Json) : List Link :=
  match InputEntry.ofJson input.2 with
  | .ok (.linked sources) => sources.map fun source => ⟨source, .normalized id input.1⟩
  | _ => []

/-- The links written at the inputs of a node, which has an id of its own or stands under it. -/
def entryLinks (entry : Option String × Json) : List Link :=
  match NodeEntry.ofJson? entry.2 with
  | some node => node.inputs.flatMap (inputLinks ((node.id?.or entry.1).getD ""))
  | none => []

/-- The links written at the inputs of the nodes of a document. -/
def inlineLinks (document : Json) : List Link :=
  match nodeEntries document with
  | .ok entries => entries.flatMap entryLinks
  | .error _ => []

/-- The links at an input lead from a normal output to a normal input. -/
lemma isNormal_inputLinks (input : String × Json) :
    ∀ link ∈ inputLinks id input, link.IsNormal := by
  intro link hlink
  rw [inputLinks] at hlink
  split at hlink
  next sources hsources =>
    obtain ⟨source, hsource, rfl⟩ := List.mem_map.mp hlink
    exact ⟨isNormal_of_linked hsources source hsource, SocketRef.isNormal_normalized id input.1⟩
  next => cases hlink

/-! ## Reading nodes -/

/-- What has been read at inputs: values under normal names, and the links written there. -/
structure ReadsInputs (id : String) (inputs : List (String × Json))
    (read : OrderedMap String Json × List Link) : Prop where
  /-- Values are kept under normal names, -/
  literals : HasNormalKeys read.1
  /-- and links come in the order of the inputs. -/
  links : read.2 = inputs.flatMap (inputLinks id)

lemma ReadsInputs.readInput {inputs : List (String × Json)} {input : String × Json}
    {read read' : OrderedMap String Json × List Link} (h : ReadsInputs id inputs read)
    (hread : readInput id read input = .ok read') : ReadsInputs id (inputs ++ [input]) read' := by
  obtain ⟨written, hwritten, hread⟩ := bind_eq_ok_iff.mp hread
  have hlinks : (inputs ++ [input]).flatMap (inputLinks id) = read.2 ++ inputLinks id input := by
    rw [List.flatMap_append, List.flatMap_singleton, h.links]
  cases written with
  | literal value =>
    cases hread
    refine ⟨h.literals.insert input.1 value, ?_⟩
    rw [hlinks, inputLinks, hwritten, List.append_nil]
  | linked sources =>
    cases hread
    refine ⟨h.literals, ?_⟩
    -- the name of the input has been normalized already, and is normalized again
    simp only [hlinks, inputLinks, hwritten, SocketRef.normalized, socketKey_socketKey]

lemma readsInputs {inputs : List (String × Json)} {read : OrderedMap String Json × List Link}
    (h : readInputs id inputs = .ok read) : ReadsInputs id inputs read := by
  rw [readInputs_eq] at h
  exact inv_of_foldlM_eq_ok (ReadsInputs id) (fun _ _ _ _ => ReadsInputs.readInput) ⟨.empty, rfl⟩ h

lemma hasNormalKeys_of_readOutputs {outputs : List (String × Json)}
    {declared : OrderedMap String (Option SocketType)} (h : readOutputs outputs = .ok declared) :
    HasNormalKeys declared := by
  rw [readOutputs] at h
  refine inv_of_foldlM_eq_ok (fun _ declared => HasNormalKeys declared)
    (fun _ output before after hbefore hread => ?_) HasNormalKeys.empty h
  dsimp only at hread
  split at hread
  · cases hread
    exact hbefore.insert output.1 none
  split at hread
  next type _ =>
    cases hread
    exact hbefore.insert output.1 (some type)
  next => cases hread

/-- The id of an entry is its own or the one it stands under. -/
lemma NodeEntry.or_eq_some_of_id_eq_ok {entry : NodeEntry} (h : entry.id key? position = .ok id) :
    entry.id?.or key? = some id := by
  rw [NodeEntry.id] at h
  split at h
  next own hown =>
    split at h
    · cases h
    · cases h
      exact hown
  next => cases h

/-- An entry adds a node, and the links written at its inputs behind all others. -/
lemma NodeTree.IsNormal.addEntry (htree : tree.IsNormal)
    (h : tree.addEntry position key? json = .ok tree') :
    tree'.IsNormal ∧ tree'.links = tree.links ++ entryLinks (key?, json) := by
  cases hentry : NodeEntry.ofJson? json with
  | none =>
    rw [NodeTree.addEntry, hentry] at h
    cases h
  | some entry =>
    rw [addEntry_eq hentry] at h
    obtain ⟨id, hid, h⟩ := bind_eq_ok_iff.mp h
    split at h
    · cases h
    next hnew =>
      obtain ⟨⟨literals, links⟩, hread, h⟩ := bind_eq_ok_iff.mp h
      obtain ⟨outputs, hdeclared, h⟩ := bind_eq_ok_iff.mp h
      cases h
      have hinputs := readsInputs (mapError_eq_ok_iff.mp hread)
      have houtputs := hasNormalKeys_of_readOutputs (mapError_eq_ok_iff.mp hdeclared)
      have hlinks : entryLinks (key?, json) = links := by
        rw [entryLinks, hentry]
        simp only [NodeEntry.or_eq_some_of_id_eq_ok hid, Option.getD_some]
        exact hinputs.links.symm
      refine ⟨⟨fun node hnode => ?_, fun node hnode => ?_, ?_⟩, by rw [hlinks]⟩
      · rcases (OrderedMap.mem_values_push hnew).mp hnode with rfl | hnode
        · exact hinputs.literals
        · exact htree.literals node hnode
      · rcases (OrderedMap.mem_values_push hnew).mp hnode with rfl | hnode
        · exact houtputs
        · exact htree.outputs node hnode
      · refine List.forall_mem_append.mpr ⟨htree.links, ?_⟩
        intro link hlink
        rw [← hlinks, entryLinks, hentry] at hlink
        obtain ⟨input, -, hlink⟩ := List.mem_flatMap.mp hlink
        exact isNormal_inputLinks input link hlink

/-- Entries that are added one after another leave the tree normal, and add their links in order. -/
lemma NodeTree.IsNormal.addEntries {entries : List (Option String × Json)} (htree : tree.IsNormal)
    (h : tree.addEntries position entries = .ok tree') :
    tree'.IsNormal ∧ tree'.links = tree.links ++ entries.flatMap entryLinks := by
  induction entries generalizing tree position with
  | nil =>
    cases h
    exact ⟨htree, (List.append_nil _).symm⟩
  | cons entry entries ih =>
    obtain ⟨next, hnext, h⟩ := bind_eq_ok_iff.mp h
    obtain ⟨hnormal, hlinks⟩ := htree.addEntry hnext
    obtain ⟨hnormal', hlinks'⟩ := ih hnormal h
    refine ⟨hnormal', ?_⟩
    rw [hlinks', hlinks, List.flatMap_cons, List.append_assoc]

namespace NodeTree

lemma isNormal_empty : NodeTree.empty.IsNormal :=
  ⟨List.forall_mem_nil _, List.forall_mem_nil _, List.forall_mem_nil _⟩

/-- A tree that has been read is normal, with its links in this order. -/
lemma isNormal_of_ofJson_eq_ok (h : NodeTree.ofJson document = .ok tree) :
    tree.IsNormal ∧
      ∃ links, listedLinks document = .ok links ∧ tree.links = inlineLinks document ++ links := by
  obtain ⟨entries, hentries, h⟩ := bind_eq_ok_iff.mp h
  obtain ⟨before, hbefore, h⟩ := bind_eq_ok_iff.mp h
  obtain ⟨links, hlisted, h⟩ := bind_eq_ok_iff.mp h
  cases h
  have hlisted := mapError_eq_ok_iff.mp hlisted
  obtain ⟨hnormal, hlinks⟩ := isNormal_empty.addEntries hbefore
  have hinline : before.links = inlineLinks document := by
    rw [hlinks, inlineLinks, mapError_eq_ok_iff.mp hentries]
    rfl
  refine ⟨⟨hnormal.literals, hnormal.outputs, ?_⟩, links, hlisted, by rw [hinline]⟩
  exact List.forall_mem_append.mpr ⟨hnormal.links, isNormal_of_listedLinks hlisted⟩

/-- A tree is read alike whether its nodes are listed or stand under their ids.  Its sockets have
normal names, and the links written at inputs stand before those that are listed. -/
theorem ofJson_forms :
    (∀ document document', ListsNodes document document' →
      NodeTree.ofJson document' = NodeTree.ofJson document) ∧
    ∀ document tree, NodeTree.ofJson document = .ok tree →
      tree.IsNormal ∧
        ∃ links, listedLinks document = .ok links ∧ tree.links = inlineLinks document ++ links :=
  ⟨fun _ _ h => h.ofJson_eq, fun _ _ h => isNormal_of_ofJson_eq_ok h⟩

/-- A document of these nodes, and one listed link. -/
def mosaic (nodes : Json) : Json :=
  let source : Json := .object [("node", .string "Tint"), ("socket", .string "Color")]
  let target : Json := .array [.string "Mix.001", .string "Fac"]
  .object [("links", .array [.object [("from", source), ("to", target)]]), ("nodes", nodes)]

/-- A node with links at its inputs, in both forms, and the one they come from. -/
def tiles : List (String × List (String × Json)) :=
  let source : Json := .array [.string "Tint", .string "Color"]
  [("Mix.001",
    [("type", .string "mix"),
     ("inputs", .object
      [("Color 1", .object [("link", source)]), ("Blend Mode", .string "add"),
       ("Color-2", .object [("type", .string "linked"), ("links", .array [source])])])]),
   ("Tint", [("type", .string "rgb"), ("outputs", .object [("Color ", .string "vec4")])])]

theorem ofJson_forms_mosaic : ∃ tree : NodeTree,
    NodeTree.ofJson (mosaic (.object (tiles.map fun (id, fields) => (id, .object fields)))) =
      .ok tree ∧
    NodeTree.ofJson (mosaic (.array (tiles.map fun (id, fields) =>
      .object (Json.setField fields "id" (.string id))))) = .ok tree ∧
    tree.IsNormal ∧ tree.nodes.keys = ["Mix.001", "Tint"] ∧
    tree.links = [⟨⟨"Tint", "color"⟩, ⟨"Mix.001", "color_1"⟩⟩,
      ⟨⟨"Tint", "color"⟩, ⟨"Mix.001", "color_2"⟩⟩, ⟨⟨"Tint", "color"⟩, ⟨"Mix.001", "fac"⟩⟩] := by
  let keyed := mosaic (.object (tiles.map fun (id, fields) => (id, .object fields)))
  have hlists : ListsNodes keyed (mosaic (.array (tiles.map fun (id, fields) =>
      .object (Json.setField fields "id" (.string id))))) :=
    .intro rfl rfl (.cons ⟨by decide, .setField rfl _⟩
      (.cons ⟨by decide, .setField rfl _⟩ .nil)) rfl
  have hresult : ((NodeTree.ofJson keyed).toOption.any fun tree =>
      tree.nodes.keys == ["Mix.001", "Tint"] && tree.links ==
        [⟨⟨"Tint", "color"⟩, ⟨"Mix.001", "color_1"⟩⟩, ⟨⟨"Tint", "color"⟩, ⟨"Mix.001", "color_2"⟩⟩,
          ⟨⟨"Tint", "color"⟩, ⟨"Mix.001", "fac"⟩⟩]) = true := by
    decide +kernel
  obtain ⟨tree, htree, hvalues⟩ := (Option.any_eq_true _ _).mp hresult
  obtain ⟨hkeys, hlinks⟩ := Bool.and_eq_true_iff.mp hvalues
  have h := toOption_eq_some_iff.mp htree
  exact ⟨tree, h, (ofJson_forms.1 _ _ hlists).trans h, (ofJson_forms.2 _ _ h).1, eq_of_beq hkeys,
    eq_of_beq hlinks⟩

end NodeTree

end SceneEngine.Shading
