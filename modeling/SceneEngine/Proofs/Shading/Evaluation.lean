import SceneEngine.Proofs.Shading.Kinds
import SceneEngine.Proofs.Shading.Needed

/-!
# Evaluated code

Evaluating a node writes its code and stores each of its outputs in a variable, under the name that
was chosen for the output when the network was resolved.  Other nodes read these variables, so it
matters that no two outputs share one, and that no helper variable gets in the way.  This module
shows that the code of a stage declares no variable twice, and reads none that no node has declared.

## Names of outputs

All outputs of a network are named before any code is written.  A pool never gives the same name
twice, so every output has a variable of its own; `TakesNames` says this of any step that takes
names from a pool for some keys, and is shown for the outputs of one station and then of all
(`takesNames_nameAll`).  For the network it becomes `Network.IsNamed`: from the name of a variable
one can tell the node and the socket.

## The code of a node

An operand is the converted variable of the output that feeds the input, or a constant.  So the code
reads the variables of the nodes that feed it (`Network.Receives`) and names that it requires, and
it declares the variables of its outputs and some new ones, each once: this is `NodeCode.IsSound`,
which `isSound_of_evaluateNode` gets from what the code of each node type does (`NodeKind.Writes`).
New variables are new in a strong sense, since they were not in the pool before and are in the pool
afterwards.

## The code of a stage

Nodes are evaluated one after another, and the pool is handed on.  The variables of two nodes are
different: outputs because of their names, and helper variables because the later ones were not in
the pool that contains the earlier ones (`NodeCode.IsSound.cons`).  By induction over the nodes the
code of a stage is sound (`isSound_of_evaluate`), and declarations and pool have only grown
(`Advances`).
-/

namespace SceneEngine.Shading

open Identifier

/-! ## Names of outputs -/

/-- Between two states of the pool a new name is taken for every key, for each another one.  Keys
are sockets of a station, or pairs of a position and a socket. -/
structure TakesNames {κ : Type} (name? : κ → Option String) (before after : NamePool) : Prop where
  /-- Names that were taken stay so. -/
  used : before.used ⊆ after.used
  /-- The names are new, and taken from now on. -/
  fresh : ∀ k x, name? k = some x → IsVariable x ∧ x ∉ before.used ∧ x ∈ after.used
  /-- No two keys get the same. -/
  injective : ∀ k k' x, name? k = some x → name? k' = some x → k = k'

/-- Without keys there is nothing to take. -/
lemma TakesNames.empty {κ : Type} {name? : κ → Option String} (pool : NamePool)
    (h : ∀ k, name? k = none) : TakesNames name? pool pool := by
  refine ⟨List.Subset.refl _, fun k x hx => ?_, fun k k' x hx => ?_⟩
  · rw [h k] at hx
    cases hx
  · rw [h k] at hx
    cases hx

/-- Naming one more output takes one more name. -/
lemma TakesNames.insert {named : OrderedMap String String} {before pool : NamePool}
    (h : TakesNames named.get? before pool) (id socket : String) :
    TakesNames (named.insert socket (pool.allocate ["n", id, socket]).1).get? before
      (pool.allocate ["n", id, socket]).2 := by
  obtain ⟨hvariable, hnew⟩ := pool.allocate_variable [id, socket]
  rw [NamePool.snd_allocate]
  generalize (pool.allocate ["n", id, socket]).1 = name at hvariable hnew
  -- the new name is not in the pool, and all names taken before are
  have hother : ∀ k x, named.get? k = some x → x ≠ name := by
    rintro k x hx rfl
    exact hnew (h.fresh k x hx).2.2
  refine ⟨List.subset_cons_of_subset _ h.used, fun k x hx => ?_, fun k k' x hx hx' => ?_⟩
  · rw [OrderedMap.get?_insert] at hx
    split at hx
    · cases hx
      exact ⟨hvariable, fun hmem => hnew (h.used hmem), List.mem_cons_self⟩
    · obtain ⟨hvar, hold, hused⟩ := h.fresh k x hx
      exact ⟨hvar, hold, List.mem_cons_of_mem _ hused⟩
  · rw [OrderedMap.get?_insert] at hx hx'
    split at hx
    next hk =>
      cases hx
      split at hx'
      next hk' => rw [hk, hk']
      · exact absurd rfl (hother k' _ hx')
    · split at hx'
      · cases hx'
        exact absurd rfl (hother k _ hx)
      · exact h.injective k k' x hx hx'

/-- The outputs of a station are named one after another. -/
lemma TakesNames.foldl {before : NamePool} (id : String) (outputs : List (String × SocketType))
    (taken : OrderedMap String String × NamePool) (h : TakesNames taken.1.get? before taken.2) :
    let result := outputs.foldl
      (fun taken output => (taken.1.insert output.1 (taken.2.allocate ["n", id, output.1]).1,
        (taken.2.allocate ["n", id, output.1]).2))
      taken
    TakesNames result.1.get? before result.2 := by
  induction outputs generalizing taken with
  | nil => exact h
  | cons output outputs ih =>
    have hnext := h.insert id output.1
    rw [List.foldl_cons]
    generalize taken.2.allocate ["n", id, output.1] = result at hnext ⊢
    exact ih _ hnext

/-- The outputs of a station get new names. -/
lemma takesNames_nameOutputs (station : Station) (pool : NamePool) :
    TakesNames (station.nameOutputs pool).1.outputNames.get? pool (station.nameOutputs pool).2 := by
  have hstart : TakesNames (∅ : OrderedMap String String).get? pool pool := .empty pool fun _ => rfl
  simp only [Station.nameOutputs]
  exact .foldl station.node.id station.signature.outputs (∅, pool) hstart

/-- All outputs get new names. -/
lemma takesNames_nameAll (stations : List Station) (pool : NamePool) :
    TakesNames (fun key : Nat × String =>
      (nameAll stations pool).1[key.1]?.bind fun station => station.outputNames.get? key.2)
      pool (nameAll stations pool).2 := by
  induction stations generalizing pool with
  | nil => exact .empty pool fun _ => rfl
  | cons station stations ih =>
    have hfirst := takesNames_nameOutputs station pool
    have hrest := ih (station.nameOutputs pool).2
    -- a name of the first station is in the pool that the others start from: they take others
    refine ⟨List.Subset.trans hfirst.used hrest.used, ?_, ?_⟩
    · rintro ⟨i, socket⟩ x hx
      cases i with
      | zero =>
        obtain ⟨hvariable, hnew, hused⟩ := hfirst.fresh socket x hx
        exact ⟨hvariable, hnew, hrest.used hused⟩
      | succ i =>
        obtain ⟨hvariable, hnew, hused⟩ := hrest.fresh (i, socket) x hx
        exact ⟨hvariable, fun hmem => hnew (hfirst.used hmem), hused⟩
    · rintro ⟨i, socket⟩ ⟨j, socket'⟩ x hx hx'
      cases i with
      | zero =>
        cases j with
        | zero => rw [hfirst.injective socket socket' x hx hx']
        | succ j => exact absurd (hfirst.fresh socket x hx).2.2 (hrest.fresh (j, socket') x hx').2.1
      | succ i =>
        cases j with
        | zero => exact absurd (hfirst.fresh socket' x hx').2.2 (hrest.fresh (i, socket) x hx).2.1
        | succ j =>
          obtain ⟨rfl, rfl⟩ := Prod.mk.inj (hrest.injective (i, socket) (j, socket') x hx hx')
          rfl

/-! ## Variables of outputs -/

variable {registry : NodeRegistry} {network : Network} {names : NamePool} {i j : Nat} {x : String}

namespace Network

/-- The variable holds an output of the node. -/
def Holds (network : Network) (i : Nat) (x : String) : Prop :=
  ∃ socket type, network.output i socket = .ok (x, type)

/-- The variable holds an output of a node that feeds this one. -/
def Receives (network : Network) (i : Nat) (x : String) : Prop :=
  ∃ j, network.Feeds j i ∧ network.Holds j x

/-- Every output has a variable of its own, with a name from the pool.  More names may be in the
pool. -/
structure IsNamed (network : Network) (names : NamePool) : Prop where
  /-- Names of outputs are variables, and taken. -/
  fresh : ∀ i x, network.Holds i x → IsVariable x ∧ x ∈ names.used
  /-- The name tells the node and the socket. -/
  injective : ∀ i j socket socket' x type type', network.output i socket = .ok (x, type) →
    network.output j socket' = .ok (x, type') → i = j ∧ socket = socket'

/-- An output can be read when its station exists, has named it and knows its type. -/
lemma output_eq_ok_iff {socket : String} {type : SocketType} :
    network.output i socket = .ok (x, type) ↔
      ∃ station, network.stations[i]? = some station ∧ station.outputNames.get? socket = some x ∧
        station.signature.outputType? socket = some type := by
  rw [output]
  constructor
  · intro h
    split at h
    · cases h
    next station hstation =>
      split at h
      next name type' hname htype =>
        cases h
        exact ⟨station, hstation, hname, htype⟩
      · cases h
  · rintro ⟨station, hstation, hname, htype⟩
    simp [hstation, hname, htype]

/-- When all stations have named their outputs, every output has a variable of its own. -/
lemma isNamed_of_nameAll {stations : List Station} {pool : NamePool}
    (h : nameAll stations pool = (network.stations, names)) : network.IsNamed names := by
  have htakes := takesNames_nameAll stations pool
  rw [h] at htakes
  have hname : ∀ {i socket x type}, network.output i socket = .ok (x, type) →
      (network.stations[i]?.bind fun station => station.outputNames.get? socket) = some x := by
    intro i socket x type hout
    obtain ⟨station, hstation, hget, -⟩ := output_eq_ok_iff.mp hout
    rw [hstation, Option.bind_some, hget]
  refine ⟨fun i x hx => ?_, fun i j socket socket' x type type' hx hx' => ?_⟩
  · obtain ⟨socket, type, hout⟩ := hx
    obtain ⟨hvariable, -, hused⟩ := htakes.fresh (i, socket) x (hname hout)
    exact ⟨hvariable, hused⟩
  · exact Prod.mk.inj (htakes.injective (i, socket) (j, socket') x (hname hx) (hname hx'))

/-- Taking more names does no harm. -/
lemma IsNamed.mono {names' : NamePool} (h : network.IsNamed names)
    (hused : names.used ⊆ names'.used) : network.IsNamed names' :=
  ⟨fun i x hx => ⟨(h.fresh i x hx).1, hused (h.fresh i x hx).2⟩, h.injective⟩

end Network

/-! ## The code of a node -/

/-- An operand reads the variable of the output that feeds the input, or nothing. -/
lemma isOperand_of_operandOf {station : Station} {input : InputSpec} {operand : Operand}
    (hnames : network.IsNamed names) (hstation : network.stations[i]? = some station)
    (h : operandOf network station input = .ok operand) :
    IsOperand (network.Receives i) operand.expr := by
  rw [operandOf] at h
  split at h
  next source hsource =>
    obtain ⟨⟨name, type⟩, hname, h⟩ := bind_eq_ok_iff.mp h
    dsimp only at h
    split at h
    next expr hconvert =>
      cases h
      have hholds : network.Holds source.node name := ⟨source.socket, type, hname⟩
      -- the source of an input is a node that feeds this one, and its variable is what is read
      have hfeeds : network.Feeds source.node i :=
        (Network.feeds_iff_of_getElem? hstation).mpr
          ⟨source, OrderedMap.mem_values_iff.mpr ⟨_, hsource⟩, rfl⟩
      have hvariable := (hnames.fresh source.node name hholds).1
      exact (IsOperand.of_variable hvariable ⟨source.node, hfeeds, hholds⟩).convert hconvert
    · cases h
  · split at h
    · cases h
      exact .of_isPlain (by decide)
    · dsimp only at h
      split at h
      next expr hliteral =>
        cases h
        exact isOperand_literal hliteral
      · cases h

/-- Every operand that is kept was kept before or is that of an input. -/
lemma exists_of_foldlM_operandOf {station : Station} {inputs : List InputSpec}
    {values values' : OrderedMap String Operand}
    (h : inputs.foldlM (fun values input => do
      return values.insert input.name (← operandOf network station input)) values = .ok values')
    {name : String} {operand : Operand} (hget : values'.get? name = some operand) :
    values.get? name = some operand ∨
      ∃ input ∈ inputs, operandOf network station input = .ok operand := by
  induction inputs generalizing values with
  | nil =>
    cases h
    exact .inl hget
  | cons input inputs ih =>
    rw [List.foldlM_cons] at h
    obtain ⟨next, hnext, h⟩ := bind_eq_ok_iff.mp h
    obtain ⟨first, hfirst, hnext⟩ := bind_eq_ok_iff.mp hnext
    cases hnext
    -- it stood there after the first input, or is the operand of a later one
    rcases ih h with hinserted | ⟨other, hother, hoperand⟩
    · rw [OrderedMap.get?_insert] at hinserted
      split at hinserted
      · cases hinserted
        exact .inr ⟨input, List.mem_cons_self, hfirst⟩
      · exact .inl hinserted
    · exact .inr ⟨other, List.mem_cons_of_mem input hother, hoperand⟩

/-- The operands of a node read the variables that it receives. -/
lemma known_of_operandsOf {station : Station} {operands : Operands} (hnames : network.IsNamed names)
    (hstation : network.stations[i]? = some station)
    (h : operandsOf network station = .ok operands) : operands.Known (network.Receives i) := by
  obtain ⟨values, hvalues, h⟩ := bind_eq_ok_iff.mp h
  cases h
  intro name operand hget
  rcases exists_of_foldlM_operandOf hvalues hget with hempty | ⟨input, -, hoperand⟩
  · cases hempty
  · exact isOperand_of_operandOf hnames hstation hoperand

/-- What the code of a node declares and reads. -/
structure NodeCode.IsSound (network : Network) (i : Nat) (before after : NamePool)
    (code : NodeCode) : Prop where
  /-- Statements read what the node receives or requires, and the variables declared before them. -/
  inScope : Scoped (fun x => network.Receives i x ∨ code.requires.Names x) code.statements
  /-- No variable is declared twice. -/
  nodup : (declared code.statements).Nodup
  /-- All outputs are stored. -/
  outputs : ∀ x, network.Holds i x → x ∈ declared code.statements
  /-- Besides the outputs only new variables are declared. -/
  origin : ∀ x ∈ declared code.statements,
    network.Holds i x ∨ IsVariable x ∧ x ∉ before.used ∧ x ∈ after.used

section

variable {out : (String × SocketType) × String} {outs : List ((String × SocketType) × String)}
  {stored : List Statement}

/-- Outputs are stored one after another, each under its name. -/
lemma outputStatements_cons (h : outputStatements network i (out :: outs) = .ok stored) :
    ∃ name type rest, network.output i out.1.1 = .ok (name, type) ∧
      outputStatements network i outs = .ok rest ∧
      stored = .declare out.1.2 name out.2 :: rest := by
  obtain ⟨⟨name, type⟩, hname, h⟩ := bind_eq_ok_iff.mp h
  obtain ⟨rest, hrest, h⟩ := bind_eq_ok_iff.mp h
  cases h
  exact ⟨name, type, rest, hname, hrest, rfl⟩

/-- The statements declare the variables of the outputs. -/
lemma mem_declared_of_outputStatements (h : outputStatements network i outs = .ok stored) :
    x ∈ declared stored ↔ ∃ out ∈ outs, ∃ type, network.output i out.1.1 = .ok (x, type) := by
  induction outs generalizing stored with
  | nil =>
    cases h
    simp [declared]
  | cons out outs ih =>
    obtain ⟨name, type, rest, hname, hrest, rfl⟩ := outputStatements_cons h
    have hdeclared : declared (.declare out.1.2 name out.2 :: rest) = name :: declared rest := rfl
    rw [hdeclared, List.mem_cons, ih hrest, List.exists_mem_cons_iff, hname]
    simp [eq_comm]

/-- Different outputs of a node are stored in different variables. -/
lemma nodup_declared_of_outputStatements (hnames : network.IsNamed names)
    (hsockets : (outs.map fun out => out.1.1).Nodup)
    (h : outputStatements network i outs = .ok stored) : (declared stored).Nodup := by
  induction outs generalizing stored with
  | nil =>
    cases h
    exact List.nodup_nil
  | cons out outs ih =>
    obtain ⟨name, type, rest, hname, hrest, rfl⟩ := outputStatements_cons h
    obtain ⟨hnew, hsockets⟩ := List.nodup_cons.mp hsockets
    refine List.nodup_cons.mpr ⟨fun hmem => ?_, ih hsockets hrest⟩
    obtain ⟨out', hout', type', hname'⟩ := (mem_declared_of_outputStatements hrest).mp hmem
    obtain ⟨-, hsocket⟩ := hnames.injective i i _ _ name type type' hname hname'
    exact hnew (List.mem_map.mpr ⟨out', hout', hsocket.symm⟩)

/-- Storing outputs reads what their expressions read. -/
lemma scoped_of_outputStatements {known : String → Prop} (houts : ∀ out ∈ outs, Reads known out.2)
    (h : outputStatements network i outs = .ok stored) : Scoped known stored := by
  induction outs generalizing stored known with
  | nil =>
    cases h
    exact .nil
  | cons out outs ih =>
    obtain ⟨name, type, rest, -, hrest, rfl⟩ := outputStatements_cons h
    obtain ⟨hout, houts⟩ := List.forall_mem_cons.mp houts
    exact .declare hout (ih (fun out' hout' => (houts out' hout').mono fun x => .inl) hrest)

end

@[simp] lemma declared_append (statements more : List Statement) :
    declared (statements ++ more) = declared statements ++ declared more :=
  List.filterMap_append ..

/-- Evaluating leaves everything declared under names of the right form, and gives back nothing that
is declared or named. -/
structure Advances (library : FragmentLibrary) (declarations : Declarations) (names : NamePool)
    (declarations' : Declarations) (names' : NamePool) : Prop where
  /-- Declarations are under names of the right form, -/
  tame : declarations'.Tame library
  /-- none of them is lost, -/
  within : declarations.Within declarations'
  /-- and no name is given back. -/
  used : names.used ⊆ names'.used

section

variable {library : FragmentLibrary} {stage : Stage} {declarations declarations' : Declarations}
  {names' : NamePool}

/-- A node is evaluated by writing its code, with an expression for each of its outputs, and storing
the outputs behind it. -/
lemma exists_of_evaluateNode_eq_ok {station : Station} {code : NodeCode}
    (h : evaluateNode library network stage i station declarations names =
      .ok (code, declarations', names')) :
    ∃ operands exprs written stored, operandsOf network station = .ok operands ∧
      Emit.Runs (station.kind.emit station.node operands) ⟨stage, station.node.id, library⟩
        ⟨declarations, names, {}, []⟩ exprs written ∧
      exprs.length = station.signature.outputs.length ∧
      outputStatements network i (station.signature.outputs.zip exprs) = .ok stored ∧
      code = ⟨written.statements ++ stored, written.requires⟩ ∧
      declarations' = written.declarations ∧ names' = written.names := by
  obtain ⟨operands, hoperands, h⟩ := bind_eq_ok_iff.mp h
  obtain ⟨⟨exprs, written⟩, hruns, h⟩ := bind_eq_ok_iff.mp h
  dsimp only at h
  split at h
  · cases h
  next hlength =>
    obtain ⟨stored, hstored, h⟩ := bind_eq_ok_iff.mp h
    cases h
    exact ⟨operands, exprs, written, stored, hoperands, hruns, not_not.mp hlength, hstored, rfl,
      rfl, rfl⟩

/-- The code of a node declares its outputs and new variables, each once, and what it requires is
declared. -/
theorem isSound_of_evaluateNode {station : Station} {code : NodeCode}
    (hkind : station.kind.Writes) (hsockets : (station.signature.outputs.map Prod.fst).Nodup)
    (hnames : network.IsNamed names) (hlayered : library.IsLayered)
    (htame : declarations.Tame library) (hstation : network.stations[i]? = some station)
    (h : evaluateNode library network stage i station declarations names =
      .ok (code, declarations', names')) :
    Advances library declarations names declarations' names' ∧
      code.requires.BackedBy library declarations' ∧ code.IsSound network i names names' := by
  obtain ⟨operands, exprs, written, stored, hoperands, hruns, hlength, hstored, rfl, rfl, rfl⟩ :=
    exists_of_evaluateNode_eq_ok h
  have hadds := hkind station.node (known_of_operandsOf hnames hstation hoperands)
    ⟨hlayered, htame, .empty⟩ (fun x => .inl) rfl hruns
  have hlength : station.signature.outputs.length ≤ exprs.length := hlength.ge
  have hzip : (station.signature.outputs.zip exprs).map Prod.fst = station.signature.outputs :=
    List.map_fst_zip hlength
  have hstoredSockets : ((station.signature.outputs.zip exprs).map fun out => out.1.1).Nodup := by
    have hmap : ((station.signature.outputs.zip exprs).map fun out => out.1.1) =
        ((station.signature.outputs.zip exprs).map Prod.fst).map Prod.fst := List.map_map.symm
    rwa [hmap, hzip]
  -- the statements behind the code declare variables of outputs of this node
  have hholds : ∀ x ∈ declared stored, network.Holds i x := by
    intro x hx
    obtain ⟨out, -, type, hname⟩ := (mem_declared_of_outputStatements hstored).mp hx
    exact ⟨_, type, hname⟩
  refine ⟨⟨hadds.sound.tame, hadds.within, hadds.used⟩, hadds.sound.backed, ?_, ?_, ?_, ?_⟩
  · refine hadds.inScope.append (scoped_of_outputStatements (fun out hout => ?_) hstored)
    exact hadds.reads out.2 (List.of_mem_zip hout).2
  · rw [declared_append, List.nodup_append]
    refine ⟨hadds.nodup, nodup_declared_of_outputStatements hnames hstoredSockets hstored, ?_⟩
    rintro x hx y hy rfl
    exact (hadds.fresh x hx).2.1 (hnames.fresh i x (hholds x hy)).2
  · rintro x ⟨socket, type, hname⟩
    rw [declared_append]
    refine List.mem_append_right _ ((mem_declared_of_outputStatements hstored).mpr ?_)
    obtain ⟨station', hstation', -, htype⟩ := Network.output_eq_ok_iff.mp hname
    obtain rfl := Option.some.inj (hstation.symm.trans hstation')
    obtain ⟨output, houtput, -⟩ := Option.map_eq_some_iff.mp htype
    have hmem := List.mem_of_find?_eq_some houtput
    have hfound := List.find?_some houtput
    have hsocket : output.1 = socket := eq_of_beq hfound
    rw [← hzip] at hmem
    obtain ⟨out, hout, rfl⟩ := List.mem_map.mp hmem
    exact ⟨out, hout, type, hsocket ▸ hname⟩
  · intro x hx
    rw [declared_append] at hx
    rcases List.mem_append.mp hx with hx | hx
    · exact .inr (hadds.fresh x hx)
    · exact .inl (hholds x hx)

end

/-! ## The code of a stage -/

/-- The statements of a stage. -/
def StageCode.statements (code : StageCode) : List Statement :=
  (code.map Prod.snd).flatMap NodeCode.statements

lemma StageCode.statements_cons (entry : Nat × NodeCode) (code : StageCode) :
    StageCode.statements (entry :: code) = entry.2.statements ++ StageCode.statements code :=
  rfl

/-- What the code of a stage declares and reads.  It is about the pools at both ends, so that the
code of two nodes can be joined. -/
structure StageCode.IsSound (network : Network) (before after : NamePool) (code : StageCode) :
    Prop where
  /-- Every node reads what it receives or requires. -/
  inScope : ∀ entry ∈ code,
    Scoped (fun x => network.Receives entry.1 x ∨ entry.2.requires.Names x) entry.2.statements
  /-- The outputs of every evaluated node are stored. -/
  outputs : ∀ entry ∈ code, ∀ x, network.Holds entry.1 x → x ∈ declared entry.2.statements
  /-- No variable is declared twice in the stage. -/
  nodup : (declared (StageCode.statements code)).Nodup
  /-- All variables are outputs of evaluated nodes, or new since the stage was begun. -/
  origin : ∀ x ∈ declared (StageCode.statements code),
    (∃ entry ∈ code, network.Holds entry.1 x) ∨ IsVariable x ∧ x ∉ before.used ∧ x ∈ after.used

/-- Code of one more node ahead of the code of a stage.  The node must not be one of the stage, or
its outputs would be declared twice. -/
lemma NodeCode.IsSound.cons {names₁ names₂ : NamePool} {first : NodeCode} {code : StageCode}
    (hfirst : first.IsSound network i names names₁) (hnames : network.IsNamed names)
    (hused : names.used ⊆ names₁.used) (hcode : StageCode.IsSound network names₁ names₂ code)
    (hused' : names₁.used ⊆ names₂.used) (hnew : i ∉ code.map Prod.fst) :
    StageCode.IsSound network names names₂ ((i, first) :: code) := by
  refine ⟨List.forall_mem_cons.mpr ⟨hfirst.inScope, hcode.inScope⟩,
    List.forall_mem_cons.mpr ⟨hfirst.outputs, hcode.outputs⟩, ?_, ?_⟩
  · rw [StageCode.statements_cons, declared_append, List.nodup_append]
    -- a variable of the first node is an output of it or was taken while it was evaluated; one of
    -- the others is an output of another node or was new after that
    refine ⟨hfirst.nodup, hcode.nodup, ?_⟩
    rintro x hx y hy rfl
    rcases hfirst.origin x hx with hholds | ⟨-, hfresh, hknown⟩
    · rcases hcode.origin x hy with ⟨entry, hentry, hholds'⟩ | ⟨-, hfresh, -⟩
      · obtain ⟨socket, type, hname⟩ := hholds
        obtain ⟨socket', type', hname'⟩ := hholds'
        obtain ⟨rfl, -⟩ := hnames.injective _ _ _ _ x type type' hname hname'
        exact hnew (List.mem_map_of_mem hentry)
      · exact hfresh (hused (hnames.fresh i x hholds).2)
    · rcases hcode.origin x hy with ⟨entry, -, hholds⟩ | ⟨-, hfresh', -⟩
      · exact hfresh (hnames.fresh entry.1 x hholds).2
      · exact hfresh' hknown
  · intro x hx
    rw [StageCode.statements_cons, declared_append] at hx
    rcases List.mem_append.mp hx with hx | hx
    · rcases hfirst.origin x hx with hholds | ⟨hvariable, hfresh, hknown⟩
      · exact .inl ⟨(i, first), List.mem_cons_self, hholds⟩
      · exact .inr ⟨hvariable, hfresh, hused' hknown⟩
    · rcases hcode.origin x hx with ⟨entry, hentry, hholds⟩ | ⟨hvariable, hfresh, hknown⟩
      · exact .inl ⟨entry, List.mem_cons_of_mem _ hentry, hholds⟩
      · exact .inr ⟨hvariable, fun hmem => hfresh (hused hmem), hknown⟩

/-- Evaluating nodes one after another declares no variable twice, and declares what the nodes
require. -/
theorem isSound_of_evaluate {library : FragmentLibrary} {stage : Stage} {indices : List Nat}
    {declarations declarations' : Declarations} {names' : NamePool} {code : StageCode}
    (hkinds : ∀ station ∈ network.stations, station.kind.Writes ∧
      (station.signature.outputs.map Prod.fst).Nodup)
    (hnames : network.IsNamed names) (hlayered : library.IsLayered)
    (htame : declarations.Tame library) (hindices : indices.Nodup)
    (h : evaluate library network stage indices declarations names =
      .ok (code, declarations', names')) :
    Advances library declarations names declarations' names' ∧
      (∀ entry ∈ code, entry.2.requires.BackedBy library declarations') ∧
      code.IsSound network names names' := by
  -- on the nodes that are left: the first one is sound with the pool as it is, the others with the
  -- pool that it leaves
  induction indices generalizing declarations names code with
  | nil =>
    cases h
    refine ⟨⟨htame, .refl _, List.Subset.refl _⟩, ?_, ?_, ?_, List.nodup_nil, ?_⟩
    · exact List.forall_mem_nil _
    · exact List.forall_mem_nil _
    · exact List.forall_mem_nil _
    · exact List.forall_mem_nil _
  | cons index indices ih =>
    obtain ⟨hnew, hindices⟩ := List.nodup_cons.mp hindices
    obtain ⟨station, first, declarations₁, names₁, codes, hstation, hfirst, hcodes, rfl⟩ :=
      evaluate_cons_eq_ok_iff.mp h
    obtain ⟨hwrites, hsockets⟩ := hkinds station (List.mem_of_getElem? hstation)
    obtain ⟨hadvances₁, hbacked, hsound⟩ :=
      isSound_of_evaluateNode hwrites hsockets hnames hlayered htame hstation hfirst
    obtain ⟨hadvances₂, hbackeds, hsounds⟩ :=
      ih (hnames.mono hadvances₁.used) hadvances₁.tame hindices hcodes
    refine ⟨⟨hadvances₂.tame, hadvances₁.within.trans hadvances₂.within,
      List.Subset.trans hadvances₁.used hadvances₂.used⟩,
      List.forall_mem_cons.mpr ⟨hbacked.mono hadvances₂.within, hbackeds⟩,
      hsound.cons hnames hadvances₁.used hsounds hadvances₂.used ?_⟩
    rwa [keys_evaluate hcodes]

/-- With the node types at hand, every node writes code of the right form. -/
lemma Network.Resolves.writes {tree : NodeTree} (h : network.Resolves .builtin tree) :
    ∀ station ∈ network.stations, station.kind.Writes ∧
      (station.signature.outputs.map Prod.fst).Nodup := by
  intro station hstation
  obtain ⟨hkind, hsignature⟩ := h.wired.typed station hstation
  have hmem := NodeRegistry.mem_of_get?_builtin hkind
  exact ⟨NodeKind.writes_of_mem hmem, (NodeKind.sound_of_mem hmem hsignature).nodup_outputs⟩

end SceneEngine.Shading
