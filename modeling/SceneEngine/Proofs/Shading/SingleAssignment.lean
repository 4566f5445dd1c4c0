import SceneEngine.Proofs.Shading.Evaluation
import SceneEngine.Proofs.Shading.Roots

/-!
# Single assignment

The code of a program is a sequence of declarations, each of which gives a value to a new variable.
No variable may be declared twice or read before it is declared, or the program is not accepted.
This module shows that this cannot happen in any of the four programs of a compile
(`ShaderCompiler.compile_singleAssignment`).

## What is shown of a body

`DeclaredOnce` is a statement about the lines of a main function: one line declares the variable,
the lines ahead of it and the value in it do not mention the variable, and no line behind it
declares the variable again.  `SingleAssignment` says this of every name that a pool could give out
and that occurs at all.

## Why it holds

A node is evaluated behind the nodes that feed it, so the variables that its code reads have been
declared (`scoped_statements`).  What it declares has names of its own, by the results about
evaluation.  The lines at the end read the roots, whose nodes have all been evaluated, and values
and attributes that pass between the stages; they declare no variables themselves (`Concludes`).
From scope and the absence of duplicates, `declaredOnce_of_scoped` gets the statement about lines.

`StageCode.Provides` collects what is used of the code of a stage, and `ShaderCompiler.Provides`
what is used of a whole compile.  The code behind the coverage is a part of that of the fragments,
and provides for the programs that write only depth.
-/

namespace SceneEngine.Shading

open Identifier

variable {known : String → Prop} {x : String}

/-! ## Bodies -/

/-- The name is one that a pool gives out for an output or a helper variable of a node. -/
def IsGivenOut (x : String) : Prop :=
  ∃ (pool : NamePool) (node suffix : String), x = (pool.allocate ["n", node, suffix]).1

lemma IsGivenOut.isVariable (h : IsGivenOut x) : IsVariable x := by
  obtain ⟨pool, node, suffix, hx⟩ := h
  rw [hx]
  exact (pool.allocate_variable [node, suffix]).1

/-- One line of a body declares the variable.  It stands ahead of all other places where the
variable occurs, and its own value does not read the variable. -/
def DeclaredOnce (body : List String) (x : String) : Prop :=
  ∃ before type value after, body = before ++ (Statement.declare type x value).text :: after ∧
    (∀ line ∈ before, x ∉ identifiers line) ∧ x ∉ identifiers value ∧
    ∀ line ∈ after, ∀ type' value', line ≠ (Statement.declare type' x value').text

lemma isForeign_typeName (type : SocketType) :
    (isForeign (type.glsl ++ " ") && isOpen (type.glsl ++ " ")) = true := by
  cases type with
  | _ => decide

lemma identifiers_typeName (type : SocketType) : identifiers (type.glsl ++ " ") = [type.glsl] := by
  cases type with
  | _ => decide

/-- The identifiers of a declaration. -/
lemma identifiers_declare (hx : IsVariable x) (type : SocketType) (value : String) :
    identifiers (Statement.declare type x value).text = type.glsl :: x :: identifiers value := by
  have hopen : isOpen (type.glsl ++ " ") = true :=
    (Bool.and_eq_true_iff.mp (isForeign_typeName type)).2
  have hequals : isOpen (type.glsl ++ " " ++ x ++ " = ") = true :=
    isOpen_append (by decide) (by decide)
  rw [Statement.text, identifiers_append (.inr (by decide)), identifiers_append (.inl hequals),
    identifiers_append (.inr (by decide)), identifiers_append (.inl hopen), identifiers_typeName,
    hx.isName.identifiers_eq, show identifiers " = " = [] by decide,
    show identifiers ";" = [] by decide]
  simp

/-! ## Statements and what follows them -/

variable {statements : List Statement}

/-- A declared variable stands in the first statement that declares it, and the value there reads
what was declared before. -/
lemma Scoped.exists_declare (h : Scoped known statements) (hx : x ∈ declared statements) :
    ∃ before type value after, statements = before ++ .declare type x value :: after ∧
      x ∉ declared before ∧ Scoped known before ∧
      Reads (fun y => known y ∨ y ∈ declared before) value := by
  induction h with
  | nil => cases hx
  | @declare known type name value statements hvalue _ ih =>
    by_cases hname : x = name
    · subst hname
      exact ⟨[], type, value, statements, rfl, List.not_mem_nil, .nil, hvalue.mono fun y => .inl⟩
    · have hrest : x ∈ declared statements := (List.mem_cons.mp hx).resolve_left hname
      obtain ⟨before, type', value', after, rfl, hnew, hbefore, hreads⟩ := ih hrest
      refine ⟨.declare type name value :: before, type', value', after, rfl, ?_,
        .declare hvalue hbefore, hreads.mono fun y hy => ?_⟩
      · exact fun hmem => hnew ((List.mem_cons.mp hmem).resolve_left hname)
      · rw [or_assoc] at hy
        exact hy.imp_right List.mem_cons.mpr

/-- All statements of nodes declare a variable. -/
lemma Scoped.eq_declare_of_mem (h : Scoped known statements) {s : Statement} (hs : s ∈ statements) :
    ∃ type name value, s = .declare type name value := by
  induction h with
  | nil => cases hs
  | declare _ _ ih =>
    rcases List.mem_cons.mp hs with rfl | hs
    · exact ⟨_, _, _, rfl⟩
    · exact ih hs

lemma isTraced_typeName (type : SocketType) : isTraced type.glsl = false := by
  cases type with
  | _ => decide

/-- The names in a statement that have to be declared are known or declared. -/
lemma Scoped.known_or_mem_declared (h : Scoped known statements)
    (hvariables : ∀ y ∈ declared statements, IsVariable y) (hx : isTraced x = true) {s : Statement}
    (hs : s ∈ statements) (hmem : x ∈ identifiers s.text) : known x ∨ x ∈ declared statements := by
  induction h with
  | nil => cases hs
  | @declare known type name value statements hvalue _ ih =>
    obtain ⟨hname, hvariables⟩ := List.forall_mem_cons.mp hvariables
    rcases List.mem_cons.mp hs with rfl | hs
    · rw [identifiers_declare hname] at hmem
      -- a name in a declaration is the type, the variable or a name in the value
      rcases List.mem_cons.mp hmem with rfl | hmem
      · rw [isTraced_typeName] at hx
        cases hx
      · rcases List.mem_cons.mp hmem with rfl | hmem
        · exact .inr List.mem_cons_self
        · exact .inl (hvalue x hmem hx)
    · have hrest := ih hvariables hs
      rw [or_assoc] at hrest
      exact hrest.imp_right List.mem_cons.mpr

/-- A line at the end of a body reads known names and declares no variable. -/
structure Concludes (known : String → Prop) (line : String) : Prop where
  /-- It reads known names only, -/
  reads : Reads known line
  /-- and declares no variable. -/
  declares : ∀ x, IsVariable x → ∀ type value, line ≠ (Statement.declare type x value).text

namespace Concludes

variable {line first expr last : String}

lemma of_isForeign (h : isForeign line = true) : Concludes known line := by
  refine ⟨.of_isForeign h, ?_⟩
  rintro x hx type value rfl
  refine isForeign_iff.mp h x ?_ hx.isTraced
  rw [identifiers_declare hx]
  exact List.mem_cons_of_mem _ List.mem_cons_self

/-- An assignment of a value that is passed on. -/
lemma of_assignment {name source : String} (hname : IsName name) (htraced : isTraced name = true)
    (hknown : known name) (hsource : Reads known source) :
    Concludes known (name ++ " = " ++ source ++ ";") := by
  have hequals : isOpen (name ++ " = ") = true := isOpen_append (by decide) (by decide)
  have hassign : Reads known (name ++ " = " ++ source) :=
    ((Reads.of_isName hname hknown).append (.of_isForeign (by decide)) (.inr (by decide))).append
      hsource (.inl hequals)
  refine ⟨hassign.append (.of_isForeign (by decide)) (.inr (by decide)),
    fun x hx type value heq => ?_⟩
  have hidentifiers := congrArg identifiers heq
  rw [identifiers_declare hx, identifiers_append (.inr (by decide)),
    identifiers_append (.inl hequals), identifiers_append (.inr (by decide)), hname.identifiers_eq]
    at hidentifiers
  -- an assignment starts with the name, and a declaration with a type
  have hword : name = type.glsl := (List.cons.inj hidentifiers).1
  rw [hword, isTraced_typeName] at htraced
  cases htraced

/-- Whether a text starts with two words, or one that is not the name of a type. -/
def isHead (first : String) : Bool :=
  match identifiers first with
  | [] => false
  | [word] => !(["bool", "int", "float", "vec2", "vec3", "vec4"].contains word)
  | _ => true

/-- A line of fixed text around an expression. -/
lemma of_expr (hfirst : (isForeign first && isOpen first && isHead first) = true)
    (hlast : (isForeign last && isClosed last) = true) (hexpr : Reads known expr) :
    Concludes known (first ++ expr ++ last) := by
  simp only [Bool.and_eq_true] at hfirst hlast
  obtain ⟨⟨hforeign, hopen⟩, hhead⟩ := hfirst
  refine ⟨((Reads.of_isForeign hforeign).append hexpr (.inl hopen)).append (.of_isForeign hlast.1)
    (.inr hlast.2), fun x hx type value heq => ?_⟩
  have hidentifiers := congrArg identifiers heq
  rw [String.append_assoc, identifiers_append (.inl hopen), identifiers_declare hx] at hidentifiers
  rw [isHead] at hhead
  split at hhead
  · cases hhead
  next word hword =>
    rw [hword] at hidentifiers
    obtain ⟨rfl, -⟩ := List.cons.inj hidentifiers
    revert hhead
    cases type with
    | _ => decide
  next hnil hone =>
    match hwords : identifiers first with
    | [] => exact hnil hwords
    | [word] => exact hone word hwords
    | word :: next :: words =>
      rw [hwords] at hidentifiers
      have hnext : next = x := (List.cons.inj (List.cons.inj hidentifiers).2).1
      refine isForeign_iff.mp hforeign x ?_ hx.isTraced
      rw [hwords, hnext]
      exact List.mem_cons_of_mem _ List.mem_cons_self

end Concludes

/-- Statements in scope, followed by lines that read their variables, declare each variable once.
Scope gives that nothing ahead of the declaration mentions the variable, and the absence of
duplicates that nothing behind it declares it again. -/
theorem declaredOnce_of_scoped {outer : String → Prop} {lines : List String}
    (h : Scoped outer statements) (houter : ¬outer x) (hnodup : (declared statements).Nodup)
    (hvariables : ∀ y ∈ declared statements, IsVariable y)
    (hlines : ∀ line ∈ lines, Concludes (fun y => outer y ∨ y ∈ declared statements) line)
    (hx : IsVariable x)
    (hoccurs : ∃ line ∈ statements.map Statement.text ++ lines, x ∈ identifiers line) :
    DeclaredOnce (statements.map Statement.text ++ lines) x := by
  have hdeclared : x ∈ declared statements := by
    obtain ⟨line, hline, hmem⟩ := hoccurs
    rcases List.mem_append.mp hline with hline | hline
    · obtain ⟨s, hs, rfl⟩ := List.mem_map.mp hline
      exact (h.known_or_mem_declared hvariables hx.isTraced hs hmem).resolve_left houter
    · exact ((hlines line hline).reads x hmem hx.isTraced).resolve_left houter
  -- the first statement that declares the variable is also the only one
  obtain ⟨before, type, value, after, rfl, hnew, hbefore, hvalue⟩ := h.exists_declare hdeclared
  have hsplit : declared (before ++ .declare type x value :: after) =
      declared before ++ x :: declared after :=
    declared_append before _
  rw [hsplit] at hnodup hvariables
  refine ⟨before.map Statement.text, type, value, after.map Statement.text ++ lines, ?_, ?_, ?_, ?_⟩
  · simp
  · intro line hline hmem
    obtain ⟨s, hs, rfl⟩ := List.mem_map.mp hline
    have hvariables' : ∀ y ∈ declared before, IsVariable y :=
      fun y hy => hvariables y (List.mem_append_left _ hy)
    exact hnew ((hbefore.known_or_mem_declared hvariables' hx.isTraced hs hmem).resolve_left houter)
  · exact fun hmem => hnew ((hvalue x hmem hx.isTraced).resolve_left houter)
  · intro line hline type' value' heq
    rcases List.mem_append.mp hline with hline | hline
    · obtain ⟨s, hs, rfl⟩ := List.mem_map.mp hline
      obtain ⟨type₁, name, value₁, rfl⟩ :=
        h.eq_declare_of_mem (List.mem_append_right _ (List.mem_cons_of_mem _ hs))
      have hname : name ∈ declared after := List.mem_filterMap.mpr ⟨_, hs, rfl⟩
      have hvariable := hvariables name (List.mem_append_right _ (List.mem_cons_of_mem _ hname))
      have hidentifiers := congrArg identifiers heq
      rw [identifiers_declare hvariable, identifiers_declare hx] at hidentifiers
      obtain rfl : name = x := (List.cons.inj (List.cons.inj hidentifiers).2).1
      exact (List.nodup_cons.mp (List.nodup_append.mp hnodup).2.1).1 hname
    · exact (hlines line hline).declares x hx type' value' heq

/-! ## Statements of a stage -/

variable {registry : NodeRegistry} {tree : NodeTree} {network : Network} {names : NamePool}
  {code : StageCode} {i : Nat}

/-- The code of nodes, each behind those that feed it, reads what was declared before and what the
nodes require. -/
lemma scoped_statements (done : List Nat)
    (hscoped : ∀ entry ∈ code,
      Scoped (fun x => network.Receives entry.1 x ∨ entry.2.requires.Names x) entry.2.statements)
    (hrequires : ∀ entry ∈ code, ∀ x, entry.2.requires.Names x → known x)
    (houtputs : ∀ entry ∈ code, ∀ x, network.Holds entry.1 x → x ∈ declared entry.2.statements)
    (hbehind : ∀ before entry after, code = before ++ entry :: after → ∀ j,
      network.Feeds j entry.1 → j ∈ done ++ before.map Prod.fst)
    (hdone : ∀ j ∈ done, ∀ x, network.Holds j x → known x) :
    Scoped known (StageCode.statements code) := by
  -- on the nodes that are left; `done` are the nodes whose outputs are known
  induction code generalizing done known with
  | nil => exact .nil
  | cons first code ih =>
    obtain ⟨hfirst, hscoped⟩ := List.forall_mem_cons.mp hscoped
    obtain ⟨hfirstRequires, hrequires⟩ := List.forall_mem_cons.mp hrequires
    obtain ⟨hfirstOutputs, houtputs⟩ := List.forall_mem_cons.mp houtputs
    rw [StageCode.statements_cons]
    refine Scoped.append (hfirst.mono ?_)
      (ih (done ++ [first.1]) hscoped (fun entry hentry x hx => .inl (hrequires entry hentry x hx))
        houtputs ?_ ?_)
    · rintro x (⟨j, hfeeds, hholds⟩ | hx)
      · exact hdone j (by simpa using hbehind [] first code rfl j hfeeds) x hholds
      · exact hfirstRequires x hx
    · rintro before entry after rfl j hfeeds
      simpa using hbehind (first :: before) entry after rfl j hfeeds
    · intro j hj x hholds
      rcases List.mem_append.mp hj with hj | hj
      · exact .inl (hdone j hj x hholds)
      · rw [List.mem_singleton.mp hj] at hholds
        exact .inr (hfirstOutputs x hholds)

/-- In a list without repetitions, what stands ahead of an element stands in the part ahead of
it. -/
lemma mem_of_pair_sublist {α : Type} {a b : α} {before after : List α}
    (hnodup : (before ++ b :: after).Nodup) (h : [a, b].Sublist (before ++ b :: after)) :
    a ∈ before := by
  induction before with
  | nil =>
    have hnew : b ∉ after := (List.nodup_cons.mp hnodup).1
    rcases List.sublist_cons_iff.mp h with hsub | ⟨rest, heq, hsub⟩
    · exact absurd (hsub.subset (List.mem_cons_of_mem a List.mem_cons_self)) hnew
    · rw [← (List.cons.inj heq).2] at hsub
      exact absurd (hsub.subset List.mem_cons_self) hnew
  | cons c before ih =>
    rcases List.sublist_cons_iff.mp h with hsub | ⟨rest, heq, -⟩
    · exact List.mem_cons_of_mem c (ih (List.nodup_cons.mp hnodup).2 hsub)
    · exact (List.cons.inj heq).1 ▸ List.mem_cons_self

/-- The names that some nodes of a stage require. -/
def StageCode.Requires (code : StageCode) (x : String) : Prop :=
  ∃ entry ∈ code, entry.2.requires.Names x

/-- The code of what the seeds need: its statements are in scope of what the nodes require, declare
every variable once, and declare those that hold outputs of the seeds. -/
structure StageCode.Provides (network : Network) (seeds : List Nat) (code : StageCode) : Prop where
  /-- The statements read what the nodes require and what stands ahead of them. -/
  inScope : Scoped (StageCode.Requires code) (StageCode.statements code)
  /-- No variable is declared twice. -/
  nodup : (declared (StageCode.statements code)).Nodup
  /-- Variables have names that tell them from everything else. -/
  named : ∀ x ∈ declared (StageCode.statements code), IsVariable x
  /-- What the seeds are asked for is declared. -/
  outputs : ∀ i ∈ seeds, ∀ x, network.Holds i x → x ∈ declared (StageCode.statements code)

/-- Any part of sound code that consists of what some seeds need provides for these seeds. -/
lemma StageCode.IsSound.provides {before after : NamePool} {whole : StageCode} {seeds : List Nat}
    (h : whole.IsSound network before after) (hresolves : network.Resolves registry tree)
    (hnames : network.IsNamed names) (hsub : code.Sublist whole)
    (hkeys : code.map Prod.fst = network.needed seeds) : code.Provides network seeds := by
  have hdeclared : (declared (StageCode.statements code)).Sublist
      (declared (StageCode.statements whole)) :=
    ((hsub.map Prod.snd).flatMap _).filterMap _
  have hscoped : ∀ entry ∈ code,
      Scoped (fun x => network.Receives entry.1 x ∨ entry.2.requires.Names x) entry.2.statements :=
    fun entry hentry => h.inScope entry (hsub.subset hentry)
  have houtputs : ∀ entry ∈ code, ∀ x, network.Holds entry.1 x → x ∈ declared entry.2.statements :=
    fun entry hentry => h.outputs entry (hsub.subset hentry)
  refine ⟨?_, h.nodup.sublist hdeclared, fun x hx => ?_, fun i hi x hholds => ?_⟩
  · refine scoped_statements [] hscoped (fun entry hentry x hx => ⟨entry, hentry, hx⟩) houtputs ?_
      fun j hj => absurd hj List.not_mem_nil
    rintro before entry after rfl j hfeeds
    have hnodup := hresolves.nodup_needed seeds
    have hentry : entry.1 ∈ network.needed seeds := by
      rw [← hkeys, List.map_append, List.map_cons]
      exact List.mem_append_right _ List.mem_cons_self
    -- what feeds the node stands ahead of it in the order of the needed nodes
    have hpair := hresolves.sublist_needed_of_feeds hfeeds hentry
    rw [← hkeys, List.map_append, List.map_cons] at hnodup hpair
    exact mem_of_pair_sublist hnodup hpair
  · rcases h.origin x (hdeclared.subset hx) with ⟨entry, -, hholds⟩ | ⟨hvariable, -⟩
    · exact (hnames.fresh entry.1 x hholds).1
    · exact hvariable
  · obtain ⟨socket, type, hname⟩ := hholds
    obtain ⟨station, hstation⟩ := exists_station_of_output hname
    have hneeded : i ∈ network.needed seeds := by
      rw [Network.mem_needed_iff, hresolves.mem_order_iff]
      exact ⟨(List.getElem?_eq_some_iff.mp hstation).1, i, hi, .refl⟩
    rw [← hkeys] at hneeded
    obtain ⟨entry, hentry, rfl⟩ := List.mem_map.mp hneeded
    have hdeclared := houtputs entry hentry x ⟨socket, type, hname⟩
    obtain ⟨s, hs, hvariable⟩ := List.mem_filterMap.mp hdeclared
    refine List.mem_filterMap.mpr ⟨s, List.mem_flatMap.mpr ⟨entry.2, ?_, hs⟩, hvariable⟩
    exact List.mem_map_of_mem hentry

/-! ## Programs -/

variable {base : ProgramBase} {codes beside : List NodeCode}

/-- The body of the main function of a vertex shader. -/
def VertexShader.body (shader : VertexShader) : List String :=
  shader.statements.map Statement.text ++ shader.finalStatements

/-- The body of the main function of a fragment shader. -/
def FragmentShader.body (shader : FragmentShader) : List String :=
  shader.statements.map Statement.text ++ shader.finalStatements

/-- A vertex program is a head and a main function. -/
lemma VertexShader.exists_text_eq (shader : VertexShader) :
    ∃ head, shader.text = textOf (head ++ mainLines shader.body) :=
  ⟨_, rfl⟩

/-- A fragment program is a head and a main function. -/
lemma FragmentShader.exists_text_eq (shader : FragmentShader) :
    ∃ head, shader.text = textOf (head ++ mainLines shader.body) :=
  ⟨_, rfl⟩

/-- What a passed value is assigned from reads at most an attribute. -/
lemma reads_source {name source : String} (h : IsSource name source) (hname : IsName name)
    (hattribute : ∀ v, name = "v_" ++ v → known ("a_" ++ v)) : Reads known source := by
  cases h with
  | ofSurface hmem =>
    have hforeign : ∀ entry ∈ surfaceValues, isForeign entry.2 = true := by decide
    exact .of_isForeign (hforeign _ hmem)
  | ofAttribute v =>
    refine .of_isName ⟨fun c hc => ?_, ?_⟩ (hattribute v rfl)
    · rw [String.toList_append, List.mem_append] at hc
      rcases hc with hc | hc
      · exact List.all_eq_true.mp (show "a_".toList.all isNameChar = true by decide) c hc
      · exact hname.isNameChar c (by rw [String.toList_append]; exact List.mem_append_right _ hc)
    · rw [String.toList_append]
      rfl

/-- The end of a vertex shader reads the displacement and what is passed on, and declares no
variable. -/
lemma concludes_vertexShader {library : FragmentLibrary} {displacement? : Option String}
    (htame : base.declarations.Tame library)
    (hpassed : ∀ entry ∈ (base.vertexShader codes beside displacement?).varyings, known entry.1 ∧
      ∀ v, entry.1 = "v_" ++ v → known ("a_" ++ v))
    (hdisplacement : ∀ expr, displacement? = some expr → Reads known expr) :
    ∀ line ∈ (base.vertexShader codes beside displacement?).finalStatements,
      Concludes known line := by
  intro line hline
  simp only [VertexShader.finalStatements, List.mem_append, List.mem_cons, List.mem_map,
    List.not_mem_nil, or_false] at hline
  rcases hline with ((hline | rfl) | ⟨entry, hentry, rfl⟩) | rfl
  · rw [hline]
    split
    next expr hexpr => exact .of_expr (by decide) (by decide) (hdisplacement expr hexpr)
    · exact .of_isForeign (by decide)
  · exact .of_isForeign (by decide)
  · have hmem : entry ∈ base.declarations.varyings.entries := (List.mem_filter.mp hentry).1
    obtain ⟨hname, hform⟩ := htame.varyings entry.1 (List.mem_map_of_mem hmem)
    obtain ⟨hknown, hattribute⟩ := hpassed entry hentry
    refine .of_assignment hname ?_ hknown (reads_source (htame.sources entry hmem) hname hattribute)
    exact isTraced_iff.mpr (.inr (isGlobal_iff.mpr (.inr (.inr hform))))
  · exact .of_isForeign (by decide)

/-- The end of a fragment shader reads the coverage and the color, and declares no variable. -/
lemma concludes_fragmentShader {coverage? : Option String} {output : FragmentOutput}
    (hcoverage : ∀ expr, coverage? = some expr → Reads known expr)
    (hcolor : ∀ expr, output = .color (some expr) → Reads known expr) :
    ∀ line ∈ (base.fragmentShader codes coverage? output).finalStatements,
      Concludes known line := by
  intro line hline
  rw [FragmentShader.finalStatements] at hline
  rcases List.mem_append.mp hline with hline | hline
  · split at hline
    next expr hexpr =>
      rcases List.mem_cons.mp hline with rfl | hline
      · exact .of_expr (by decide) (by decide) (hcoverage expr hexpr)
      · rw [List.mem_singleton.mp hline]
        exact .of_isForeign (by decide)
    · cases hline
  · split at hline
    · rw [List.mem_singleton.mp hline]
      exact .of_isForeign (by decide)
    next expr? hexpr =>
      rcases List.mem_append.mp hline with hline | hline
      · rw [List.mem_singleton.mp hline]
        cases expr? with
        | none => exact .of_isForeign (by decide)
        | some expr => exact .of_expr (by decide) (by decide) (hcolor expr hexpr)
      · split at hline
        · rw [List.mem_singleton.mp hline]
          exact .of_isForeign (by decide)
        · cases hline

/-- The text has a main function of this body, in which every variable that a pool gives out is
declared once, if it occurs at all. -/
structure SingleAssignment (text : String) (body : List String) : Prop where
  /-- The text ends with the main function. -/
  main : ∃ head, text = textOf (head ++ mainLines body)
  /-- Its variables are declared once. -/
  declaredOnce : ∀ x, IsGivenOut x → (∃ line ∈ body, x ∈ identifiers line) → DeclaredOnce body x

lemma StageCode.Provides.declaredOnce {seeds : List Nat} {lines : List String}
    (h : code.Provides network seeds) (hglobal : ∀ x, code.Requires x → isGlobal x = true)
    (hlines : ∀ line ∈ lines,
      Concludes (fun x => isGlobal x = true ∨ x ∈ declared (StageCode.statements code)) line) :
    ∀ x, IsGivenOut x →
      (∃ line ∈ (StageCode.statements code).map Statement.text ++ lines, x ∈ identifiers line) →
      DeclaredOnce ((StageCode.statements code).map Statement.text ++ lines) x :=
  fun _ hx => declaredOnce_of_scoped (h.inScope.mono hglobal) hx.isVariable.not_isGlobal h.nodup
    h.named hlines hx.isVariable

/-- The expression of a root reads a variable of the node of the root. -/
lemma exists_reads_of_rootExpr? {roots : List Root} {resolved : List ResolvedRoot} {target : Target}
    {expr : String} {keep : Target → Bool} (hnames : network.IsNamed names)
    (hresolved : resolveRoots tree network roots = .ok resolved) (hkeep : keep target = true)
    (h : rootExpr? resolved target = some expr) :
    ∃ i ∈ rootNodes resolved keep, Reads (network.Holds i) expr := by
  obtain ⟨root, hfound, rfl⟩ := Option.map_eq_some_iff.mp h
  have hroot := List.mem_of_find?_eq_some hfound
  have hkept := List.find?_some hfound
  have htarget : root.target = target := eq_of_beq hkept
  obtain ⟨request, -, hnode, name, type, hname, hconvert⟩ := exists_answers_of_mem hresolved hroot
  have hholds : network.Holds root.node name := ⟨_, type, hnode ▸ hname⟩
  refine ⟨root.node, List.mem_map.mpr ⟨root, List.mem_filter.mpr ⟨hroot, htarget ▸ hkeep⟩, rfl⟩, ?_⟩
  exact ((IsOperand.of_variable (hnames.fresh _ _ hholds).1 hholds).convert hconvert).reads

namespace ShaderCompiler

variable {shader : CompiledShader} {roots : List Root}

/-- With the node types at hand, what the nodes require is declared, and the code of every stage
provides what its roots read. -/
structure Provides (shader : CompiledShader) (network : Network) (alphaCode : StageCode) :
    Prop where
  /-- Declarations are under names of the right forms. -/
  tame : shader.base.declarations.Tame .builtin
  /-- What nodes require is declared. -/
  backed : ∀ entry ∈ shader.fragmentCode ++ shader.vertexCode,
    entry.2.requires.BackedBy .builtin shader.base.declarations
  /-- Every output has a variable of its own. -/
  named : ∃ names, network.IsNamed names
  /-- Both stages provide for their roots, -/
  fragment : shader.fragmentCode.Provides network
    (rootNodes shader.roots (·.stage == .fragment))
  vertex : shader.vertexCode.Provides network (rootNodes shader.roots (·.stage == .vertex))
  /-- and the code behind the coverage, which is a part of that of the fragments, -/
  sublist : alphaCode.Sublist shader.fragmentCode
  taken : shader.alphaCode = alphaCode.map Prod.snd
  /-- provides for the coverage. -/
  alpha : alphaCode.Provides network (rootNodes shader.roots (· == .alpha))

/-- What every compile provides. -/
lemma Compiles.provides (h : Compiles standard tree roots shader network) :
    ∃ alphaCode, Provides shader network alphaCode := by
  obtain ⟨stations, names, names₁, names₂, declarations, hnameAll, hfragment, hvertex⟩ :=
    h.evaluated
  have hkinds := h.resolves.writes
  have hnames := Network.isNamed_of_nameAll hnameAll
  have hlayered := FragmentLibrary.isLayered_builtin
  obtain ⟨hadvances, hbacked, hsound⟩ := isSound_of_evaluate hkinds hnames hlayered
    Declarations.tame_empty (h.resolves.nodup_needed _) hfragment
  obtain ⟨hadvances', hbacked', hsound'⟩ := isSound_of_evaluate hkinds
    (hnames.mono hadvances.used) hlayered hadvances.tame (h.resolves.nodup_needed _) hvertex
  obtain ⟨alphaCode, hsub, hkeys, hcode⟩ := h.exists_alphaCode
  refine ⟨alphaCode, hadvances'.tame, ?_, ⟨names, hnames⟩,
    hsound.provides h.resolves hnames (List.Sublist.refl _) h.keys_fragmentCode,
    hsound'.provides h.resolves hnames (List.Sublist.refl _) h.keys_vertexCode, hsub,
    hcode, hsound.provides h.resolves hnames hsub hkeys⟩
  exact List.forall_mem_append.mpr
    ⟨fun entry hentry => (hbacked entry hentry).mono hadvances'.within, hbacked'⟩

namespace Provides

variable {alphaCode code : StageCode} {seeds : List Nat}

lemma statements_depthFragment (h : Provides shader network alphaCode) :
    shader.depthFragment.statements = StageCode.statements alphaCode := by
  calc shader.depthFragment.statements
      = shader.alphaCode.flatMap NodeCode.statements := rfl
    _ = StageCode.statements alphaCode := by rw [h.taken, StageCode.statements]

lemma isGlobal_of_requires (h : Provides shader network alphaCode)
    (hsub : code ⊆ shader.fragmentCode ++ shader.vertexCode) {x : String}
    (hx : code.Requires x) : isGlobal x = true := by
  obtain ⟨entry, hentry, hx⟩ := hx
  exact (h.backed entry (hsub hentry)).isGlobal_of_names h.tame hx

/-- The expression of a root reads variables that the code for its target declares. -/
lemma reads_root (h : Provides shader network alphaCode)
    (hresolved : resolveRoots tree network roots = .ok shader.roots) {keep : Target → Bool}
    (hcode : code.Provides network (rootNodes shader.roots keep)) {target : Target}
    (hkeep : keep target = true) {expr : String} (hexpr : shader.root? target = some expr) :
    Reads (· ∈ declared (StageCode.statements code)) expr := by
  obtain ⟨names, hnames⟩ := h.named
  obtain ⟨i, hi, hreads⟩ := exists_reads_of_rootExpr? hnames hresolved hkeep hexpr
  exact hreads.mono (hcode.outputs i hi)

end Provides

/-- In all four programs of a compile, every variable is declared once and ahead of its uses. -/
theorem compile_singleAssignment (h : standard.compile tree roots = .ok shader) :
    SingleAssignment shader.sources.vertex shader.mainVertex.body ∧
    SingleAssignment shader.sources.fragment shader.mainFragment.body ∧
    SingleAssignment shader.depthVariant.vertex shader.depthVertex.body ∧
    SingleAssignment shader.depthVariant.fragment shader.depthFragment.body := by
  obtain ⟨network, hcompiles⟩ := compiles_of_compile_eq_ok h
  obtain ⟨alphaCode, hprovides⟩ := hcompiles.provides
  -- a root reads variables of the code for its target
  have hroot : ∀ {code : StageCode} {keep : Target → Bool} (target : Target),
      code.Provides network (rootNodes shader.roots keep) → keep target = true →
      ∀ expr, shader.root? target = some expr →
        Reads (fun x => isGlobal x = true ∨ x ∈ declared (StageCode.statements code)) expr :=
    fun target hcode hkeep expr hexpr =>
      (hprovides.reads_root hcompiles.resolved hcode hkeep hexpr).mono fun x => .inr
  have hoffset := hroot .displacement hprovides.vertex rfl
  have hcolor := hroot .color hprovides.fragment rfl
  -- whatever is passed on has a name of its own kind
  have hpassed : ∀ (codes beside : List NodeCode) (offset? : Option String),
      ∀ entry ∈ (shader.base.vertexShader codes beside offset?).varyings,
        (isGlobal entry.1 = true ∨ entry.1 ∈ declared (StageCode.statements shader.vertexCode)) ∧
          ∀ v, entry.1 = "v_" ++ v → isGlobal ("a_" ++ v) = true ∨
            "a_" ++ v ∈ declared (StageCode.statements shader.vertexCode) := by
    intro codes beside offset? entry hentry
    have hkey := List.mem_map_of_mem (f := Prod.fst) (List.mem_filter.mp hentry).1
    refine ⟨.inl (isGlobal_iff.mpr (.inr (.inr (hprovides.tame.varyings entry.1 hkey).2))),
      fun v _ => .inl (isGlobal_iff.mpr (.inl (isAttribute_append v)))⟩
  refine ⟨⟨shader.mainVertex.exists_text_eq, ?_⟩, ⟨shader.mainFragment.exists_text_eq, ?_⟩,
    ⟨shader.depthVertex.exists_text_eq, ?_⟩, ⟨shader.depthFragment.exists_text_eq, ?_⟩⟩
  · exact hprovides.vertex.declaredOnce
      (fun x => hprovides.isGlobal_of_requires (List.subset_append_right _ _))
      (concludes_vertexShader hprovides.tame (hpassed _ _ _) hoffset)
  · refine hprovides.fragment.declaredOnce
      (fun x => hprovides.isGlobal_of_requires (List.subset_append_left _ _))
      (concludes_fragmentShader (hroot .alpha hprovides.fragment rfl) ?_)
    intro expr hexpr
    exact hcolor expr (FragmentOutput.color.inj hexpr)
  · exact hprovides.vertex.declaredOnce
      (fun x => hprovides.isGlobal_of_requires (List.subset_append_right _ _))
      (concludes_vertexShader hprovides.tame (hpassed _ _ _) hoffset)
  · have hsub : alphaCode ⊆ shader.fragmentCode ++ shader.vertexCode :=
      List.Subset.trans hprovides.sublist.subset (List.subset_append_left _ _)
    rw [FragmentShader.body, hprovides.statements_depthFragment]
    refine hprovides.alpha.declaredOnce (fun x => hprovides.isGlobal_of_requires hsub)
      (concludes_fragmentShader (hroot .alpha hprovides.alpha rfl) ?_)
    intro expr hexpr
    cases hexpr

/-- A tree of two nodes whose names collide, one of which feeds both stages. -/
def eyes : NodeTree where
  nodes := .ofList
    [("eye 1", ⟨"eye 1", "camera_data", ∅, ∅, []⟩), ("eye_1", ⟨"eye_1", "camera_data", ∅, ∅, []⟩),
     ("point", ⟨"point", "combine_xyz", ∅, ∅, []⟩), ("end", ⟨"end", "output_material", ∅, ∅, []⟩)]
  links :=
    [⟨⟨"eye 1", "view_z_depth"⟩, ⟨"point", "x"⟩⟩, ⟨⟨"eye 1", "view_distance"⟩, ⟨"point", "y"⟩⟩,
     ⟨⟨"eye_1", "view_distance"⟩, ⟨"point", "z"⟩⟩, ⟨⟨"point", "vector"⟩, ⟨"end", "surface"⟩⟩,
     ⟨⟨"eye_1", "view_distance"⟩, ⟨"end", "alpha"⟩⟩,
     ⟨⟨"eye 1", "view_vector"⟩, ⟨"end", "displacement"⟩⟩]

theorem compile_singleAssignment_eyes : ∃ shader, standard.compile eyes [] = .ok shader ∧
    SingleAssignment shader.sources.fragment shader.mainFragment.body ∧
    DeclaredOnce shader.mainFragment.body "n_eye_1_offset" := by
  have hoccurs : ((standard.compile eyes []).toOption.any fun shader =>
      shader.mainFragment.body.any fun line =>
        (identifiers line).contains "n_eye_1_offset") = true := by
    decide +kernel
  obtain ⟨shader, hshader, hbody⟩ := (Option.any_eq_true _ _).mp hoccurs
  obtain ⟨line, hline, hmem⟩ := List.any_eq_true.mp hbody
  have h := toOption_eq_some_iff.mp hshader
  have hsingle := (compile_singleAssignment h).2.1
  have hgiven : IsGivenOut "n_eye_1_offset" := ⟨.empty, "eye 1", "offset", by decide +kernel⟩
  exact ⟨shader, h, hsingle,
    hsingle.declaredOnce _ hgiven ⟨line, hline, List.contains_iff_mem.mp hmem⟩⟩

end ShaderCompiler

end SceneEngine.Shading
