import SceneEngine.Proofs.Shading.Emission
import SceneEngine.Shading.Nodes.Builtin

/-!
# The code of the node types

This module goes through all node types and shows what their code may contain: the expressions that
a type gives read names in its operands, names that the node requires, and variables that the node
has declared itself, under fresh names (`NodeKind.writes_of_mem`).  That a program is well formed is
concluded elsewhere from this, without looking at a node type again; a new type would need one lemma
here.

## Code with and without variables

`Emission.Adds` describes what the code of a node adds to a program, and `Emit.Writes` says that
code does this whenever it runs where some names are known.  Most types declare no variables.  Of
these it is enough to show that their expressions read known names, with `Emit.Gives` when they
require nothing either (`NodeKind.IsPure`), and with `Emit.Obtains` when they ask for parameters or
passed values (`Obtains.writes`).

Three types declare variables: reading an image and measuring a distance to the camera need one
(`writes_helper`), and layered noise needs two, the second of which is computed from the first
(`adds_pair`).

## Expressions

That an expression reads known names only is a matter of its text.  Expressions are put together
from operands, calls and words of the shading language; each lemma here takes an expression apart in
this way, and leaves the fixed texts to be decided.  The templates of both calculating types are
checked in the same way, once for all operations.
-/

namespace SceneEngine.Shading

open Identifier

variable {known : String → Prop} {exprs : List String}

/-- The expressions that feed the inputs read known names only, and have no placeholders. -/
def Operands.Known (known : String → Prop) (operands : Operands) : Prop :=
  ∀ name operand, operands.values.get? name = some operand → IsOperand known operand.expr

/-- What the code of a node adds: its own variables, each declared once and under a new name, and
expressions that read these, names known from outside and names that the node requires. -/
structure Emission.Adds (library : FragmentLibrary) (outer : String → Prop) (e : Emission)
    (exprs : List String) (e' : Emission) : Prop where
  /-- What the node requires is declared, -/
  sound : e'.Sound library
  /-- nothing that was declared is lost -/
  within : e.declarations.Within e'.declarations
  /-- and no name is given back. -/
  used : e.names.used ⊆ e'.names.used
  /-- The statements read what is known or declared before them. -/
  inScope : Scoped (e'.Knows outer) e'.statements
  /-- The variables are different from each other -/
  nodup : (declared e'.statements).Nodup
  /-- and new in the program. -/
  fresh : ∀ x ∈ declared e'.statements, IsVariable x ∧ x ∉ e.names.used ∧ x ∈ e'.names.used
  /-- The expressions for the outputs may read them. -/
  reads : ∀ expr ∈ exprs, Reads (fun x => e'.Knows outer x ∨ x ∈ declared e'.statements) expr

namespace Emit

variable {α : Type} {m : Emit α} {code : Emit (List String)} {f : α → Emit (List String)}
  {library : FragmentLibrary}

/-- Whenever the code of a node runs, it adds no more than this to what is known, among it `known`.
-/
def Writes (known : String → Prop) (code : Emit (List String)) : Prop :=
  ∀ ⦃site : Site⦄ ⦃e : Emission⦄ ⦃exprs : List String⦄ ⦃e' : Emission⦄ ⦃outer : String → Prop⦄,
    e.Sound site.library → (∀ x, known x → e.Knows outer x) → e.statements = [] →
      Runs code site e exprs e' → e.Adds site.library outer exprs e'

/-- Code without variables of its own. -/
lemma Obtains.writes
    (h : Obtains known code fun known' exprs => ∀ expr ∈ exprs, Reads known' expr) :
    Writes known code := by
  intro site e exprs e' outer hsound hknown hstart hruns
  obtain ⟨hkeeps, hreads⟩ := h hsound hknown hruns
  have hstatements : e'.statements = [] := hkeeps.statements.trans hstart
  refine ⟨hkeeps.sound, hkeeps.within, hkeeps.used, hstatements ▸ .nil,
    hstatements ▸ List.nodup_nil, fun x hx => ?_,
    fun expr hexpr => (hreads expr hexpr).mono fun x => .inl⟩
  rw [hstatements] at hx
  cases hx

/-- Quiet steps ahead of the code. -/
lemma Obtains.bind_writes {P : (String → Prop) → α → Prop} (hm : Obtains known m P)
    (hf : ∀ known' a, (∀ x, known x → known' x) → P known' a → Writes known' (f a)) :
    Writes known (m >>= f) := by
  intro site e exprs e' outer hsound hknown hstart h
  obtain ⟨a, e₁, hfirst, hrest⟩ := runs_bind.mp h
  -- the first step writes no statement, so the code begins with what it has declared
  obtain ⟨hkeeps, ha⟩ := hm hsound hknown hfirst
  have hnext := hf (e₁.Knows outer) a (fun x hx => hkeeps.knows (hknown x hx)) ha
  have hadds := hnext hkeeps.sound (fun _ => id) (hkeeps.statements.trans hstart) hrest
  refine ⟨hadds.sound, hkeeps.within.trans hadds.within, List.Subset.trans hkeeps.used hadds.used,
    hadds.inScope, hadds.nodup, fun x hx => ?_, hadds.reads⟩
  obtain ⟨hvariable, hnew, hused⟩ := hadds.fresh x hx
  exact ⟨hvariable, fun hmem => hnew (hkeeps.used hmem), hused⟩

lemma Writes.mono {known' : String → Prop} (hcode : Writes known code)
    (h : ∀ x, known x → known' x) : Writes known' code :=
  fun _ _ _ _ _ hsound hknown hstart hruns =>
    hcode hsound (fun x hx => hknown x (h x hx)) hstart hruns

/-- Steps that give no new names, ahead of the code. -/
lemma Gives.bind_writes {P : α → Prop} (hm : Gives m P) (hf : ∀ a, P a → Writes known (f a)) :
    Writes known (m >>= f) :=
  hm.obtains.bind_writes fun _ a hknown ha => (hf a ha).mono hknown

/-- Code that fails adds nothing. -/
lemma writes_throw {reason : CompileError} : Writes known (throw reason) := by
  intro site e exprs e' outer _ _ _ h
  cases h

/-- Two variables, of which the second one can be computed from the first. -/
lemma adds_pair {outer : String → Prop} {e e' : Emission} {type type' : SocketType}
    {x y value value' : String} (hsound : e'.Sound library)
    (hwithin : e.declarations.Within e'.declarations)
    (hstatements : e'.statements = [.declare type x value, .declare type' y value'])
    (hused : e'.names.used = y :: x :: e.names.used) (hx : IsVariable x ∧ x ∉ e.names.used)
    (hy : IsVariable y ∧ y ∉ x :: e.names.used) (hvalue : Reads (e'.Knows outer) value)
    (hvalue' : Reads (fun z => e'.Knows outer z ∨ z = x) value')
    (hexprs : ∀ expr ∈ exprs, Reads (fun z => e'.Knows outer z ∨ z ∈ [x, y]) expr) :
    e.Adds library outer exprs e' := by
  have hdeclared : declared e'.statements = [x, y] := by
    rw [hstatements]
    rfl
  -- the second name was taken after the first, so it differs from it and from all before
  obtain ⟨hne, hnew⟩ := not_or.mp (List.mem_cons.not.mp hy.2)
  refine ⟨hsound, hwithin, ?_, ?_, ?_, ?_, ?_⟩
  · rw [hused]
    exact List.Subset.trans (List.subset_cons_self ..) (List.subset_cons_self ..)
  · rw [hstatements]
    exact .declare hvalue (.declare hvalue' .nil)
  · rw [hdeclared]
    simpa using Ne.symm hne
  · rw [hdeclared, hused]
    simp [hx, hy.1, hnew]
  · rwa [hdeclared]

/-- A variable with its value, and expressions that read it. -/
lemma writes_helper {suffix value : String} {type : SocketType} {result : String → List String}
    (hvalue : Reads known value)
    (hresult : ∀ x, IsVariable x → ∀ expr ∈ result x, Reads (fun y => known y ∨ y = x) expr) :
    Writes known (freshLocal suffix >>= fun x => statement (.declare type x value) >>= fun _ =>
      pure (result x)) := by
  intro site e exprs e' outer hsound hknown hstart h
  obtain ⟨x, e₁, hfresh, h⟩ := runs_bind.mp h
  obtain ⟨hvariable, hnew, rfl⟩ := runs_freshLocal hfresh
  obtain ⟨_, e₂, hstatement, h⟩ := runs_bind.mp h
  have he₂ := runs_statement hstatement
  obtain ⟨rfl, rfl⟩ := runs_pure.mp h
  have hstatements : e'.statements = [.declare type x value] := by
    rw [he₂, hstart, List.nil_append]
  have hused : e'.names.used = x :: e.names.used := by rw [he₂]
  have hknows : ∀ y, known y → e'.Knows outer y := by rwa [he₂]
  refine ⟨?_, ?_, ?_, ?_, ?_, ?_, ?_⟩
  · rw [he₂]
    exact ⟨hsound.layered, hsound.tame, hsound.backed⟩
  · rw [he₂]
    exact .refl _
  · rw [hused]
    exact List.subset_cons_self ..
  · exact hstatements ▸ .declare (hvalue.mono hknows) .nil
  · rw [hstatements]
    exact List.nodup_singleton x
  · rw [hstatements, hused]
    exact List.forall_mem_singleton.mpr ⟨hvariable, hnew, List.mem_cons_self⟩
  · intro expr hexpr
    rw [hstatements]
    exact (hresult x hvariable expr hexpr).mono fun y =>
      .imp (hknows y) List.mem_singleton.mpr

end Emit

/-- Whatever code the type writes for a node, it is of this form. -/
def NodeKind.Writes (kind : NodeKind) : Prop :=
  ∀ ⦃known : String → Prop⦄ (node : Node) ⦃operands : Operands⦄, operands.Known known →
    Emit.Writes known (kind.emit node operands)

/-- A node type that declares no variables gives expressions that read known names only. -/
def NodeKind.IsPure (kind : NodeKind) : Prop :=
  ∀ ⦃known : String → Prop⦄ (node : Node) ⦃operands : Operands⦄, operands.Known known →
    Emit.Gives (kind.emit node operands) fun exprs => ∀ expr ∈ exprs, Reads known expr

/-- Code without variables that requires nothing. -/
lemma NodeKind.IsPure.writes {kind : NodeKind} (h : kind.IsPure) : kind.Writes := by
  intro known node operands hoperands
  refine Emit.Obtains.writes fun site e exprs e' outer hsound hknown hruns => ?_
  obtain ⟨hkeeps, hreads⟩ := h node hoperands hsound hruns
  exact ⟨hkeeps, fun expr hexpr => (hreads expr hexpr).mono fun x hx => hkeeps.knows (hknown x hx)⟩

namespace Nodes

open Emit

variable {node : Node} {operands : Operands}

/-- What is read from the operands reads known names. -/
lemma isOperand_of_get (h : operands.Known known) {name expr : String}
    (hget : operands.get name = .ok expr) : IsOperand known expr := by
  rw [Operands.get] at hget
  split at hget
  next operand hoperand =>
    split at hget
    · cases hget
      exact h name operand hoperand
    · cases hget
  · cases hget

lemma gives_get (h : operands.Known known) (name : String) :
    Gives (liftM (operands.get name)) (IsOperand known) :=
  .lift fun _ => isOperand_of_get h

/-- The place at which a texture is read: what is linked, or else the natural coordinates. -/
lemma obtains_coordinates (h : operands.Known known) {known' : String → Prop}
    (hknown : ∀ x, known x → known' x) {natural : Emit String}
    (hnatural : Obtains known' natural Reads) :
    Obtains known' (coordinates operands natural) Reads := by
  rw [coordinates]
  split
  next expr hexpr =>
    obtain ⟨operand, hoperand, rfl⟩ := Option.map_eq_some_iff.mp hexpr
    have hoperand := (h _ operand (Option.filter_eq_some_iff.mp hoperand).1).reads
    exact .pure fun known'' hknown' => hoperand.mono fun x hx => hknown' x (hknown x hx)
  · exact hnatural

lemma gives_choice (node : Node) (property default : String) :
    Gives (liftM (node.choice property default)) fun _ => True :=
  .lift fun _ _ => trivial

/-! ## Arithmetic -/

lemma reads_saturate {expr : String} (h : Reads known expr) : Reads known (saturate expr) :=
  h.between (by decide)

lemma reads_parenthesized {expr : String} (h : Reads known expr) :
    Reads known ("(" ++ expr ++ ")") :=
  h.between (by decide)

/-- The templates of operations on numbers. -/
lemma isTemplate_math : ∀ entry ∈ mathTemplates, isTemplate ['1', '2', '3'] entry.2 = true := by
  simp only [mathTemplates, List.forall_mem_cons]
  repeat rw [isTemplate_ofList]
  decide

/-- The templates of operations on vectors with a vector as result, -/
lemma isTemplate_vector :
    ∀ entry ∈ vectorTemplates, isTemplate ['1', '2', '3', 'S'] entry.2 = true := by
  simp only [vectorTemplates, List.forall_mem_cons]
  repeat rw [isTemplate_ofList]
  decide

/-- and those with a number. -/
lemma isTemplate_scalar :
    ∀ entry ∈ scalarTemplates, isTemplate ['1', '2', '3', 'S'] entry.2 = true := by
  simp only [scalarTemplates, List.forall_mem_cons]
  repeat rw [isTemplate_ofList]
  decide

lemma isTemplate_of_template? {templates : List (String × String)} {marks : List Char}
    {operation template : String} (h : template? templates operation = some template)
    (htemplates : ∀ entry ∈ templates, isTemplate marks entry.2 = true) :
    isTemplate marks template = true := by
  obtain ⟨entry, hentry, rfl⟩ := Option.map_eq_some_iff.mp h
  exact htemplates entry (List.mem_of_find?_eq_some hentry)

lemma isPure_math : math.IsPure := by
  intro known node operands h
  refine (gives_choice node _ _).bind fun operation _ => ?_
  split
  next template htemplate =>
    refine (gives_get h _).bind fun a ha => ?_
    refine (gives_get h _).bind fun b hb => ?_
    refine (gives_get h _).bind fun c hc => ?_
    have hfill : Reads known (fill template [a, b, c]) :=
      reads_fill (isTemplate_of_template? htemplate isTemplate_math) (by simp [ha, hb, hc])
    refine .pure (List.forall_mem_singleton.mpr ?_)
    split
    · exact reads_saturate (reads_parenthesized hfill)
    · exact reads_parenthesized hfill
  · exact .throw

lemma isPure_vectorMath : vectorMath.IsPure := by
  intro known node operands h
  refine (gives_choice node _ _).bind fun operation _ => ?_
  dsimp only
  split
  · exact .throw
  · refine (gives_get h _).bind fun a ha => ?_
    refine (gives_get h _).bind fun b hb => ?_
    refine (gives_get h _).bind fun c hc => ?_
    refine (gives_get h _).bind fun scale hscale => ?_
    have hoperands : ∀ operand ∈ [a, b, c, scale], IsOperand known operand := by
      simp [ha, hb, hc, hscale]
    -- of the two outputs one is computed and the other is zero, which of them the operation decides
    refine .pure (List.forall_mem_cons.mpr ⟨?_, List.forall_mem_singleton.mpr ?_⟩)
    · split
      next template htemplate =>
        have hfill : Reads known (fill template [a, b, c, scale]) :=
          reads_fill (isTemplate_of_template? htemplate isTemplate_vector) hoperands
        exact reads_parenthesized hfill
      · exact .of_isForeign (by decide)
    · split
      next template htemplate =>
        have hfill : Reads known (fill template [a, b, c, scale]) :=
          reads_fill (isTemplate_of_template? htemplate isTemplate_scalar) hoperands
        exact reads_parenthesized hfill
      · exact .of_isForeign (by decide)

/-- A call with three arguments. -/
lemma reads_call {first a b c : String} (hfirst : (isForeign first && isOpen first) = true)
    (ha : Reads known a) (hb : Reads known b) (hc : Reads known c) :
    Reads known (first ++ a ++ ", " ++ b ++ ", " ++ c ++ ")") := by
  have hseparates : separates first [", ", ", ", ")"] = true := by
    simp only [separates, List.map_cons, separatesAt]
    rw [show (isForeignAt first.toList && isOpenAt first.toList) = true from hfirst]
    decide
  have hexpr : Reads known (weave first [(a, ", "), (b, ", "), (c, ")")]) :=
    reads_weave _ _ hseparates (by simp [ha, hb, hc])
  simpa only [weave, String.append_assoc] using hexpr

/-- A choice between an expression and the same kept between zero and one. -/
lemma reads_ite_saturate {expr : String} (b : Bool) (h : Reads known expr) :
    Reads known (if b then saturate expr else expr) := by
  split
  · exact reads_saturate h
  · exact h

lemma isPure_mix : mix.IsPure := by
  -- each of the modes is a function of the library: a fixed text
  have hmodes : ∀ mode ∈ blendModes,
      (isForeign ("tessel_blend_" ++ String.ofList (mode.toList.map Char.toLower) ++ "(") &&
        isOpen ("tessel_blend_" ++ String.ofList (mode.toList.map Char.toLower) ++ "("))
          = true := by
    decide
  intro known node operands h
  refine Gives.bind (P := fun _ => True) (.lift fun _ _ => trivial) fun type _ => ?_
  refine (gives_get h _).bind fun given hgiven => ?_
  have hfactor := reads_ite_saturate (node.isSwitchedOn "clamp_factor" true) hgiven.reads
  refine (gives_get h _).bind fun a ha => ?_
  refine (gives_get h _).bind fun b hb => ?_
  dsimp only
  split
  · refine (gives_choice node _ _).bind fun mode _ => ?_
    split
    · exact Gives.bind (P := fun _ => False) .throw fun _ hnone => hnone.elim
    next hmode =>
      have hmode : mode ∈ blendModes := by simpa using hmode
      refine (gives_fragment _).bind fun _ _ => ?_
      refine Gives.bind (.pure (reads_call (hmodes mode hmode) hfactor ha.reads hb.reads)) ?_
      exact fun result hresult =>
        .pure (List.forall_mem_singleton.mpr (reads_ite_saturate _ hresult))
  · refine Gives.bind (.pure (reads_call ?_ ha.reads hb.reads hfactor)) ?_
    · decide
    · exact fun result hresult =>
        .pure (List.forall_mem_singleton.mpr (reads_ite_saturate _ hresult))

lemma isPure_clampNode : clampNode.IsPure := by
  intro known node operands h
  refine (gives_get h _).bind fun x hx => ?_
  refine (gives_get h _).bind fun low hlow => ?_
  refine (gives_get h _).bind fun high hhigh => ?_
  have hbounded : ∀ name, isForeign name = true →
      Reads known (name ++ ("(" ++ x ++ ", " ++ low ++ ", " ++ high ++ ")")) := by
    intro name hname
    have hcall := reads_call (show (isForeign "(" && isOpen "(") = true by decide)
      hx.reads hlow.reads hhigh.reads
    have hclosed : isClosed ("(" ++ x ++ ", " ++ low ++ ", " ++ high ++ ")") = true := by
      simp only [String.append_assoc]
      rw [isClosed_append (by decide)]
      decide
    exact (Reads.of_isForeign hname).append hcall (.inr hclosed)
  refine (gives_choice node _ _).bind fun mode _ => ?_
  split
  · exact .pure (List.forall_mem_singleton.mpr (hbounded "clamp" (by decide)))
  · refine (gives_fragment _).bind fun _ _ => .pure (List.forall_mem_singleton.mpr ?_)
    exact hbounded "tessel_clamp_range" (by decide)
  · exact .throw

lemma isPure_mapRange : mapRange.IsPure := by
  intro known node operands h
  refine (gives_fragment _).bind fun _ _ => ?_
  refine (gives_get h _).bind fun low hlow => ?_
  refine (gives_get h _).bind fun high hhigh => ?_
  refine (gives_get h _).bind fun x hx => ?_
  refine (gives_get h _).bind fun fromLow hfromLow => ?_
  refine (gives_get h _).bind fun fromHigh hfromHigh => ?_
  have hlist : Reads known (", ".intercalate [x, fromLow, fromHigh, low, high]) := by
    refine reads_intercalate (by decide) (by decide) ?_
    simp [hlow.reads, hhigh.reads, hx.reads, hfromLow.reads, hfromHigh.reads]
  have hmapped : Reads known
      ("tessel_map_range(" ++ ", ".intercalate [x, fromLow, fromHigh, low, high] ++ ")") :=
    hlist.between (by decide)
  dsimp only
  split
  · refine (gives_fragment _).bind fun _ _ => .pure (List.forall_mem_singleton.mpr ?_)
    exact reads_call (by decide) hmapped hlow.reads hhigh.reads
  · exact .pure (List.forall_mem_singleton.mpr hmapped)

lemma isPure_combineXyz : combineXyz.IsPure := by
  intro known node operands h
  refine (gives_get h _).bind fun x hx => ?_
  refine (gives_get h _).bind fun y hy => ?_
  refine (gives_get h _).bind fun z hz => .pure (List.forall_mem_singleton.mpr ?_)
  exact reads_call (by decide) hx.reads hy.reads hz.reads

lemma isPure_separateXyz : separateXyz.IsPure := by
  intro known node operands h
  refine (gives_get h _).bind fun vector hvector => ?_
  have hexpr : ∀ c ∈ [".x", ".y", ".z"], Reads known (vector ++ c) := by
    have hclosed : ∀ c ∈ [".x", ".y", ".z"], isForeign c = true ∧ isClosed c = true := by decide
    exact fun c hc => hvector.reads.append (.of_isForeign (hclosed c hc).1) (.inr (hclosed c hc).2)
  exact .pure (by simpa using hexpr)

lemma isPure_reroute : reroute.IsPure := by
  intro known node operands h
  refine (gives_get h _).bind fun input hinput => .pure (List.forall_mem_singleton.mpr ?_)
  exact hinput.reads

/-! ## Sources -/

lemma isPure_value : value.IsPure := by
  intro known node operands h
  have hresult : ∀ x, Gives (pure [SocketType.constant x]) fun exprs =>
      ∀ expr ∈ exprs, Reads known expr :=
    fun x => .pure (List.forall_mem_singleton.mpr (isOperand_constant x).reads)
  have hbind : ∀ attempt : Emit Float, Gives attempt (fun _ => True) →
      Gives (attempt >>= fun x => pure [SocketType.constant x]) fun exprs =>
        ∀ expr ∈ exprs, Reads known expr :=
    fun attempt hattempt => hattempt.bind fun x _ => hresult x
  dsimp only [value]
  split
  · exact hbind _ (.pure trivial)
  · exact hbind _ (.pure trivial)
  · split
    · exact hbind _ (.pure trivial)
    · exact hbind _ .throw

lemma isPure_rgb : rgb.IsPure := by
  intro known node operands h
  dsimp only [rgb]
  split
  next literal hliteral =>
    exact .pure (List.forall_mem_singleton.mpr (isOperand_literal hliteral).reads)
  · exact .throw

lemma writes_texCoord : texCoord.Writes := by
  intro known node operands h
  refine Obtains.writes ?_
  refine obtains_objectPosition.bind fun known₁ position _ hposition => ?_
  refine obtains_normal.bind fun known₂ normal hknown₂ hnormal => ?_
  refine obtains_uv.bind fun known₃ uv hknown₃ huv => .pure fun known₄ hknown₄ => ?_
  have hposition : Reads known₄ position :=
    hposition.reads.mono fun x hx => hknown₄ x (hknown₃ x (hknown₂ x hx))
  have hnormal : Reads known₄ normal := hnormal.reads.mono fun x hx => hknown₄ x (hknown₃ x hx)
  have huv : Reads known₄ uv := huv.reads.mono hknown₄
  have hgenerated : Reads known₄ ("(" ++ position ++ " * 0.5 + 0.5)") :=
    hposition.between (by decide)
  have hflat : Reads known₄ ("vec3(" ++ uv ++ ", 0.0)") :=
    huv.between (by decide)
  simp [hgenerated, hnormal, hflat, hposition]

/-- The name of an attribute, or of the value that passes it on. -/
lemma isName_attribute {start name : String} {c : Char} (hstart : start.toList = [c, '_'])
    (hc : isWordChar c = true) (hdigit : c.isDigit = false) (hname : sanitize name ≠ "") :
    IsName (start ++ sanitize name) := by
  have htidy := (sanitize_cases name).resolve_left hname
  -- the name starts with a letter and an underscore, and goes on with a tidy name
  have hlist : (start ++ sanitize name).toList = c :: '_' :: (sanitize name).toList := by
    rw [String.toList_append, hstart]
    rfl
  refine ⟨fun d hd => ?_, ?_⟩
  · rw [hlist] at hd
    exact (Tidy.gap hc htidy).isNameChar_of_mem hd
  · rw [hlist, isIdentifier, List.head?_cons, Option.any_some, hdigit]
    rfl

/-- The name of the attribute is cleaned before it becomes part of a name, and the node is refused
if nothing is left of it. -/
lemma writes_attribute : attributeNode.Writes := by
  intro known node operands h
  dsimp only [attributeNode]
  split
  · exact writes_throw
  next hempty =>
    have hname : sanitize ((node.stringProperty? "attribute_name").getD "") ≠ "" := by
      simpa using hempty
    generalize (node.stringProperty? "attribute_name").getD "" = given at hname
    have hattribute : IsName ("a_" ++ sanitize given) :=
      isName_attribute rfl (by decide) (by decide) hname
    have hvarying : IsName ("v_" ++ sanitize given) :=
      isName_attribute rfl (by decide) (by decide) hname
    refine Obtains.writes ?_
    rw [← bind_assoc]
    refine (obtains_attribute hattribute hvarying).bind fun known₁ color _ hcolor => ?_
    refine .pure fun known₂ hknown₂ => ?_
    have hcolor : IsOperand known₂ color := hcolor.mono hknown₂
    have hvector : Reads known₂ (color ++ ".xyz") :=
      hcolor.reads.append (.of_isForeign (by decide)) (.inr (by decide +kernel))
    simp [hcolor.reads, hvector, hcolor.average.reads]

/-- The parameters that the hooks refresh have names of their own kind. -/
lemma isParameter_frameParameters :
    ∀ name ∈ frameParameters, IsName name ∧ isParameter name = true := by
  decide

/-- A parameter that a hook refreshes. -/
lemma obtains_frameParameter {name : String} (hname : name ∈ frameParameters)
    (default : UniformValue) : Obtains known (uniform name default) IsOperand :=
  obtains_uniform (isParameter_frameParameters name hname) default

lemma writes_sceneTime : sceneTime.Writes := by
  intro known node operands h
  refine Obtains.writes ?_
  refine (obtains_frameParameter (by decide) _).bind fun known₁ seconds _ hseconds => ?_
  refine (obtains_frameParameter (by decide) _).bind fun known₂ frame hknown₂ hframe => ?_
  refine (gives_hook _).bind_obtains fun _ _ => .pure fun known₃ hknown₃ => ?_
  have hseconds : Reads known₃ seconds := hseconds.reads.mono fun x hx => hknown₃ x (hknown₂ x hx)
  have hframe : Reads known₃ frame := hframe.reads.mono hknown₃
  simp [hseconds, hframe]

lemma writes_objectInfo : objectInfo.Writes := by
  intro known node operands h
  refine Obtains.writes ?_
  refine (obtains_frameParameter (by decide) _).bind fun known₁ location _ hlocation => ?_
  refine (gives_hook _).bind_obtains fun _ _ => ?_
  refine (gives_define (by decide)).bind_obtains fun _ _ => ?_
  refine (gives_fragment _).bind_obtains fun _ _ => .pure fun known₂ hknown₂ => ?_
  have hlocation : Reads known₂ location := hlocation.reads.mono hknown₂
  have hrandom : Reads known₂ ("tessel_hash13(" ++ location ++ ")") :=
    hlocation.between (by decide)
  simp [hlocation, hrandom]

/-! ## Textures and outputs -/

lemma writes_texWhiteNoise : texWhiteNoise.Writes := by
  intro known node operands h
  have hnatural : Obtains known objectPosition Reads :=
    obtains_objectPosition.imp fun _ _ hplace => hplace.reads
  refine Obtains.writes ?_
  refine (gives_fragment _).bind_obtains fun _ _ => ?_
  refine (obtains_coordinates h (fun _ => id) hnatural).bind fun known₁ vector _ hvector => ?_
  refine .pure fun known₂ hknown₂ => ?_
  have hvector : Reads known₂ vector := hvector.mono hknown₂
  have hvalue : Reads known₂ ("tessel_hash13(" ++ vector ++ ")") :=
    hvector.between (by decide)
  have hcolor : Reads known₂ ("vec4(tessel_hash33(" ++ vector ++ "), 1.0)") :=
    hvector.between (by decide)
  simp [hvalue, hcolor]

/-- The coordinates of the mesh, as a place to read a texture at. -/
lemma obtains_flatUv : Obtains known (do return "vec3(" ++ (← Emit.uv) ++ ", 0.0)") Reads := by
  refine obtains_uv.bind fun known₁ uv _ huv => .pure fun known₂ hknown₂ => ?_
  exact (huv.reads.mono hknown₂).between (by decide)

lemma writes_texImage : texImage.Writes := by
  intro known node operands h
  dsimp only [texImage]
  split
  next path _ =>
    refine (obtains_sampler path).bind_writes fun known₁ sampler hknown₁ hsampler => ?_
    refine (obtains_coordinates h hknown₁ obtains_flatUv).bind_writes
      fun known₂ vector hknown₂ hvector => ?_
    refine writes_helper ?_ fun sample hsample => ?_
    · have hsampler : Reads known₂ sampler := hsampler.reads.mono hknown₂
      -- the sample is read with the sampler at two of the coordinates
      have hvalue : Reads known₂ (weave "texture(" [(sampler, ", "), (vector, ".xy)")]) :=
        reads_weave _ _ (show separates "texture(" [", ", ".xy)"] = true by decide)
          (by simp [hsampler, hvector])
      simpa only [weave, String.append_assoc] using hvalue
    · have hcolor : Reads (fun y => known₂ y ∨ y = sample) sample := .of_variable hsample (.inr rfl)
      have halpha : Reads (fun y => known₂ y ∨ y = sample) (sample ++ ".a") :=
        hcolor.append (.of_isForeign (by decide)) (.inr (by decide))
      simp [hcolor, halpha]
  · exact writes_throw

/-- The code declares the offset from the camera, from which direction, depth and distance are
computed. -/
lemma writes_cameraData : cameraData.Writes := by
  intro known node operands h
  refine (obtains_frameParameter (by decide) _).bind_writes fun known₁ camera _ hcamera => ?_
  refine (obtains_frameParameter (by decide) _).bind_writes
    fun known₂ direction hknown₂ hdirection => ?_
  refine (gives_hook _).bind_writes fun _ _ => ?_
  refine obtains_worldPosition.bind_writes fun known₃ world hknown₃ hworld => ?_
  refine writes_helper ?_ fun offset hoffset => ?_
  · have hcamera : Reads known₃ camera :=
      hcamera.reads.mono fun x hx => hknown₃ x (hknown₂ x hx)
    exact (hworld.reads.append (.of_isForeign (by decide)) (.inr (by decide))).append hcamera
      (.inl (isOpen_append (by decide) (by decide)))
  · have hdirection : Reads (fun y => known₃ y ∨ y = offset) direction :=
      hdirection.reads.mono fun x hx => .inl (hknown₃ x hx)
    have hoffset : Reads (fun y => known₃ y ∨ y = offset) offset := .of_variable hoffset (.inr rfl)
    have hnormalized : Reads (fun y => known₃ y ∨ y = offset) ("normalize(" ++ offset ++ ")") :=
      hoffset.between (by decide)
    have hlength : Reads (fun y => known₃ y ∨ y = offset) ("length(" ++ offset ++ ")") :=
      hoffset.between (by decide)
    have hdepth : Reads (fun y => known₃ y ∨ y = offset)
        (weave "dot(" [(offset, ", normalize("), (direction, "))")]) :=
      reads_weave _ _ (show separates "dot(" [", normalize(", "))"] = true by decide)
        (by simp [hoffset, hdirection])
    simp only [weave, ← String.append_assoc] at hdepth
    simpa using ⟨hnormalized, hdepth, hlength⟩

/-- The code of layered noise declares a point and the strength of the noise there; the color takes
the noise at two more places. -/
lemma writes_texNoise : texNoise.Writes := by
  intro known node operands h
  have hnatural : Obtains known objectPosition Reads :=
    obtains_objectPosition.imp fun _ _ hplace => hplace.reads
  refine (gives_fragment _).bind_writes fun _ _ => ?_
  refine (obtains_coordinates h (fun _ => id) hnatural).bind_writes
    fun known₁ vector hknown₁ hvector => ?_
  refine (gives_get h _).bind_writes fun detail hdetail => ?_
  refine (gives_get h _).bind_writes fun roughness hroughness => ?_
  -- the noise can be read at any place behind the statements, and at the point ahead of its own one
  have hnoise : ∀ {known' : String → Prop}, (∀ x, known₁ x → known' x) → ∀ {place},
      Reads known' place → Reads known'
        ("tessel_fbm(" ++ place ++ ", " ++ detail ++ ", " ++ roughness ++ ")") :=
    fun hknown _ hplace => reads_call (by decide) hplace
      (hdetail.reads.mono fun x hx => hknown x (hknown₁ x hx))
      (hroughness.reads.mono fun x hx => hknown x (hknown₁ x hx))
  intro site e exprs e' outer hsound hknown hstart hruns
  obtain ⟨point, e₁, hfreshPoint, hruns⟩ := runs_bind.mp hruns
  obtain ⟨hpoint, hpointNew, he₁⟩ := runs_freshLocal hfreshPoint
  obtain ⟨fac, e₂, hfreshFac, hruns⟩ := runs_bind.mp hruns
  obtain ⟨hfac, hfacNew, he₂⟩ := runs_freshLocal hfreshFac
  obtain ⟨scale, e₃, hget, hruns⟩ := runs_bind.mp hruns
  obtain ⟨hscale, he₃⟩ := runs_lift.mp hget
  obtain ⟨_, e₄, hplace, hruns⟩ := runs_bind.mp hruns
  have he₄ := runs_statement hplace
  obtain ⟨_, e₅, hresult, hruns⟩ := runs_bind.mp hruns
  have he₅ := runs_statement hresult
  obtain ⟨rfl, he'⟩ := runs_pure.mp hruns
  have hknows : ∀ x, known₁ x → e'.Knows outer x := by
    rwa [he', he₅, he₄, he₃, he₂, he₁]
  have hscale : Reads known₁ scale := (isOperand_of_get h hscale).reads.mono hknown₁
  have hfacRead : Reads (fun z => e'.Knows outer z ∨ z ∈ [point, fac]) fac :=
    .of_variable hfac (.inr (by simp))
  have hshifted : ∀ offset, isForeign offset = true → isClosed offset = true →
      Reads (fun z => e'.Knows outer z ∨ z ∈ [point, fac])
        ("tessel_fbm(" ++ (point ++ offset) ++ ", " ++ detail ++ ", " ++ roughness ++ ")") := by
    intro offset hforeign hclosed
    have hpointRead : Reads (fun z => e'.Knows outer z ∨ z ∈ [point, fac]) point :=
      .of_variable hpoint (.inr (by simp))
    exact hnoise (fun x hx => .inl (hknows x hx))
      (hpointRead.append (.of_isForeign hforeign) (.inr hclosed))
  have hstatements : e'.statements =
      [.declare .vec3 point (vector ++ " * " ++ scale),
       .declare .float fac
        ("tessel_fbm(" ++ point ++ ", " ++ detail ++ ", " ++ roughness ++ ")")] := by
    rw [he', he₅, he₄, he₃, he₂, he₁, hstart]
    rfl
  have hplaceRead : Reads known₁ (vector ++ " * " ++ scale) :=
    (hvector.append (.of_isForeign (by decide)) (.inr (by decide))).append hscale
      (.inl (isOpen_append (by decide) (by decide)))
  refine adds_pair ?_ ?_ hstatements ?_ ⟨hpoint, hpointNew⟩ ⟨hfac, ?_⟩ (hplaceRead.mono hknows)
    (hnoise (fun x hx => .inl (hknows x hx)) (.of_variable hpoint (.inr rfl)))
    (List.forall_mem_cons.mpr ⟨hfacRead, List.forall_mem_singleton.mpr ?_⟩)
  · rw [he', he₅, he₄, he₃, he₂, he₁]
    exact ⟨hsound.layered, hsound.tame, hsound.backed⟩
  · rw [he', he₅, he₄, he₃, he₂, he₁]
    exact .refl _
  · rw [he', he₅, he₄, he₃, he₂, he₁]
  · rwa [he₁] at hfacNew
  · have hcolor := reads_weave "vec4(" [(fac, ", "), (_, ", "), (_, ", 1.0)")]
      (show separates "vec4(" [", ", ", ", ", 1.0)"] = true by decide)
      (by simpa using ⟨hfacRead, hshifted " + vec3(19.1, 33.4, 47.2)" (by decide) (by decide),
        hshifted " + vec3(74.2, 12.5, 5.3)" (by decide) (by decide)⟩)
    simpa only [weave, ← String.append_assoc] using hcolor

lemma isPure_emission : emission.IsPure := by
  intro known node operands h
  refine (gives_get h _).bind fun color hcolor => ?_
  refine (gives_get h _).bind fun strength hstrength => .pure (List.forall_mem_singleton.mpr ?_)
  have hexpr : Reads known (weave "vec4(" [(color, ".rgb * "), (strength, ", "), (color, ".a)")]) :=
    reads_weave _ _ (show separates "vec4(" [".rgb * ", ", ", ".a)"] = true by decide)
      (by simp [hcolor.reads, hstrength.reads])
  simpa only [weave, String.append_assoc] using hexpr

lemma isPure_outputMaterial : outputMaterial.IsPure := by
  intro known node operands h
  exact .pure (List.forall_mem_nil _)

end Nodes

/-- Every node type at hand writes code of this form. -/
theorem NodeKind.writes_of_mem {kind : NodeKind}
    (h : kind ∈ Nodes.sources ++ Nodes.arithmetic ++ Nodes.textures ++ Nodes.outputs) :
    kind.Writes := by
  simp only [Nodes.sources, Nodes.arithmetic, Nodes.textures, Nodes.outputs, List.mem_append,
    List.mem_cons, List.not_mem_nil, or_false] at h
  rcases h with ((h | h) | h) | h
  · rcases h with rfl | rfl | rfl | rfl | rfl | rfl | rfl
    · exact Nodes.isPure_value.writes
    · exact Nodes.isPure_rgb.writes
    · exact Nodes.writes_texCoord
    · exact Nodes.writes_attribute
    · exact Nodes.writes_sceneTime
    · exact Nodes.writes_cameraData
    · exact Nodes.writes_objectInfo
  · rcases h with rfl | rfl | rfl | rfl | rfl | rfl | rfl | rfl
    · exact Nodes.isPure_math.writes
    · exact Nodes.isPure_vectorMath.writes
    · exact Nodes.isPure_mix.writes
    · exact Nodes.isPure_clampNode.writes
    · exact Nodes.isPure_mapRange.writes
    · exact Nodes.isPure_combineXyz.writes
    · exact Nodes.isPure_separateXyz.writes
    · exact Nodes.isPure_reroute.writes
  · rcases h with rfl | rfl | rfl
    · exact Nodes.writes_texImage
    · exact Nodes.writes_texNoise
    · exact Nodes.writes_texWhiteNoise
  · rcases h with rfl | rfl
    · exact Nodes.isPure_emission.writes
    · exact Nodes.isPure_outputMaterial.writes

end SceneEngine.Shading
