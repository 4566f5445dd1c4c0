import SceneEngine.Proofs.Shading.Failures

/-!
# Filled templates

The two node types that calculate hold their operations as templates, with a placeholder for each
operand.  Operands are filled in one after another, over a text that already holds the operands
filled before.  An operand with a placeholder in it, which an author could smuggle in through a
name, would be filled in turn.  This module shows that this cannot happen, and that filling is what
one would want: all placeholders are replaced in one pass, and none is left.

## One pass

`Nodes.substitute` is the intended meaning: it walks over the template once, and does not look again
at what it has put in.  `Nodes.FillsAtOnce` says that the filled text is the one it gives, and
contains no dollar sign any more.  The connection between the two is the form in which a template
was taken apart (`Nodes.frame`): substituting puts operands into all gaps (`substitute_eq_plug`),
and so does filling, by the lemmas about expressions.

## The templates and operands that occur

For the templates of the program it is decided that they ask only for marks that there are operands
for, three of them for numbers and four for vectors.  The operands of the nodes of a network contain
no dollar signs (`plain_of_operandsOf`): they are made of generated names, conversions and
constants, and the ids and values that an author chose occur in them only after they have been
cleaned.

The main result, `Nodes.fills_at_once`, puts these together.  It also says that a network made from
a valid tree has all operands that its nodes ask for, so the conditions are met whenever code is
written.
-/

namespace SceneEngine.Shading

namespace Nodes

/-! ## Replacing placeholders in one pass -/

/-- Replaces every placeholder for which there is an operand, in one pass over the template.  What
has been put in is not looked at again. -/
def substitute (operand? : Char → Option String) : List Char → List Char
  | [] => []
  | '$' :: mark :: cs =>
    match operand? mark with
    | some operand => operand.toList ++ substitute operand? cs
    | none => '$' :: substitute operand? (mark :: cs)
  | c :: cs => c :: substitute operand? cs

/-- The operand that a mark stands for. -/
def operandFor? (operands : List String) : Char → Option String
  | '1' => operands[0]?
  | '2' => operands[1]?
  | '3' => operands[2]?
  | 'S' => operands[3]?
  | _ => none

variable {operand? : Char → Option String} {operand : Char → List Char} {first cs : List Char}
  {gaps : List (Char × List Char)} {template : String} {operands : List String}

/-- With an operand for each of its marks, substituting in a template fills all its gaps. -/
lemma substitute_eq_plug (h : ∀ gap ∈ (frame cs).2, (operand? gap.1).isSome = true) :
    substitute operand? cs =
      plug (fun mark => ((operand? mark).map String.toList).getD ['$', mark]) (frame cs).1
        (frame cs).2 := by
  induction cs using frame.induct with
  | case1 => rfl
  | case2 mark cs ih =>
    rw [frame, List.forall_mem_cons] at h
    obtain ⟨operand, hoperand⟩ := Option.isSome_iff_exists.mp h.1
    rw [substitute, hoperand]
    simp [frame, plug, hoperand, ih h.2]
  | case3 c cs hc ih =>
    have hframe : frame (c :: cs) = (c :: (frame cs).1, (frame cs).2) := by
      rw [frame]
      exact hc
    rw [hframe] at h ⊢
    rw [substitute, ih h]
    · rfl
    · exact hc

/-- Looking an operand up among pairs of marks and operands comes to selecting it by the mark.
There may be fewer operands than marks. -/
lemma operandAt_zip (operands : List String) (mark : Char) :
    operandAt (operandMarks.zip operands) mark =
      ((operandFor? operands mark).map String.toList).getD ['$', mark] := by
  unfold operandFor? operandAt operandMarks
  split
  · cases operands <;> simp
  · rcases operands with _ | ⟨a, _ | ⟨b, operands⟩⟩ <;> simp
  · rcases operands with _ | ⟨a, _ | ⟨b, _ | ⟨c, operands⟩⟩⟩ <;> simp
  · rcases operands with _ | ⟨a, _ | ⟨b, _ | ⟨c, _ | ⟨d, operands⟩⟩⟩⟩ <;> simp
  next h1 h2 h3 hS =>
    have hnone : (['1', '2', '3', 'S'].zip operands).find? (·.1 == mark) = none := by
      refine List.find?_eq_none.mpr fun entry hentry hmark => ?_
      have hmem := (List.of_mem_zip hentry).1
      rw [beq_iff_eq.mp hmark] at hmem
      simp only [List.mem_cons, List.not_mem_nil, or_false] at hmem
      rcases hmem with h | h | h | h
      exacts [h1 h, h2 h, h3 h, hS h]
    rw [hnone]
    rfl

/-- What a mark stands for is one of the operands. -/
lemma mem_of_operandFor? {mark : Char} {operand : String}
    (h : operandFor? operands mark = some operand) : operand ∈ operands := by
  unfold operandFor? at h
  split at h
  · exact List.mem_of_getElem? h
  · exact List.mem_of_getElem? h
  · exact List.mem_of_getElem? h
  · exact List.mem_of_getElem? h
  · cases h

/-- Filling replaces all placeholders at once, and leaves none. -/
structure FillsAtOnce (template : String) (operands : List String) : Prop where
  /-- The result is that of replacing in one pass, -/
  substituted : (fill template operands).toList =
    substitute (operandFor? operands) template.toList
  /-- and no placeholder is left. -/
  complete : '$' ∉ (fill template operands).toList

/-- Neither the text between the gaps nor the operands bring in a dollar sign. -/
lemma notMem_plug (hfirst : '$' ∉ first) (hgaps : ∀ gap ∈ gaps, '$' ∉ gap.2)
    (hoperand : ∀ gap ∈ gaps, '$' ∉ operand gap.1) : '$' ∉ plug operand first gaps := by
  rw [plug, List.mem_append, List.mem_flatMap]
  rintro (hdollar | ⟨gap, hgap, hdollar⟩)
  · exact hfirst hdollar
  · rcases List.mem_append.mp hdollar with hdollar | hdollar
    · exact hoperand gap hgap hdollar
    · exact hgaps gap hgap hdollar

/-- A template is filled at once by operands without dollar signs, if there is one for each of its
marks. -/
lemma fillsAtOnce_of_isTemplate {marks : List Char} (htemplate : isTemplate marks template = true)
    (hmarks : ∀ mark ∈ marks, mark ≠ '$' ∧ (operandFor? operands mark).isSome = true)
    (hplain : ∀ operand ∈ operands, '$' ∉ operand.toList) : FillsAtOnce template operands := by
  rw [isTemplate] at htemplate
  simp only [Bool.and_eq_true, Bool.not_eq_true', List.all_eq_true, List.contains_iff_mem,
    ← Bool.not_eq_true] at htemplate
  obtain ⟨⟨hfirst, hgaps⟩, -⟩ := htemplate
  have hfill := fill_eq_plug hfirst
    (fun gap hgap => ⟨(hmarks gap.1 (hgaps gap hgap).1).1, (hgaps gap hgap).2⟩) hplain
  rw [funext (operandAt_zip operands)] at hfill
  have hplaced : ∀ gap ∈ (frame template.toList).2, (operandFor? operands gap.1).isSome = true :=
    fun gap hgap => (hmarks gap.1 (hgaps gap hgap).1).2
  refine ⟨hfill.trans (substitute_eq_plug hplaced).symm, ?_⟩
  rw [hfill]
  -- every gap has an operand now, so the placeholder itself is never put back
  refine notMem_plug hfirst (fun gap hgap => (hgaps gap hgap).2) fun gap hgap => ?_
  obtain ⟨operand, hoperand⟩ := Option.isSome_iff_exists.mp (hplaced gap hgap)
  rw [hoperand]
  exact hplain operand (mem_of_operandFor? hoperand)

/-- Operations on numbers have three operands. -/
lemma fillsAtOnce_math {entry : String × String} (hentry : entry ∈ mathTemplates)
    (hlength : operands.length = 3) (hplain : ∀ operand ∈ operands, '$' ∉ operand.toList) :
    FillsAtOnce entry.2 operands := by
  have hmarks : ∀ mark ∈ ['1', '2', '3'],
      mark ≠ '$' ∧ (operandFor? operands mark).isSome = true := by
    simp [operandFor?, hlength]
  exact fillsAtOnce_of_isTemplate (isTemplate_math entry hentry) hmarks hplain

/-- Operations on vectors have four operands, the last of which is a scale. -/
lemma fillsAtOnce_vectorMath {entry : String × String}
    (hentry : entry ∈ vectorTemplates ++ scalarTemplates) (hlength : operands.length = 4)
    (hplain : ∀ operand ∈ operands, '$' ∉ operand.toList) : FillsAtOnce entry.2 operands := by
  have htemplate : isTemplate ['1', '2', '3', 'S'] entry.2 = true :=
    (List.mem_append.mp hentry).elim (isTemplate_vector entry) (isTemplate_scalar entry)
  have hmarks : ∀ mark ∈ ['1', '2', '3', 'S'],
      mark ≠ '$' ∧ (operandFor? operands mark).isSome = true := by
    simp [operandFor?, hlength]
  exact fillsAtOnce_of_isTemplate htemplate hmarks hplain

end Nodes

/-! ## Operands of a network -/

/-- No operand of a node in a network has a dollar sign, whatever the authored names and values. -/
lemma plain_of_operandsOf {registry : NodeRegistry} {tree : NodeTree} {network : Network}
    {names names' : NamePool} {station : Station} {operands : Operands}
    (hresolve : Network.resolve tree registry names = .ok (network, names'))
    (hstation : station ∈ network.stations) (h : operandsOf network station = .ok operands)
    {input : String} {operand : Operand} (hget : operands.values.get? input = some operand) :
    '$' ∉ operand.expr.toList := by
  obtain ⟨-, stations, hnames⟩ := Network.resolves_of_resolve_eq_ok hresolve
  obtain ⟨i, hi⟩ := List.mem_iff_getElem?.mp hstation
  exact (known_of_operandsOf (Network.isNamed_of_nameAll hnames) hi h input operand hget).plain

/-- A valid tree has a network. -/
lemma NodeTree.Valid.exists_resolve {tree : NodeTree} (h : tree.Valid .builtin)
    (names : NamePool) :
    ∃ network names', Network.resolve tree .builtin names = .ok (network, names') := by
  rcases Network.resolve_cases .builtin tree names with
    ⟨network, names', hok, -⟩ | ⟨e, -, hviolates⟩
  · exact ⟨network, names', hok⟩
  · exact absurd h (hviolates NodeRegistry.builtin_faultsAreProperties).not_valid

/-- Operands without dollar signs are filled into the templates of both calculating types at once.
The operands that a network has for its nodes are of this kind, and one made from a valid tree has
all that its nodes ask for. -/
theorem Nodes.fills_at_once :
    (∀ entry ∈ mathTemplates, ∀ operands : List String, operands.length = 3 →
      (∀ operand ∈ operands, '$' ∉ operand.toList) → FillsAtOnce entry.2 operands) ∧
    (∀ entry ∈ vectorTemplates ++ scalarTemplates, ∀ operands : List String,
      operands.length = 4 → (∀ operand ∈ operands, '$' ∉ operand.toList) →
        FillsAtOnce entry.2 operands) ∧
    (∀ registry tree names network names',
      Network.resolve tree registry names = .ok (network, names') →
        ∀ station ∈ network.stations, ∀ operands, operandsOf network station = .ok operands →
          ∀ input operand, operands.values.get? input = some operand →
            '$' ∉ operand.expr.toList) ∧
    ∀ tree names, NodeTree.Valid .builtin tree → ∃ network names',
      Network.resolve tree .builtin names = .ok (network, names') ∧
        ∀ station ∈ network.stations, ∃ operands, operandsOf network station = .ok operands ∧
          operands.Supply station.signature := by
  refine ⟨fun entry hentry operands => fillsAtOnce_math hentry,
    fun entry hentry operands => fillsAtOnce_vectorMath hentry,
    fun registry tree names network names' hresolve station hstation operands hoperands input
      operand => plain_of_operandsOf hresolve hstation hoperands,
    fun tree names hvalid => ?_⟩
  obtain ⟨network, names', hresolve⟩ := hvalid.exists_resolve names
  refine ⟨network, names', hresolve, fun station hstation => ?_⟩
  obtain ⟨i, hi⟩ := List.mem_iff_getElem?.mp hstation
  exact (Network.Checked.of_resolve_eq_ok hresolve).exists_operandsOf hi

/-- A node that calculates with the output of another, whose name is that of a placeholder. -/
def NodeTree.disguised : NodeTree where
  nodes := .ofList
    [("$2", ⟨"$2", "value", ∅, ∅, [("value", .real 2)]⟩),
     ("sum", ⟨"sum", "math", ∅, ∅, []⟩)]
  links := [⟨⟨"$2", "value"⟩, ⟨"sum", "value"⟩⟩]

theorem Nodes.fills_at_once_disguised :
    (fill "$1 * $2 + $3" ["a", "b", "c"]).toList = "a * b + c".toList ∧
      (fill "$1 * $S" ["v", "x", "y", "s"]).toList = "v * s".toList ∧
      ∃ network names, Network.resolve .disguised .builtin .empty = .ok (network, names) ∧
        ∀ station ∈ network.stations, ∃ operands, operandsOf network station = .ok operands ∧
          ∀ input operand, operands.values.get? input = some operand →
            '$' ∉ operand.expr.toList := by
  obtain ⟨hmath, hvector, hplain, hvalid⟩ := fills_at_once
  have hmul := hmath ("MULTIPLY_ADD", "$1 * $2 + $3") (by simp [mathTemplates]) ["a", "b", "c"] rfl
    (by simp)
  have hscale := hvector ("SCALE", "$1 * $S") (by simp [vectorTemplates]) ["v", "x", "y", "s"] rfl
    (by simp)
  have hsome : (Network.resolve .disguised .builtin .empty).toOption.isSome = true := by
    decide +kernel
  have hdisguised : NodeTree.disguised.Valid .builtin := by
    rcases Network.resolve_cases .builtin .disguised .empty with
      ⟨_, _, -, hvalid, -⟩ | ⟨e, herror, -⟩
    · exact hvalid
    · rw [herror] at hsome
      cases hsome
  obtain ⟨network, names, hresolve, hsupply⟩ := hvalid .disguised .empty hdisguised
  refine ⟨hmul.substituted.trans (by decide), hscale.substituted.trans (by decide), network, names,
    hresolve, fun station hstation => ?_⟩
  obtain ⟨operands, hoperands, -⟩ := hsupply station hstation
  exact ⟨operands, hoperands,
    hplain .builtin .disguised .empty network names hresolve station hstation operands hoperands⟩

end SceneEngine.Shading
