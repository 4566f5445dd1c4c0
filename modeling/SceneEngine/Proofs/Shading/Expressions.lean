import SceneEngine.Proofs.Shading.Mentions
import SceneEngine.Shading.Nodes.Arithmetic

/-!
# Expressions

The code of a node is made from texts: templates with placeholders for operands, conversions that
wrap an operand, and constants.  Which names the resulting text contains is a question about its
characters, since a name can be hidden where two texts meet.  This module answers it, and shows that
filling a template is a substitution.

## Operands

What may be filled into a template is an operand (`IsOperand`): its identifiers are known names, and
it contains no dollar sign, with which placeholders begin.  Operands can be put between texts that
have no names of their own, provided that they are kept apart: a digit or a letter next to an
operand would extend its first or last identifier.

## Conversions and constants

The names in a converted expression are those of the expression (`IsOperand.convert`), whatever the
two types are: conversions select components, average them and apply constructors, and none of these
reads a name.  The constant of an authored value has no names at all (`isOperand_literal`).  Written
numbers consist of digits, points, signs and the letter of an exponent, which follows a digit and so
begins no identifier.

## Templates

A template is taken apart at its placeholders (`Nodes.frame`), and `Nodes.plug` puts operands into
all places at once.  The program fills one mark after another, each time in the text that the
previous step left (`fillMark`).  Since no operand contains a dollar sign, an operand that has been
filled in is not taken for a placeholder, and the marks are different; so filling one after another
is the same as filling all at once (`Nodes.fill_eq_plug`).  The names of a filled template are those
of its operands (`Nodes.reads_fill`), if the template keeps them apart (`Nodes.isTemplate`), which
is decided for each template of the program.
-/

namespace SceneEngine.Shading

open Identifier

variable {known : String → Prop} {s t expr : String}

/-! ## Operands -/

/-- What can be filled into a template: its names are known, and there is no placeholder. -/
structure IsOperand (known : String → Prop) (expr : String) : Prop where
  /-- Its names are known, -/
  reads : Reads known expr
  /-- and it has no placeholders. -/
  plain : '$' ∉ expr.toList

/-- Whether a text has no names that have to be declared, and no placeholders. -/
def isPlain (text : String) : Bool := isForeign text && !text.toList.contains '$'

namespace IsOperand

lemma of_isName (hs : IsName s) (hknown : known s) : IsOperand known s :=
  ⟨.of_isName hs hknown, fun hdollar => absurd (hs.isNameChar _ hdollar) (by decide)⟩

lemma of_variable (hs : IsVariable s) (hknown : known s) : IsOperand known s :=
  .of_isName hs.isName hknown

lemma mono {known' : String → Prop} (h : IsOperand known s) (hknown : ∀ x, known x → known' x) :
    IsOperand known' s :=
  ⟨h.reads.mono hknown, h.plain⟩

lemma of_isPlain (h : isPlain s = true) : IsOperand known s := by
  obtain ⟨hforeign, hplain⟩ := Bool.and_eq_true_iff.mp h
  exact ⟨.of_isForeign hforeign, by simpa using hplain⟩

/-- Two operands make one, if the names at the seam cannot run together. -/
lemma append (h : IsOperand known s) (h' : IsOperand known t)
    (hsep : isOpen s = true ∨ isClosed t = true) : IsOperand known (s ++ t) := by
  refine ⟨h.reads.append h'.reads hsep, ?_⟩
  rw [String.toList_append, List.mem_append]
  exact not_or.mpr ⟨h.plain, h'.plain⟩

/-- Operands with a separator between them make one. -/
lemma intercalate {sep : String} {texts : List String} (hsep : separates sep [sep] = true)
    (hne : sep ≠ "") (hplain : '$' ∉ sep.toList) (h : ∀ text ∈ texts, IsOperand known text) :
    IsOperand known (sep.intercalate texts) := by
  refine ⟨reads_intercalate hsep hne fun text htext => (h text htext).reads, ?_⟩
  induction texts with
  | nil => exact List.not_mem_nil
  | cons text texts ih =>
    obtain ⟨htext, htexts⟩ := List.forall_mem_cons.mp h
    cases texts with
    | nil => simpa using htext.plain
    | cons next texts =>
      rw [String.intercalate_cons_cons, String.toList_append, String.toList_append]
      simp only [List.mem_append, not_or]
      exact ⟨⟨htext.plain, hplain⟩, ih htexts⟩

end IsOperand

/-! ## Conversions -/

/-- An operand may be put between texts without names. -/
lemma IsOperand.between {first last : String} (h : IsOperand known expr)
    (hfirst : (isPlain first && isOpen first) = true)
    (hlast : (isPlain last && isClosed last) = true) :
    IsOperand known (first ++ expr ++ last) := by
  obtain ⟨hfirst, hopen⟩ := Bool.and_eq_true_iff.mp hfirst
  obtain ⟨hlast, hclosed⟩ := Bool.and_eq_true_iff.mp hlast
  exact ((IsOperand.of_isPlain hfirst).append h (.inl hopen)).append (.of_isPlain hlast)
    (.inr hclosed)

lemma isPlain_glsl (type : SocketType) :
    (isPlain (type.glsl ++ "(") && isOpen (type.glsl ++ "(")) = true := by
  cases type with
  | _ => decide

/-- The mean of the components of an operand. -/
lemma IsOperand.average {n : Nat} (h : IsOperand known expr) :
    IsOperand known (SocketType.average n expr) := by
  have haccessors : ∀ c ∈ SocketType.accessors,
      (isPlain ("." ++ c) && isClosed ("." ++ c)) = true := by
    decide
  have hcounts : ∀ n ≤ 3, (isPlain (") / " ++ (toString n ++ ".0)")) &&
      isClosed (") / " ++ (toString n ++ ".0)"))) = true := by
    decide
  have hsum : IsOperand known (" + ".intercalate
      ((SocketType.accessors.take (min n 3)).map fun c => expr ++ "." ++ c)) := by
    refine .intercalate (by decide) (by decide) (by decide) fun text htext => ?_
    obtain ⟨c, hc, rfl⟩ := List.mem_map.mp htext
    have hbetween := h.between (show (isPlain "" && isOpen "") = true by decide)
      (haccessors c (List.mem_of_mem_take hc))
    rwa [String.empty_append, ← String.append_assoc] at hbetween
  have hbetween := hsum.between (show (isPlain "((" && isOpen "((") = true by decide)
    (hcounts (min n 3) (Nat.min_le_right n 3))
  simpa only [SocketType.average, String.append_assoc] using hbetween

lemma IsOperand.constructor (target : SocketType) (h : IsOperand known expr) :
    IsOperand known (target.glsl ++ "(" ++ expr ++ ")") :=
  h.between (isPlain_glsl target) (by decide)

lemma IsOperand.scalarAsFloat (source : SocketType) (h : IsOperand known expr) :
    IsOperand known (source.scalarAsFloat expr) := by
  unfold SocketType.scalarAsFloat
  split
  · exact h.between (by decide) (by decide +kernel)
  · exact h.constructor .float

/-- Components are dropped, or missing ones filled up. -/
lemma IsOperand.resize {target : SocketType} {n m : Nat} (hm : target.width? = some m)
    (h : IsOperand known expr) : IsOperand known (SocketType.resize n m target expr) := by
  have hcut : ∀ m ≤ 4, (isPlain ("." ++ String.join (SocketType.accessors.take m)) &&
      isClosed ("." ++ String.join (SocketType.accessors.take m))) = true := by
    decide
  have hpadded : ∀ m ≤ 4, ∀ n ≤ m,
      (isPlain (", " ++ (", ".intercalate ((SocketType.padding.take m).drop n) ++ ")")) &&
        isClosed (", " ++ (", ".intercalate ((SocketType.padding.take m).drop n) ++ ")"))) =
          true := by
    decide
  have hwidth : m ≤ 4 := by
    cases target with
    | bool | int | float => cases hm
    | vec2 | vec3 | vec4 =>
      cases hm
      decide
  rw [SocketType.resize]
  split
  · have hbetween := h.between (show (isPlain "" && isOpen "") = true by decide) (hcut m hwidth)
    rwa [String.empty_append, ← String.append_assoc] at hbetween
  next hle =>
    have hbetween := h.between (isPlain_glsl target) (hpadded m hwidth n (Nat.le_of_not_lt hle))
    simpa only [String.append_assoc] using hbetween

/-- Converting brings in no names and no placeholders. -/
lemma IsOperand.convert {source target : SocketType} {expr' : String} (h : IsOperand known expr)
    (hconvert : source.convert? expr target = some expr') : IsOperand known expr' := by
  unfold SocketType.convert? at hconvert
  -- the cases are those of the definition: equal types, to a vector, to a scalar, between scalars
  split at hconvert
  · cases hconvert
    exact h
  · split at hconvert
    next hm =>
      cases hconvert
      exact h.resize hm
    · cases hconvert
      split
      · exact h.constructor target
      · exact (h.scalarAsFloat source).constructor target
    · split at hconvert
      · cases hconvert
        exact h.average
      · cases hconvert
    · split at hconvert
      · cases hconvert
        exact h.scalarAsFloat .int
      · cases hconvert
        exact h.scalarAsFloat .bool
      · cases hconvert
        exact h.between (by decide) (by decide +kernel)
      · cases hconvert

/-! ## Constants -/

/-- Whether a character stands in written numbers. -/
def isDecimalChar (c : Char) : Bool := c.isDigit || ['.', 'e', '-'].contains c

/-- A written number has no names and no placeholders. -/
lemma IsOperand.of_decimal (h : ∀ c ∈ s.toList, isDecimalChar c = true) : IsOperand known s := by
  have hletters : ['n', 'a', 't', 'u', 'v', '$'].any isDecimalChar = false := by decide
  rw [List.any_eq_false] at hletters
  refine ⟨.of_notMem fun c hc hmem => ?_, fun hdollar => ?_⟩
  · exact hletters c (List.mem_append_left ['$'] hc) (h c hmem)
  · exact hletters '$' (by decide) (h _ hdollar)

lemma isDecimalChar_of_toDigits (n : Nat) : ∀ c ∈ Nat.toDigits 10 n, isDecimalChar c = true := by
  intro c hc
  rw [isDecimalChar, Nat.isDigit_of_mem_toDigits (by decide) (by decide) hc, Bool.true_or]

lemma isDecimalChar_of_toString (i : Int) : ∀ c ∈ (toString i).toList, isDecimalChar c = true := by
  cases i with
  | ofNat n =>
    have hlist : (toString (Int.ofNat n)).toList = Nat.toDigits 10 n := Nat.toList_repr
    rw [hlist]
    exact isDecimalChar_of_toDigits n
  | negSucc n =>
    have hsign : toString (Int.negSucc n) = "-" ++ (n + 1).repr := rfl
    rw [hsign, String.toList_append, Nat.toList_repr, List.forall_mem_append]
    exact ⟨List.all_eq_true.mp (by decide), isDecimalChar_of_toDigits (n + 1)⟩

/-- The digits of a number with a point among them, and zeros where there are no digits. -/
lemma isDecimalChar_of_positional {digits : List Char} (point : Int)
    (hdigits : ∀ c ∈ digits, isDecimalChar c = true) :
    ∀ c ∈ Decimal.positional digits point, isDecimalChar c = true := by
  have hzeros : ∀ n, ∀ c ∈ List.replicate n '0', isDecimalChar c = true := by
    intro n c hc
    rw [List.eq_of_mem_replicate hc]
    decide
  rw [Decimal.positional]
  split
  · simp only [List.forall_mem_append]
    exact ⟨⟨List.all_eq_true.mp (by decide), hzeros _⟩, hdigits⟩
  · split
    · simp only [List.forall_mem_append]
      exact ⟨⟨fun c hc => hdigits c (List.mem_of_mem_take hc), List.all_eq_true.mp (by decide)⟩,
        fun c hc => hdigits c (List.mem_of_mem_drop hc)⟩
    · simp only [List.forall_mem_append]
      exact ⟨⟨hdigits, hzeros _⟩, List.all_eq_true.mp (by decide)⟩

/-- The digits of a number with an exponent. -/
lemma isDecimalChar_of_scientific {digits : List Char} (point : Int)
    (hdigits : ∀ c ∈ digits, isDecimalChar c = true) :
    ∀ c ∈ Decimal.scientific [] digits point, isDecimalChar c = true := by
  have hfraction : ∀ c ∈ digits.drop 1, isDecimalChar c = true :=
    fun c hc => hdigits c (List.mem_of_mem_drop hc)
  simp only [Decimal.scientific, ite_self, List.append_nil, List.forall_mem_append]
  refine ⟨⟨⟨fun c hc => hdigits c (List.mem_of_mem_take hc), ?_⟩, List.all_eq_true.mp (by decide)⟩,
    isDecimalChar_of_toString (point - 1)⟩
  split
  · exact fun c hc => absurd hc List.not_mem_nil
  · exact List.forall_mem_cons.mpr ⟨by decide, hfraction⟩

/-- The text of a number is a word or consists of digits and marks. -/
lemma isOperand_plainText (x : Float) : IsOperand known (Decimal.plainText x) := by
  rw [Decimal.plainText]
  cases Decimal.Reading.ofFloat x with
  | notANumber => exact .of_isPlain (by decide)
  | infinite negative =>
    cases negative with
    | false => exact .of_isPlain (by decide)
    | true => exact .of_isPlain (by decide)
  | finite negative b =>
    refine .of_decimal ?_
    have hbody : ∀ c ∈ (if b.mantissa = 0 then ['0', '.', '0'] else Decimal.plain.magnitude b),
        isDecimalChar c = true := by
      split
      · exact List.all_eq_true.mp (by decide)
      · have hdigits : ∀ c ∈ (b.shortest Decimal.plain.tie).normalized.1,
            isDecimalChar c = true := by
          intro c hc
          rw [Decimal.Scaled.normalized, List.mem_reverse] at hc
          have hmem := (List.dropWhile_sublist _).subset hc
          exact isDecimalChar_of_toDigits _ c (List.mem_reverse.mp hmem)
        rw [Decimal.Layout.magnitude]
        dsimp only
        split
        · exact isDecimalChar_of_positional _ hdigits
        · exact isDecimalChar_of_scientific _ hdigits
    rw [Decimal.Layout.text, String.toList_ofList]
    split
    · exact List.forall_mem_cons.mpr ⟨by decide, hbody⟩
    · exact hbody

lemma isOperand_constant (x : Float) : IsOperand known (SocketType.constant x) :=
  isOperand_plainText _

lemma isOperand_of_mem_coordinates {n : Nat} {items : List Json} {parts : List String}
    (h : SocketType.coordinates? n items = some parts) : ∀ part ∈ parts, IsOperand known part := by
  rw [SocketType.coordinates?] at h
  generalize List.range n = indices at h
  induction indices generalizing parts with
  | nil =>
    cases h
    exact fun part hpart => absurd hpart List.not_mem_nil
  | cons i indices ih =>
    rw [List.mapM_cons] at h
    obtain ⟨first, hfirst, h⟩ := Option.bind_eq_some_iff.mp h
    obtain ⟨rest, hrest, h⟩ := Option.bind_eq_some_iff.mp h
    cases h
    refine List.forall_mem_cons.mpr ⟨?_, ih hrest⟩
    split at hfirst
    · obtain ⟨x, -, rfl⟩ := Option.map_eq_some_iff.mp hfirst
      exact isOperand_constant x
    · have hpadding : ∀ part ∈ SocketType.padding, isPlain part = true := by decide
      exact .of_isPlain (hpadding first (List.mem_of_getElem? hfirst))

/-- The constant of an authored value has no names and no placeholders. -/
lemma isOperand_literal {type : SocketType} {value : Json} (h : type.literal? value = some expr) :
    IsOperand known expr := by
  have hword : ∀ (b : Prop) [Decidable b] (yes no : String), isPlain yes = true →
      isPlain no = true → IsOperand known (if b then yes else no) := by
    intro b _ yes no hyes hno
    split
    · exact .of_isPlain hyes
    · exact .of_isPlain hno
  unfold SocketType.literal? at h
  split at h
  · cases h
    exact hword _ _ _ (by decide) (by decide +kernel)
  · cases h
    exact hword _ _ _ (by decide) (by decide +kernel)
  · cases h
    exact hword _ _ _ (by decide) (by decide +kernel)
  · obtain ⟨n, -, h⟩ := Option.bind_eq_some_iff.mp h
    obtain ⟨parts, hparts, h⟩ := Option.bind_eq_some_iff.mp h
    cases h
    refine .constructor type (.intercalate (by decide) (by decide) (by decide) ?_)
    exact isOperand_of_mem_coordinates hparts
  · obtain ⟨x, -, rfl⟩ := Option.map_eq_some_iff.mp h
    exact hword _ _ _ (by decide) (by decide +kernel)
  · obtain ⟨x, -, rfl⟩ := Option.map_eq_some_iff.mp h
    exact .of_decimal (isDecimalChar_of_toString _)
  · obtain ⟨x, -, rfl⟩ := Option.map_eq_some_iff.mp h
    exact isOperand_constant x
  · obtain ⟨x, -, rfl⟩ := Option.map_eq_some_iff.mp h
    exact (isOperand_constant x).constructor type

/-! ## Templates -/

namespace Nodes

/-- A template taken apart: the text before its first placeholder, and every placeholder's mark with
the text behind it. -/
def frame : List Char → List Char × List (Char × List Char)
  | [] => ([], [])
  | '$' :: mark :: cs => ([], (mark, (frame cs).1) :: (frame cs).2)
  | c :: cs => (c :: (frame cs).1, (frame cs).2)

/-- Puts operands in the places of the marks, all at once. -/
def plug (operand : Char → List Char) (first : List Char) (gaps : List (Char × List Char)) :
    List Char :=
  first ++ gaps.flatMap fun gap => operand gap.1 ++ gap.2

variable {operand : Char → List Char} {mark : Char} {new first cs ds : List Char}
  {gaps : List (Char × List Char)}

/-- With the placeholders themselves as operands a template is what it was. -/
lemma plug_frame (cs : List Char) :
    plug (fun mark => ['$', mark]) (frame cs).1 (frame cs).2 = cs := by
  induction cs using frame.induct with
  | case1 => rfl
  | case2 mark cs ih => simpa [frame, plug] using ih
  | case3 c cs hc ih => simpa [frame, plug] using ih

lemma fillMark_cons {c : Char} (hc : c ≠ '$') :
    fillMark mark new (c :: cs) = c :: fillMark mark new cs := by
  rw [fillMark]
  exact fun _ _ hdollar _ => hc hdollar

/-- Text without a dollar sign has no placeholder. -/
lemma fillMark_append (h : '$' ∉ cs) :
    fillMark mark new (cs ++ ds) = cs ++ fillMark mark new ds := by
  induction cs with
  | nil => rfl
  | cons c cs ih =>
    obtain ⟨hc, hcs⟩ := not_or.mp (mt List.mem_cons.mpr h)
    rw [List.cons_append, List.cons_append, fillMark_cons (Ne.symm hc), ih hcs]

/-- A placeholder is filled if it has the mark, and otherwise left. -/
lemma fillMark_placeholder {m : Char} (hm : m ≠ '$') :
    fillMark mark new ('$' :: m :: cs) =
      (if m = mark then new else ['$', m]) ++ fillMark mark new cs := by
  rw [fillMark]
  split
  · rfl
  · rw [fillMark_cons hm]
    rfl

/-- Filling a mark that no operand has been put in the places of.  The operands so far are either
the placeholders themselves or texts without a dollar sign. -/
lemma fillMark_plug (hfirst : '$' ∉ first) (hgaps : ∀ gap ∈ gaps, gap.1 ≠ '$' ∧ '$' ∉ gap.2)
    (hoperand : ∀ m, operand m = ['$', m] ∨ '$' ∉ operand m) (hmark : operand mark = ['$', mark]) :
    fillMark mark new (plug operand first gaps) =
      plug (fun m => if m = mark then new else operand m) first gaps := by
  rw [plug, plug, fillMark_append hfirst]
  congr 1
  induction gaps with
  | nil => rfl
  | cons gap gaps ih =>
    obtain ⟨m, text⟩ := gap
    obtain ⟨⟨hm, htext⟩, hgaps⟩ := List.forall_mem_cons.mp hgaps
    rw [List.flatMap_cons, List.flatMap_cons, ← ih hgaps, List.append_assoc, List.append_assoc,
      ← fillMark_append htext]
    rcases hoperand m with hhole | hfilled
    · rw [hhole]
      exact fillMark_placeholder hm
    · have hne : m ≠ mark := by
        rintro rfl
        exact hfilled (hmark ▸ List.mem_cons_self)
      rw [if_neg hne, fillMark_append hfilled]

/-- The operand for a mark; the placeholder itself when there is none. -/
def operandAt (operands : List (Char × String)) (mark : Char) : List Char :=
  ((operands.find? (·.1 == mark)).map (·.2.toList)).getD ['$', mark]

/-- Filling the remaining operands, after some have been filled: the two lists together are the
operands of the whole substitution. -/
lemma foldl_fillMark_plug (done : List (Char × String)) {operands : List (Char × String)}
    (hfirst : '$' ∉ first)
    (hgaps : ∀ gap ∈ gaps, gap.1 ≠ '$' ∧ '$' ∉ gap.2)
    (hplain : ∀ operand ∈ done ++ operands, '$' ∉ operand.2.toList)
    (hnodup : ((done ++ operands).map Prod.fst).Nodup) :
    operands.foldl (fun cs (mark, operand) => fillMark mark operand.toList cs)
        (plug (operandAt done) first gaps) =
      plug (operandAt (done ++ operands)) first gaps := by
  induction operands generalizing done with
  | nil => rw [List.append_nil, List.foldl_nil]
  | cons operand operands ih =>
    obtain ⟨mark, new⟩ := operand
    have hsplit : done ++ (mark, new) :: operands = done ++ [(mark, new)] ++ operands := by simp
    -- the mark is still a hole, because the marks of all operands are different
    have hnew : ∀ entry ∈ done, entry.1 ≠ mark := by
      intro entry hentry heq
      rw [List.map_append, List.nodup_append] at hnodup
      exact hnodup.2.2 entry.1 (List.mem_map_of_mem hentry) mark List.mem_cons_self heq
    have hnone : done.find? (·.1 == mark) = none :=
      List.find?_eq_none.mpr fun entry hentry => by simpa using hnew entry hentry
    have hnext : (fun m => if m = mark then new.toList else operandAt done m) =
        operandAt (done ++ [(mark, new)]) := by
      funext m
      rw [operandAt, operandAt, List.find?_append]
      by_cases hm : m = mark
      · subst hm
        simp [hnone]
      · have hother : [(mark, new)].find? (·.1 == m) = none := by simp [Ne.symm hm]
        rw [if_neg hm, hother, Option.or_none]
    have hoperand : ∀ m, operandAt done m = ['$', m] ∨ '$' ∉ operandAt done m := by
      intro m
      rw [operandAt]
      cases hfound : done.find? (·.1 == m) with
      | none => exact .inl rfl
      | some entry =>
        have hentry := List.mem_of_find?_eq_some hfound
        exact .inr (hplain entry (List.mem_append_left _ hentry))
    have hhole : operandAt done mark = ['$', mark] := by rw [operandAt, hnone]; rfl
    rw [List.foldl_cons, hsplit]
    dsimp only
    rw [fillMark_plug hfirst hgaps hoperand hhole, hnext]
    exact ih (done ++ [(mark, new)]) (hsplit ▸ hplain) (hsplit ▸ hnodup)

lemma marks_eq_take (operands : List String) :
    (operandMarks.zip operands).map Prod.fst = operandMarks.take operands.length := by
  generalize operandMarks = marks
  induction marks generalizing operands with
  | nil => simp
  | cons mark marks ih =>
    cases operands with
    | nil => rfl
    | cons operand operands => simp [ih]

/-- Filling the operands one after another substitutes all of them at once. -/
theorem fill_eq_plug {template : String} {operands : List String}
    (hfirst : '$' ∉ (frame template.toList).1)
    (hgaps : ∀ gap ∈ (frame template.toList).2, gap.1 ≠ '$' ∧ '$' ∉ gap.2)
    (hplain : ∀ operand ∈ operands, '$' ∉ operand.toList) :
    (fill template operands).toList =
      plug (operandAt (operandMarks.zip operands)) (frame template.toList).1
        (frame template.toList).2 := by
  have hnodup : ((operandMarks.zip operands).map Prod.fst).Nodup := by
    rw [marks_eq_take]
    exact (show operandMarks.Nodup by decide).sublist (List.take_sublist _ _)
  have hoperands : ∀ entry ∈ operandMarks.zip operands, '$' ∉ entry.2.toList :=
    fun entry hentry => hplain entry.2 (List.of_mem_zip hentry).2
  have hfold := foldl_fillMark_plug [] hfirst hgaps hoperands hnodup
  have hstart : plug (operandAt []) (frame template.toList).1 (frame template.toList).2 =
      template.toList := plug_frame template.toList
  rw [hstart] at hfold
  rw [fill, String.toList_ofList]
  exact hfold

/-- Whether a template asks for operands with the given marks only, and keeps them apart from each
other and from its own words. -/
def isTemplate (marks : List Char) (template : String) : Bool :=
  let (first, gaps) := frame template.toList
  !first.contains '$' && gaps.all (fun gap => marks.contains gap.1 && !gap.2.contains '$') &&
    separatesAt first (gaps.map Prod.snd)

lemma isTemplate_ofList (marks cs : List Char) :
    isTemplate marks (String.ofList cs) =
      (!(frame cs).1.contains '$' &&
        (frame cs).2.all (fun gap => marks.contains gap.1 && !gap.2.contains '$') &&
        separatesAt (frame cs).1 ((frame cs).2.map Prod.snd)) := by
  rw [isTemplate, String.toList_ofList]

/-- The names in a filled template are those of its operands.  The text between the operands begins
and ends so that no name of an operand is extended, and its own words are those of the language. -/
theorem reads_fill {template : String} {operands : List String}
    (htemplate : isTemplate (operandMarks.take operands.length) template = true)
    (hoperands : ∀ operand ∈ operands, IsOperand known operand) :
    Reads known (fill template operands) := by
  simp only [isTemplate, Bool.and_eq_true, Bool.not_eq_true', List.all_eq_true] at htemplate
  obtain ⟨⟨hfirst, hgaps⟩, hseparates⟩ := htemplate
  have hmark : ∀ gap ∈ (frame template.toList).2,
      gap.1 ∈ (operandMarks.zip operands).map Prod.fst ∧ gap.1 ≠ '$' ∧ '$' ∉ gap.2 := by
    intro gap hgap
    obtain ⟨hmem, hplain⟩ := hgaps gap hgap
    rw [List.contains_iff_mem] at hmem
    have hdollar : '$' ∉ operandMarks := by decide
    rw [marks_eq_take]
    refine ⟨hmem, fun heq => hdollar (heq ▸ List.mem_of_mem_take hmem), by simpa using hplain⟩
  have hfill := fill_eq_plug (by simpa using hfirst) (fun gap hgap => (hmark gap hgap).2)
    (fun operand hoperand => (hoperands operand hoperand).plain)
  let gaps := (frame template.toList).2.map fun gap =>
    (String.ofList (operandAt (operandMarks.zip operands) gap.1), String.ofList gap.2)
  have hweave : fill template operands = weave (String.ofList (frame template.toList).1) gaps := by
    rw [← String.toList_inj, hfill, toList_weave, plug, List.flatMap_map]
    simp only [String.toList_ofList]
  have htexts : separates (String.ofList (frame template.toList).1) (gaps.map Prod.snd) = true := by
    rw [separates, String.toList_ofList, List.map_map, List.map_map]
    simpa only [Function.comp_def, String.toList_ofList] using hseparates
  rw [hweave]
  refine reads_weave _ gaps htexts fun gap hgap => ?_
  obtain ⟨⟨mark, text⟩, hmem, rfl⟩ := List.mem_map.mp hgap
  obtain ⟨⟨mark', operand⟩, hentry, rfl⟩ := List.mem_map.mp (hmark _ hmem).1
  have hfound : ((operandMarks.zip operands).find? (·.1 == mark')).isSome = true :=
    List.find?_isSome.mpr ⟨_, hentry, beq_self_eq_true _⟩
  obtain ⟨found, hfound⟩ := Option.isSome_iff_exists.mp hfound
  have hmem := (List.of_mem_zip (List.mem_of_find?_eq_some hfound)).2
  simpa [operandAt, hfound] using (hoperands found.2 hmem).reads

end Nodes

end SceneEngine.Shading
