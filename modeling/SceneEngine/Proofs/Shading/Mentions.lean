import SceneEngine.Proofs.Shading.Names
import SceneEngine.Shading.Uniform

/-!
# Names in a text

A program is a text, and what a theorem says about its variables has to be said about the text.
This module fixes what it means that a name occurs, and provides the calculus with which the
occurrences in an expression are found from the way it was put together.

## Identifiers

The identifiers of a text are its maximal runs of name characters that do not start with a digit
(`identifiers`); a run that does belongs to a number.  Joining texts joins their identifiers, as
long as two runs do not meet (`identifiers_append`): one of the texts has to be open or closed at
the seam, that is, end or begin with a character that stands in no name.

## Forms of names

What kind of name an identifier is can be told from its form.  Variables of the code start with the
letter `n`, attributes with `a_`, samplers with `tex`, passed attributes with `v_`, and the
remaining parameters and passed values are in two short lists.  The forms exclude each other, since
they differ in the first letter or are listed.  Any other identifier is a word of the shading
language or the name of a library function and needs no declaration; names of the listed forms do,
and are traced (`isTraced`).

## Known names

`Reads` says that the traced names in a text are all known, and is the property that is carried
through the construction of code.  A fixed text is foreign when no name in it has to be declared,
which is decided.  `weave` is a text with expressions in its gaps; its names are those in the
expressions, if the fixed parts are foreign and keep the expressions apart (`reads_weave`).
-/

namespace SceneEngine.Shading

open Identifier

/-! ## Identifiers -/

/-- Whether a run of name characters is an identifier; one that starts with a digit belongs to a
number, like the exponent of one. -/
def isIdentifier (run : List Char) : Bool := run.head?.any fun c => !c.isDigit

/-- The identifiers among characters, in the order of their occurrence. -/
def runs (cs : List Char) : List (List Char) :=
  (cs.splitOnP fun c => !isNameChar c).filter isIdentifier

/-- The identifiers in a text. -/
def identifiers (text : String) : List String := (runs text.toList).map String.ofList

example : identifiers "vec3(n_a_x, 1e-5, n_b2)" = ["vec3", "n_a_x", "n_b2"] := by decide

/-- Whether nothing before the end of characters can run on into what follows. -/
def isOpenAt (cs : List Char) : Bool := cs.getLast?.all fun c => !isNameChar c

/-- Whether nothing can run on from before characters into their start. -/
def isClosedAt (cs : List Char) : Bool := cs.head?.all fun c => !isNameChar c

/-- Whether nothing before the end of a text can run on into what follows, so that it may be
followed by anything. -/
def isOpen (text : String) : Bool := isOpenAt text.toList

/-- Whether nothing can run on from before a text into its start, so that it may follow anything. -/
def isClosed (text : String) : Bool := isClosedAt text.toList

variable {s t x : String} {known known' : String → Prop}

/-- A character that stands in no name separates the identifiers on both sides. -/
lemma identifiers_append_cons {cs ds : List Char} {c : Char} (hs : s.toList = cs ++ c :: ds)
    (hc : isNameChar c = false) :
    identifiers s = identifiers (String.ofList cs) ++ identifiers (String.ofList ds) := by
  have hsep : (!isNameChar c) = true := by rw [hc]; rfl
  simp only [identifiers, runs, hs, String.toList_ofList]
  rw [List.splitOnP_append_cons cs ds hsep, List.filter_append, List.map_append]

@[simp] lemma identifiers_empty : identifiers "" = [] := rfl

/-- Where two runs do not meet, joining texts joins their identifiers. -/
lemma identifiers_append (h : isOpen s = true ∨ isClosed t = true) :
    identifiers (s ++ t) = identifiers s ++ identifiers t := by
  -- the character at the seam that stands in no name belongs to the first text or to the second
  rcases h with h | h
  · rcases List.eq_nil_or_concat s.toList with hs | ⟨cs, c, hs⟩
    · have hempty : s = "" := String.toList_inj.mp hs
      rw [hempty, String.empty_append, identifiers_empty, List.nil_append]
    · rw [List.concat_eq_append] at hs
      have hc : isNameChar c = false := by simpa [isOpen, isOpenAt, hs] using h
      have hst : (s ++ t).toList = cs ++ c :: t.toList := by simp [hs]
      rw [identifiers_append_cons hst hc, identifiers_append_cons hs hc, String.ofList_toList]
      simp
  · cases ht : t.toList with
    | nil =>
      have hempty : t = "" := String.toList_inj.mp ht
      rw [hempty, String.append_empty, identifiers_empty, List.append_nil]
    | cons c ds =>
      have hc : isNameChar c = false := by simpa [isClosed, isClosedAt, ht] using h
      have hst : (s ++ t).toList = s.toList ++ c :: ds := by simp [ht]
      have ht' : t.toList = [] ++ c :: ds := ht
      rw [identifiers_append_cons hst hc, identifiers_append_cons ht' hc, String.ofList_toList]
      simp

/-- How a joined text starts depends on its first part alone, unless that is empty. -/
lemma isClosed_append (h : s ≠ "") : isClosed (s ++ t) = isClosed s := by
  have hs : s.toList ≠ [] := by simpa using h
  rw [isClosed, isClosedAt, String.toList_append, List.head?_append_of_ne_nil _ hs]
  rfl

lemma isOpen_append (h : isOpen t = true) (hne : t ≠ "") : isOpen (s ++ t) = true := by
  have ht : t.toList ≠ [] := by simpa using hne
  rw [isOpen, isOpenAt, String.toList_append, List.getLast?_append_of_ne_nil _ ht]
  exact h

/-- A text that is a single identifier. -/
structure IsName (name : String) : Prop where
  /-- All characters can stand in names, -/
  isNameChar : ∀ c ∈ name.toList, isNameChar c = true
  /-- and the first one is no digit. -/
  isIdentifier : isIdentifier name.toList = true

/-- Whether a text is a single identifier. -/
def isNameText (text : String) : Bool := text.toList.all isNameChar && isIdentifier text.toList

lemma isName_iff : IsName x ↔ isNameText x = true := by
  rw [isNameText, Bool.and_eq_true, List.all_eq_true]
  exact ⟨fun h => ⟨h.isNameChar, h.isIdentifier⟩, fun h => ⟨h.1, h.2⟩⟩

instance (name : String) : Decidable (IsName name) := decidable_of_iff' _ isName_iff

/-- A name is its own only identifier. -/
lemma IsName.identifiers_eq (h : IsName s) : identifiers s = [s] := by
  have hrun : s.toList.splitOnP (fun c => !Identifier.isNameChar c) = [s.toList] :=
    List.splitOnP_eq_singleton fun c hc => by rw [h.isNameChar c hc]; rfl
  rw [identifiers, runs, hrun]
  simp [h.isIdentifier]

lemma mem_of_mem_splitOnP {p : Char → Bool} {cs run : List Char} {c : Char}
    (hrun : run ∈ cs.splitOnP p) (hc : c ∈ run) : c ∈ cs := by
  induction cs generalizing run with
  | nil =>
    rw [List.splitOnP_nil, List.mem_singleton] at hrun
    rwa [hrun] at hc
  | cons d cs ih =>
    rw [List.splitOnP_cons_eq_if_modifyHead] at hrun
    split at hrun
    · rcases List.mem_cons.mp hrun with rfl | hrun
      · cases hc
      · exact List.mem_cons_of_mem d (ih hrun hc)
    · cases hruns : cs.splitOnP p with
      | nil => exact absurd hruns (List.splitOnP_ne_nil p cs)
      | cons first runs =>
        rw [hruns, List.modifyHead_cons] at hrun
        rcases List.mem_cons.mp hrun with rfl | hrun
        · rcases List.mem_cons.mp hc with rfl | hc
          · exact List.mem_cons_self
          · exact List.mem_cons_of_mem d (ih (hruns ▸ List.mem_cons_self) hc)
        · exact List.mem_cons_of_mem d (ih (hruns ▸ List.mem_cons_of_mem _ hrun) hc)

/-- The characters of an identifier stand in the text. -/
lemma mem_toList_of_mem_identifiers {c : Char} (hx : x ∈ identifiers s) (hc : c ∈ x.toList) :
    c ∈ s.toList := by
  obtain ⟨run, hrun, rfl⟩ := List.mem_map.mp hx
  rw [String.toList_ofList] at hc
  exact mem_of_mem_splitOnP (List.mem_filter.mp hrun).1 hc

/-- A variable is a single identifier. -/
lemma Identifier.IsVariable.isName (hx : IsVariable x) : IsName x := by
  refine ⟨fun c hc => hx.tidy.isNameChar_of_mem hc, ?_⟩
  rw [isIdentifier, head?_of_isNamedAfter hx.named rfl]
  rfl

/-! ## Forms of names -/

/-- Whether characters have the form of the name of an attribute. -/
def hasAttributeForm (cs : List Char) : Bool := ['a', '_'].isPrefixOf cs

/-- The parameters that the hooks refresh. -/
def frameParameters : List String :=
  [timeUniform, frameUniform, cameraPositionUniform, cameraDirectionUniform, objectLocationUniform]

/-- Whether characters have the form of the name of a parameter: one that a hook refreshes, or the
sampler of an image. -/
def hasParameterForm (cs : List Char) : Bool :=
  cs == ['t', 'e', 'x'] || ['t', 'e', 'x', '_'].isPrefixOf cs ||
    frameParameters.any fun name => name.toList == cs

/-- The values about the surface that pass between the stages, and what they are assigned from. -/
def surfaceValues : List (String × String) :=
  [("vUv", "uv"), ("vPosition", "position"), ("vNormal", "normalize(mat3(modelMatrix) * normal)"),
   ("vWorldPosition", "worldPosition.xyz")]

/-- Whether characters have the form of the name of a value that passes between the stages: one
about the surface, or an attribute. -/
def hasPassedForm (cs : List Char) : Bool :=
  ['v', '_'].isPrefixOf cs || surfaceValues.any fun entry => entry.1.toList == cs

/-- Whether characters have the form of a name that a program declares ahead of its code. -/
def hasGlobalForm (cs : List Char) : Bool :=
  hasAttributeForm cs || hasParameterForm cs || hasPassedForm cs

/-- Whether a name has the form of that of an attribute. -/
def isAttribute (name : String) : Bool := hasAttributeForm name.toList

/-- Whether a name has the form of that of a parameter. -/
def isParameter (name : String) : Bool := hasParameterForm name.toList

/-- Whether a name has the form of that of a value passed between the stages. -/
def isPassed (name : String) : Bool := hasPassedForm name.toList

/-- Whether a name has one of these forms. -/
def isGlobal (name : String) : Bool := hasGlobalForm name.toList

lemma isGlobal_iff :
    isGlobal x = true ↔ isAttribute x = true ∨ isParameter x = true ∨ isPassed x = true := by
  rw [isGlobal, hasGlobalForm, Bool.or_eq_true, Bool.or_eq_true, or_assoc]
  rfl

/-- The names of samplers have this form. -/
lemma isParameter_of_isNamedAfter (h : IsNamedAfter "tex" x) : isParameter x = true := by
  rw [isParameter, hasParameterForm]
  rcases h with rfl | ⟨cs, hx⟩
  · rfl
  · have hstart : ['t', 'e', 'x', '_'].isPrefixOf x.toList = true := by
      rw [hx]
      exact List.isPrefixOf_iff_prefix.mpr (List.prefix_append ['t', 'e', 'x', '_'] cs)
    rw [hstart, Bool.or_true, Bool.true_or]

section

variable {cs : List Char}

lemma head?_of_isPrefixOf {c : Char} {word : List Char} (h : (c :: word).isPrefixOf cs = true) :
    cs.head? = some c := by
  obtain ⟨rest, rfl⟩ := List.isPrefixOf_iff_prefix.mp h
  rfl

lemma head?_of_hasAttributeForm (h : hasAttributeForm cs = true) : cs.head? = some 'a' :=
  head?_of_isPrefixOf h

lemma head?_of_hasParameterForm (h : hasParameterForm cs = true) :
    cs.head? = some 't' ∨ cs.head? = some 'u' := by
  have hparameters : ∀ name ∈ frameParameters, name.toList.head? = some 'u' := by decide
  simp only [hasParameterForm, Bool.or_eq_true] at h
  rcases h with (h | h) | h
  · exact .inl (by rw [eq_of_beq h]; rfl)
  · exact .inl (head?_of_isPrefixOf h)
  · obtain ⟨name, hname, heq⟩ := List.any_eq_true.mp h
    exact .inr (eq_of_beq heq ▸ hparameters name hname)

lemma head?_of_hasPassedForm (h : hasPassedForm cs = true) : cs.head? = some 'v' := by
  have hvalues : ∀ entry ∈ surfaceValues, entry.1.toList.head? = some 'v' := by decide
  rcases Bool.or_eq_true_iff.mp h with h | h
  · exact head?_of_isPrefixOf h
  · obtain ⟨entry, hentry, heq⟩ := List.any_eq_true.mp h
    exact eq_of_beq heq ▸ hvalues entry hentry

/-- The first letters of names that are declared ahead of the code. -/
lemma head?_mem_of_hasGlobalForm (h : hasGlobalForm cs = true) :
    ∃ c ∈ ['a', 't', 'u', 'v'], cs.head? = some c := by
  simp only [hasGlobalForm, Bool.or_eq_true] at h
  rcases h with (h | h) | h
  · exact ⟨'a', by decide, head?_of_hasAttributeForm h⟩
  · rcases head?_of_hasParameterForm h with h | h
    · exact ⟨'t', by decide, h⟩
    · exact ⟨'u', by decide, h⟩
  · exact ⟨'v', by decide, head?_of_hasPassedForm h⟩

end

/-- No name has two of the forms. -/
lemma not_isParameter_of_isAttribute (h : isAttribute x = true) : ¬isParameter x = true := by
  intro hparameter
  have hhead := head?_of_hasAttributeForm h
  rcases head?_of_hasParameterForm hparameter with h' | h' <;>
    exact absurd (Option.some.inj (hhead.symm.trans h')) (by decide)

lemma not_isAttribute_of_isPassed (h : isPassed x = true) : ¬isAttribute x = true := fun h' =>
  absurd (Option.some.inj ((head?_of_hasPassedForm h).symm.trans (head?_of_hasAttributeForm h')))
    (by decide)

lemma not_isParameter_of_isPassed (h : isPassed x = true) : ¬isParameter x = true := by
  intro hparameter
  have hhead := head?_of_hasPassedForm h
  rcases head?_of_hasParameterForm hparameter with h' | h' <;>
    exact absurd (Option.some.inj (hhead.symm.trans h')) (by decide)

/-- What stands behind this prefix is an attribute. -/
lemma isAttribute_append (name : String) : isAttribute ("a_" ++ name) = true := by
  rw [isAttribute, String.toList_append]
  rfl

/-- Whether characters have the form of a name that has to be declared. -/
def hasTracedForm (cs : List Char) : Bool := hasLocalForm cs || hasGlobalForm cs

/-- Whether a name has this form. -/
def isTraced (name : String) : Bool := hasTracedForm name.toList

lemma isTraced_iff : isTraced x = true ↔ isLocal x = true ∨ isGlobal x = true :=
  Bool.or_eq_true_iff

/-- A variable has to be declared. -/
lemma Identifier.IsVariable.isTraced (hx : IsVariable x) : isTraced x = true :=
  isTraced_iff.mpr (.inl (isLocal_iff.mpr hx.named))

/-- A variable is not declared ahead of the code. -/
lemma Identifier.IsVariable.not_isGlobal (hx : IsVariable x) : ¬isGlobal x = true := by
  intro hglobal
  obtain ⟨c, hc, hhead⟩ := head?_mem_of_hasGlobalForm hglobal
  rw [head?_of_isNamedAfter hx.named rfl] at hhead
  rw [← Option.some.inj hhead] at hc
  exact absurd hc (by decide)

lemma head?_mem_of_isTraced (h : isTraced x = true) :
    ∃ c ∈ ['n', 'a', 't', 'u', 'v'], x.toList.head? = some c := by
  rcases isTraced_iff.mp h with hlocal | hglobal
  · exact ⟨'n', List.mem_cons_self, head?_of_isNamedAfter (isLocal_iff.mp hlocal) rfl⟩
  · obtain ⟨c, hc, hhead⟩ := head?_mem_of_hasGlobalForm hglobal
    exact ⟨c, List.mem_cons_of_mem _ hc, hhead⟩

/-! ## Known names -/

/-- The names in a text that have to be declared are all known. -/
def Reads (known : String → Prop) (text : String) : Prop :=
  ∀ x ∈ identifiers text, isTraced x = true → known x

/-- Whether no name among characters has to be declared. -/
def isForeignAt (cs : List Char) : Bool := (runs cs).all fun run => !hasTracedForm run

/-- Whether no name in a text has to be declared. -/
def isForeign (text : String) : Bool := isForeignAt text.toList

namespace Reads

/-- What is known remains known. -/
lemma mono (h : Reads known s) (hknown : ∀ x, known x → known' x) : Reads known' s :=
  fun x hx htraced => hknown x (h x hx htraced)

/-- A fixed text without such names reads none of them. -/
lemma of_isForeign (h : isForeign s = true) : Reads known s := by
  intro x hx htraced
  obtain ⟨run, hrun, rfl⟩ := List.mem_map.mp hx
  have hforeign := List.all_eq_true.mp h run hrun
  rw [isTraced, String.toList_ofList] at htraced
  rw [htraced] at hforeign
  cases hforeign

/-- Joined texts read what their parts read, if no names run together at the seam. -/
lemma append (h : Reads known s) (h' : Reads known t) (hsep : isOpen s = true ∨ isClosed t = true) :
    Reads known (s ++ t) := by
  intro x hx htraced
  rw [identifiers_append hsep] at hx
  rcases List.mem_append.mp hx with hx | hx
  · exact h x hx htraced
  · exact h' x hx htraced

lemma of_isName (hx : IsName x) (hknown : known x) : Reads known x := by
  intro y hy _
  rw [hx.identifiers_eq, List.mem_singleton] at hy
  exact hy ▸ hknown

lemma of_variable (hx : IsVariable x) (hknown : known x) : Reads known x :=
  .of_isName hx.isName hknown

/-- A text without the letters that such names start with reads none of them. -/
lemma of_notMem (h : ∀ c ∈ ['n', 'a', 't', 'u', 'v'], c ∉ s.toList) : Reads known s := by
  intro x hx htraced
  obtain ⟨c, hc, hhead⟩ := head?_mem_of_isTraced htraced
  exact absurd (mem_toList_of_mem_identifiers hx (List.mem_of_mem_head? hhead)) (h c hc)

end Reads

/-- A text is foreign when it could be read without knowing any name. -/
lemma isForeign_iff : isForeign s = true ↔ Reads (fun _ => False) s := by
  refine ⟨.of_isForeign, fun h => List.all_eq_true.mpr fun run hrun => ?_⟩
  rw [Bool.not_eq_true', ← Bool.not_eq_true]
  intro htraced
  refine h (String.ofList run) (List.mem_map_of_mem hrun) ?_
  rwa [isTraced, String.toList_ofList]

/-! ## Weaving -/

/-- A text with expressions in its gaps. -/
def weave (first : String) : List (String × String) → String
  | [] => first
  | (expr, text) :: gaps => first ++ expr ++ weave text gaps

lemma toList_weave (first : String) (gaps : List (String × String)) :
    (weave first gaps).toList =
      first.toList ++ gaps.flatMap fun gap => gap.1.toList ++ gap.2.toList := by
  induction gaps generalizing first with
  | nil => simp [weave]
  | cons gap gaps ih => simp [weave, ih]

/-- Whether characters keep the expressions between them apart, and have no such names
themselves. -/
def separatesAt : List Char → List (List Char) → Bool
  | first, [] => isForeignAt first
  | first, text :: texts =>
    isForeignAt first && isOpenAt first && isClosedAt text && (texts.isEmpty || !text.isEmpty) &&
      separatesAt text texts

/-- Whether texts keep the expressions between them apart, and have no such names themselves. -/
def separates (first : String) (texts : List String) : Bool :=
  separatesAt first.toList (texts.map String.toList)

/-- A woven text starts like its first part. -/
lemma isClosed_weave {gaps : List (String × String)} (h : isClosed s = true)
    (hne : gaps = [] ∨ s ≠ "") : isClosed (weave s gaps) = true := by
  cases gaps with
  | nil => exact h
  | cons gap gaps =>
    have hs : s ≠ "" := by simpa using hne
    rw [weave, String.append_assoc, isClosed_append hs, h]

/-- The names in a woven text are those in the expressions. -/
lemma reads_weave (first : String) (gaps : List (String × String))
    (h : separates first (gaps.map Prod.snd) = true) (hgaps : ∀ gap ∈ gaps, Reads known gap.1) :
    Reads known (weave first gaps) := by
  induction gaps generalizing first with
  | nil => exact .of_isForeign h
  | cons gap gaps ih =>
    obtain ⟨hgap, hgaps⟩ := List.forall_mem_cons.mp hgaps
    simp only [separates, List.map_cons, separatesAt, Bool.and_eq_true, Bool.or_eq_true] at h
    obtain ⟨⟨⟨⟨hforeign, hopen⟩, hclosed⟩, hnext⟩, hrest⟩ := h
    -- the rest starts like the text behind the gap, so it is closed towards the expression
    have hweave : isClosed (weave gap.2 gaps) = true := by
      refine isClosed_weave hclosed (hnext.imp ?_ ?_)
      · simp
      · simp
    exact ((Reads.of_isForeign hforeign).append hgap (.inl hopen)).append (ih gap.2 hrest hgaps)
      (.inr hweave)

/-- An expression between two texts. -/
lemma Reads.between {first expr last : String} (h : Reads known expr)
    (hseparates : separates first [last] = true) : Reads known (first ++ expr ++ last) :=
  reads_weave first [(expr, last)] hseparates (List.forall_mem_singleton.mpr h)

/-- The names in joined texts are those in the texts. -/
lemma reads_intercalate {sep : String} {texts : List String} (hsep : separates sep [sep] = true)
    (hne : sep ≠ "") (h : ∀ text ∈ texts, Reads known text) :
    Reads known (sep.intercalate texts) := by
  simp only [separates, List.map_cons, separatesAt, Bool.and_eq_true] at hsep
  obtain ⟨⟨⟨⟨hforeign, hopen⟩, hclosed⟩, -⟩, -⟩ := hsep
  induction texts with
  | nil => exact .of_isForeign rfl
  | cons text texts ih =>
    obtain ⟨htext, htexts⟩ := List.forall_mem_cons.mp h
    cases texts with
    | nil => simpa using htext
    | cons next texts =>
      have hrest : Reads known (sep ++ sep.intercalate (next :: texts)) :=
        (Reads.of_isForeign hforeign).append (ih htexts) (.inl hopen)
      rw [String.intercalate_cons_cons, String.append_assoc]
      exact htext.append hrest (.inr ((isClosed_append hne).trans hclosed))

end SceneEngine.Shading
