import SceneEngine.Proofs.Shading.ProgramText

/-!
# Texts of library fragments

A fragment of the library has a source, and a program contains the trimmed source
(`FragmentLibrary.text?`).  When something is shown about the text of a whole program, as that it
declares each name once, the texts of fragments are part of it.  This module collects what is needed
of them.

* Including texts one by one gives them in the order of their names (`entries_includedTexts`).
* Trimming neither adds nor removes an identifier (`identifiers_trim`), and the identifiers of a
  source are those of its lines (`identifiers_sourceOf`).
* The fragments at hand contain none of the words with which a declaration of a program begins
  (`FragmentLibrary.hasWord_text_builtin`), so none of them declares a parameter, an attribute or a
  passed value.
* Their texts are different from each other (`FragmentLibrary.text?_injective_builtin`), so that
  writing equal texts only once, as the program does, drops none of them.

The last two are decided on the sources, as lists of identifiers; the other facts carry the result
over to the trimmed texts.
-/

namespace SceneEngine.Shading

open Identifier

/-! ## Texts of fragments -/

/-- The text of a fragment in a program. -/
def FragmentLibrary.text? (library : FragmentLibrary) (name : String) : Option String :=
  (library.get? name).map fun fragment => Blank.trim fragment.source

variable {library : FragmentLibrary} {names : List String} {texts : OrderedMap String String}

/-- Texts that are added one by one stand in the order of their names. -/
lemma entries_foldlM
    {add : OrderedMap String String → String → Except CompileError (OrderedMap String String)}
    (hadd : ∀ texts name next, add texts name = .ok next →
      ∃ text, library.text? name = some text ∧ next = texts.insert name text)
    {before after : OrderedMap String String} (hnodup : (before.keys ++ names).Nodup)
    (h : names.foldlM add before = .ok after) :
    (∀ name ∈ names, ∃ text, library.text? name = some text) ∧
      after.entries =
        before.entries ++ names.map fun name => (name, (library.text? name).getD "") := by
  induction names generalizing before with
  | nil =>
    cases h
    exact ⟨List.forall_mem_nil _, (List.append_nil _).symm⟩
  | cons name names ih =>
    rw [List.foldlM_cons] at h
    obtain ⟨next, hnext, h⟩ := bind_eq_ok_iff.mp h
    obtain ⟨text, htext, rfl⟩ := hadd before name next hnext
    have hnew : name ∉ before.keys :=
      fun hmem => (List.nodup_append.mp hnodup).2.2 name hmem name List.mem_cons_self rfl
    have hinsert : (before.insert name text).entries = before.entries ++ [(name, text)] := by
      rw [OrderedMap.insert, dif_neg hnew]
      rfl
    have hkeys : (before.insert name text).keys = before.keys ++ [name] := by
      rw [OrderedMap.keys, hinsert, List.map_append]
      rfl
    obtain ⟨hregistered, hentries⟩ := ih (by rwa [hkeys, List.append_assoc]) h
    refine ⟨List.forall_mem_cons.mpr ⟨⟨_, htext⟩, hregistered⟩, ?_⟩
    rw [hentries, hinsert, List.map_cons, htext, Option.getD_some, List.append_assoc,
      List.singleton_append]

/-- The included texts are those of the names, in their order. -/
lemma entries_includedTexts (hnodup : names.Nodup) (h : includedTexts library names = .ok texts) :
    (∀ name ∈ names, ∃ text, library.text? name = some text) ∧
      texts.entries = names.map fun name => (name, (library.text? name).getD "") := by
  have hstart : ((∅ : OrderedMap String String).keys ++ names).Nodup := hnodup
  refine entries_foldlM (fun before name next hnext => ?_) hstart h
  split at hnext
  next fragment hfragment =>
    cases hnext
    exact ⟨Blank.trim fragment.source, by rw [FragmentLibrary.text?, hfragment]; rfl, rfl⟩
  · cases hnext

/-! ## Words in the texts of fragments -/

/-- A blank is part of no identifier. -/
lemma not_isNameChar_of_isBlank {c : Char} (h : Blank.isBlank c = true) : isNameChar c = false := by
  have hcodes : ∀ n ∈ Blank.codes, isNameChar (Char.ofNat n) = false := by decide
  have hc := hcodes c.toNat (List.contains_iff_mem.mp h)
  rwa [Char.ofNat_toNat] at hc

/-- What is not part of an identifier separates the identifiers on both sides. -/
lemma runs_append_cons {c : Char} (cs ds : List Char) (hc : isNameChar c = false) :
    runs (cs ++ c :: ds) = runs cs ++ runs ds := by
  have hsep : (fun c => !isNameChar c) c = true := by simp [hc]
  rw [runs, List.splitOnP_append_cons cs ds hsep, List.filter_append]
  rfl

/-- Trimming a text leaves its identifiers. -/
lemma identifiers_trim (s : String) : identifiers (Blank.trim s) = identifiers s := by
  have hfront : ∀ cs : List Char, runs (cs.dropWhile Blank.isBlank) = runs cs := by
    intro cs
    induction cs with
    | nil => rfl
    | cons c cs ih =>
      rw [List.dropWhile_cons]
      split
      next hc => exact ih.trans (runs_append_cons [] cs (not_isNameChar_of_isBlank hc)).symm
      · rfl
  -- blanks at the end are dropped from the text read backwards
  have hback : ∀ cs : List Char, runs (cs.dropWhile Blank.isBlank).reverse = runs cs.reverse := by
    intro cs
    induction cs with
    | nil => rfl
    | cons c cs ih =>
      rw [List.dropWhile_cons]
      split
      next hc =>
        rw [ih, List.reverse_cons, runs_append_cons _ _ (not_isNameChar_of_isBlank hc)]
        exact (List.append_nil _).symm
      · rfl
  rw [identifiers, identifiers, Blank.trim, String.toList_ofList, hback, List.reverse_reverse,
    hfront]

/-- The identifiers of a source are those of its lines. -/
lemma identifiers_sourceOf (lines : List String) :
    identifiers (sourceOf lines) = lines.flatMap identifiers := by
  have hbreak : identifiers "\n" = [] := by decide
  have hlines : identifiers ("\n".intercalate lines) = lines.flatMap identifiers := by
    induction lines with
    | nil => rfl
    | cons line lines ih =>
      cases lines with
      | nil => simp
      | cons next lines =>
        have hopen : isOpen (line ++ "\n") = true := isOpen_append (by decide) (by decide)
        rw [String.intercalate_cons_cons, identifiers_append (.inl hopen),
          identifiers_append (.inr (by decide)), ih, hbreak, List.append_nil]
        rfl
  rw [sourceOf, identifiers_append (.inr (by decide)), identifiers_append (.inl (by decide)),
    hlines, hbreak, List.append_nil, List.nil_append]

/-- Identifiers are the runs of characters that can stand in names. -/
lemma identifiers_ofList (cs : List Char) :
    identifiers (String.ofList cs) = (runs cs).map String.ofList := by
  rw [identifiers, String.toList_ofList]

namespace FragmentLibrary

/-- A text of the library belongs to one of the fragments it was made from. -/
lemma exists_mem_of_text?_builtin {name text : String}
    (h : FragmentLibrary.builtin.text? name = some text) :
    ∃ fragment ∈ builtinFragments, fragment.name = name ∧ Blank.trim fragment.source = text := by
  have hentries : FragmentLibrary.builtin.fragments.entries =
      builtinFragments.map fun fragment => (fragment.name, fragment) :=
    rfl
  obtain ⟨fragment, hfragment, rfl⟩ := Option.map_eq_some_iff.mp h
  have hmem := OrderedMap.get?_eq_some_iff.mp hfragment
  rw [hentries] at hmem
  obtain ⟨fragment', hfragment', heq⟩ := List.mem_map.mp hmem
  obtain ⟨rfl, rfl⟩ := Prod.mk.inj heq
  exact ⟨fragment', hfragment', rfl, rfl⟩

/-- No text of the fragments at hand declares anything with a qualifier. -/
lemma hasWord_text_builtin {name text word : String}
    (h : FragmentLibrary.builtin.text? name = some text) (hword : word ∈ qualifiers) :
    hasWord word text = false := by
  have hsources : ∀ fragment ∈ builtinFragments, ∀ word ∈ qualifiers,
      (identifiers fragment.source).contains word = false := by
    simp only [builtinFragments, List.forall_mem_cons, hashSource, noiseSource, mapRangeSource,
      clampRangeSource, blendSource, identifiers_sourceOf, List.flatMap_cons, List.flatMap_nil]
    -- the lines are turned into lists of characters, on which the words can be computed
    repeat rw [identifiers_ofList]
    decide +kernel
  obtain ⟨fragment, hfragment, -, rfl⟩ := exists_mem_of_text?_builtin h
  rw [hasWord, identifiers_trim]
  exact hsources fragment hfragment word hword

/-- The fragments at hand have different texts.  They can even be told apart by the identifiers in
them. -/
lemma text?_injective_builtin {a b text : String}
    (ha : FragmentLibrary.builtin.text? a = some text)
    (hb : FragmentLibrary.builtin.text? b = some text) : a = b := by
  have hnodup : (builtinFragments.map fun fragment => identifiers fragment.source).Nodup := by
    simp only [builtinFragments, List.map_cons, List.map_nil, hashSource, noiseSource,
      mapRangeSource, clampRangeSource, blendSource, identifiers_sourceOf, List.flatMap_cons,
      List.flatMap_nil]
    repeat rw [identifiers_ofList]
    decide +kernel
  obtain ⟨fragment, hfragment, rfl, htext⟩ := exists_mem_of_text?_builtin ha
  obtain ⟨fragment', hfragment', rfl, htext'⟩ := exists_mem_of_text?_builtin hb
  have hidentifiers : identifiers fragment.source = identifiers fragment'.source := by
    rw [← identifiers_trim, htext, ← htext', identifiers_trim]
  rw [List.inj_on_of_nodup_map hnodup hfragment hfragment' hidentifiers]

end FragmentLibrary

end SceneEngine.Shading
