import Mathlib.Data.List.Nodup
import Mathlib.Data.List.Perm.Subperm
import Mathlib.Tactic.Common
import SceneEngine.Shading.Identifier

/-!
# Generated names

Names in a program are made from texts that an author chose.  They are cleaned first, then joined,
and a number is put behind them when they are taken.  This module shows what the result looks like
at each step, and that a pool always has a name left.

## Tidy names

A name is tidy when it consists of runs of letters and digits with single underscores between them
(`Identifier.Tidy`).  Sanitizing leaves nothing or a tidy name (`sanitize_cases`), joining tidy
names with underscores makes a tidy name (`tidy_intercalate`), and so does putting a number behind
one.  A tidy name has no double underscore, which the shading language reserves.  Socket keys are
sanitized names in lower case, and are their own keys (`socketKey_socketKey`).

## Bases

The base of a name is made of parts: they are sanitized, empty ones are left out, the others are
joined, and a prefix is put in front if the result could not stand first.  `base_cases` says what
comes out in general.  When the first part is a word that can stand first as it is, like those for
variables and samplers, the base starts with this word (`base_cons`), so that the kind of a name can
be told from it (`IsVariable`).

## Free names

A number behind a tidy name keeps it tidy, so the numbered names are reserved only where the name is
`gl`.  Numbered names differ from each other, so with one more of them than names in use the pool
always finds a free one (`NamePool.isFree_firstFree`).
-/

namespace SceneEngine.Shading

namespace Identifier

/-! ## Tidy names -/

/-- Runs of word characters with single underscores between them.  The constructors take such a name
apart at its first character. -/
inductive Tidy : List Char → Prop
  /-- A single letter or digit. -/
  | last {c : Char} (hc : isWordChar c = true) : Tidy [c]
  /-- A letter or digit goes on a run. -/
  | next {c : Char} {cs : List Char} (hc : isWordChar c = true) (hcs : Tidy cs) : Tidy (c :: cs)
  /-- An underscore separates two runs. -/
  | gap {c : Char} {cs : List Char} (hc : isWordChar c = true) (hcs : Tidy cs) :
    Tidy (c :: '_' :: cs)

/-- Whether a character may stand in a name: a word character or an underscore. -/
def isNameChar (c : Char) : Bool := isWordChar c || c == '_'

variable {cs ds : List Char} {c : Char}

lemma ne_underscore (hc : isWordChar c = true) : c ≠ '_' := by
  rintro rfl
  exact absurd hc (by decide)

lemma isWordChar_of_isDigit (hc : c.isDigit = true) : isWordChar c = true := by
  simp only [Char.isDigit, Bool.and_eq_true, decide_eq_true_eq] at hc
  simp only [isWordChar, Bool.or_eq_true, Bool.and_eq_true, decide_eq_true_eq]
  exact .inr hc

namespace Tidy

/-- A tidy name starts with a letter or a digit. -/
lemma exists_cons (h : Tidy cs) : ∃ c ds, cs = c :: ds ∧ isWordChar c = true := by
  cases h with
  | last hc => exact ⟨_, _, rfl, hc⟩
  | next hc _ => exact ⟨_, _, rfl, hc⟩
  | gap hc _ => exact ⟨_, _, rfl, hc⟩

/-- Two tidy names with an underscore between them are tidy. -/
lemma append (h : Tidy cs) (h' : Tidy ds) : Tidy (cs ++ '_' :: ds) := by
  induction h with
  | last hc => exact .gap hc h'
  | next hc _ ih => exact .next hc ih
  | gap hc _ ih => exact .gap hc ih

lemma isNameChar_of_mem (h : Tidy cs) (hc : c ∈ cs) : isNameChar c = true := by
  -- along the name: each step adds a word character, or one and an underscore
  induction h with
  | last hd =>
    rw [List.mem_singleton.mp hc, isNameChar, hd, Bool.true_or]
  | next hd _ ih =>
    rcases List.mem_cons.mp hc with rfl | hc
    · rw [isNameChar, hd, Bool.true_or]
    · exact ih hc
  | gap hd _ ih =>
    rcases List.mem_cons.mp hc with rfl | hc
    · rw [isNameChar, hd, Bool.true_or]
    · rcases List.mem_cons.mp hc with rfl | hc
      · rfl
      · exact ih hc

/-- No two underscores stand together in a tidy name. -/
lemma hasDoubleUnderscore_eq_false (h : Tidy cs) : hasDoubleUnderscore cs = false := by
  induction h with
  | last hc => simp [hasDoubleUnderscore]
  | next hc _ ih => simp [hasDoubleUnderscore, ne_underscore hc, ih]
  | gap hc hcs ih =>
    obtain ⟨d, ds, rfl, hd⟩ := hcs.exists_cons
    simp only [hasDoubleUnderscore] at ih ⊢
    simp [ne_underscore hc, ne_underscore hd] at ih ⊢
    exact ih

lemma of_forall (hne : cs ≠ []) (h : ∀ c ∈ cs, isWordChar c = true) : Tidy cs := by
  induction cs with
  | nil => exact absurd rfl hne
  | cons c cs ih =>
    obtain ⟨hc, hcs⟩ := List.forall_mem_cons.mp h
    cases cs with
    | nil => exact .last hc
    | cons d ds => exact .next hc (ih (List.cons_ne_nil d ds) hcs)

/-- A written number is tidy. -/
lemma toString (n : Nat) : Tidy (toString n).toList := by
  rw [Nat.toString_eq_repr, Nat.toList_repr]
  refine .of_forall Nat.toDigits_ne_nil fun c hc => ?_
  exact isWordChar_of_isDigit (Nat.isDigit_of_mem_toDigits (by decide) (by decide) hc)

end Tidy

/-! ## Sanitizing -/

/-- Behind a letter or digit, joining runs goes on with a tidy name. -/
lemma tidy_cons_joinRuns {gap : Bool} (hc : isWordChar c = true) :
    Tidy (c :: joinRuns true gap cs) := by
  induction cs generalizing c gap with
  | nil => exact .last hc
  | cons d cs ih =>
    rw [joinRuns]
    split
    next hd =>
      split
      · exact .gap hc (ih hd)
      · exact .next hc (ih hd)
    · exact ih hc

/-- Joining the runs of a text leaves nothing, or a tidy name. -/
lemma joinRuns_cases (gap : Bool) (cs : List Char) :
    joinRuns false gap cs = [] ∨ Tidy (joinRuns false gap cs) := by
  induction cs generalizing gap with
  | nil => exact .inl rfl
  | cons c cs ih =>
    rw [joinRuns]
    split
    next hc => exact .inr (by simpa using tidy_cons_joinRuns hc)
    · exact ih true

/-- A sanitized name is empty or tidy. -/
lemma sanitize_cases (name : String) : sanitize name = "" ∨ Tidy (sanitize name).toList := by
  rw [sanitize, String.toList_ofList]
  rcases joinRuns_cases false name.toList with h | h
  · exact .inl (by rw [h])
  · exact .inr h

/-! ## Socket keys -/

lemma isWordChar_toLower (hc : isWordChar c = true) : isWordChar c.toLower = true := by
  unfold Char.toLower
  split
  next h =>
    simp only [isWordChar, Bool.or_eq_true, Bool.and_eq_true, decide_eq_true_eq, Char.le_def,
      UInt32.le_iff_toNat_le] at h ⊢
    refine Or.inl (Or.inl ?_)
    simp at h ⊢
    omega
  · exact hc

lemma toLower_toLower (c : Char) : c.toLower.toLower = c.toLower := by
  unfold Char.toLower
  split
  next h =>
    refine dif_neg fun h' => ?_
    simp only [ge_iff_le, UInt32.le_iff_toNat_le] at h h'
    simp at h h'
    omega
  next => rfl

/-- A tidy name is tidy in lower case. -/
lemma Tidy.map_toLower (h : Tidy cs) : Tidy (cs.map Char.toLower) := by
  induction h with
  | last hc => exact .last (isWordChar_toLower hc)
  | next hc _ ih => exact .next (isWordChar_toLower hc) ih
  | gap hc _ ih => exact .gap (isWordChar_toLower hc) ih

/-- A tidy name is made of its own runs. -/
lemma Tidy.joinRuns_eq (h : Tidy cs) (started : Bool) : joinRuns started false cs = cs := by
  induction h generalizing started with
  | last hc => simp [joinRuns, hc]
  | next hc _ ih => simp [joinRuns, hc, ih]
  | gap hc hcs ih =>
    obtain ⟨d, ds, rfl, hd⟩ := hcs.exists_cons
    have hrest : joinRuns true false ds = ds := by simpa [joinRuns, hd] using ih true
    have hgap : isWordChar '_' = false := by decide
    simp [joinRuns, hc, hgap, hd, hrest]

/-- A socket's key is the key of itself. -/
theorem socketKey_socketKey (name : String) : socketKey (socketKey name) = socketKey name := by
  rw [socketKey, socketKey, String.toList_ofList]
  -- a key that is not empty is tidy and in lower case, and both steps leave it alone
  rcases joinRuns_cases false name.toList with h | h
  · rw [h]
    rfl
  · have hlower := h.map_toLower
    have hfix : ((joinRuns false false name.toList).map Char.toLower).map Char.toLower =
        (joinRuns false false name.toList).map Char.toLower := by
      rw [List.map_map]
      refine List.map_congr_left fun c _ => ?_
      rw [Function.comp_apply, toLower_toLower]
    rw [hlower.joinRuns_eq, hfix]

/-! ## Joined names -/

/-- Tidy names joined by underscores are tidy. -/
lemma tidy_intercalate {l : List (List Char)} (hne : l ≠ []) (h : ∀ cs ∈ l, Tidy cs) :
    Tidy (['_'].intercalate l) := by
  induction l with
  | nil => exact absurd rfl hne
  | cons cs l ih =>
    obtain ⟨hcs, hl⟩ := List.forall_mem_cons.mp h
    cases l with
    | nil => simpa using hcs
    | cons ds l =>
      have hrest := ih (List.cons_ne_nil ds l) hl
      rw [List.intercalate_cons_of_ne_nil (List.cons_ne_nil ds l)]
      simpa using hcs.append hrest

/-- The base is the prefix alone, or a tidy name that starts with a letter and not like the names
that the language keeps for itself. -/
lemma base_cases (parts : List String) :
    base parts = "v_" ∨ Tidy (base parts).toList ∧ hasLanguageStart (base parts).toList = false ∧
      ∀ c, (base parts).toList.head? = some c → ¬('0' ≤ c ∧ c ≤ '9') := by
  -- joined words make a tidy name, unless there are none
  have hname : ∀ words : List String, (∀ word ∈ words, Tidy word.toList) →
      words = [] ∨ Tidy ("_".intercalate words).toList := by
    intro words hwords
    by_cases hne : words = []
    · exact .inl hne
    · rw [String.toList_intercalate]
      refine .inr (tidy_intercalate (by simpa using hne) fun cs hcs => ?_)
      obtain ⟨word, hword, rfl⟩ := List.mem_map.mp hcs
      exact hwords word hword
  have hwords : ∀ word ∈ (parts.map sanitize).filter (!·.isEmpty), Tidy word.toList := by
    intro word hword
    obtain ⟨hword, hne⟩ := List.mem_filter.mp hword
    obtain ⟨part, -, rfl⟩ := List.mem_map.mp hword
    rcases sanitize_cases part with hempty | htidy
    · rw [hempty] at hne
      cases hne
    · exact htidy
  rw [base]
  rcases hname _ hwords with hempty | htidy
  · exact .inl (by rw [hempty]; rfl)
  · generalize "_".intercalate ((parts.map sanitize).filter (!·.isEmpty)) = name at htidy
    -- the first character decides whether the prefix is put in front
    obtain ⟨c, cs, hcs, hc⟩ := htidy.exists_cons
    rw [hcs] at htidy ⊢
    refine .inr ?_
    dsimp only
    split
    next husable =>
      simp only [Bool.and_eq_true, Bool.not_eq_true', Bool.and_eq_false_iff,
        decide_eq_false_iff_not] at husable
      rw [hcs]
      refine ⟨htidy, husable.2, fun d hd => ?_⟩
      obtain rfl := Option.some.inj hd
      simpa [imp_iff_not_or] using husable.1
    next =>
      have hbareed : ("v_" ++ name).toList = 'v' :: '_' :: c :: cs := by
        rw [String.toList_append, hcs]
        rfl
      rw [hbareed]
      refine ⟨.gap (by decide) htidy, rfl, fun d hd => ?_⟩
      obtain rfl := Option.some.inj hd
      decide

/-- The name is the word, alone or before an underscore. -/
def IsNamedAfter (word name : String) : Prop :=
  name = word ∨ ∃ cs, name.toList = word.toList ++ '_' :: cs

lemma IsNamedAfter.numbered {word name : String} (h : IsNamedAfter word name) (n : Nat) :
    IsNamedAfter word (name ++ "_" ++ toString n) := by
  rcases h with rfl | ⟨cs, hcs⟩
  · exact .inr ⟨(toString n).toList, by simp⟩
  · exact .inr ⟨cs ++ '_' :: (toString n).toList, by simp [hcs]⟩

/-- Whether a word can stand first in a name as it is, and the language keeps no name that starts
with the same letter. -/
def isStem (word : String) : Bool :=
  sanitize word == word &&
    word.toList.head?.any fun c => !('0' ≤ c && c ≤ '9') && c != 'g' && c != 'v'

lemma exists_cons_of_isStem {word : String} (h : isStem word = true) :
    ∃ c cs, word.toList = c :: cs ∧ (!('0' ≤ c && c ≤ '9')) = true ∧ c ≠ 'g' ∧ c ≠ 'v' := by
  rw [isStem, Bool.and_eq_true] at h
  cases hlist : word.toList with
  | nil =>
    rw [hlist] at h
    cases h.2
  | cons c cs =>
    refine ⟨c, cs, rfl, ?_⟩
    simpa only [hlist, List.head?_cons, Option.any_some, Bool.and_eq_true, bne_iff_ne, and_assoc]
      using h.2

lemma head?_of_isNamedAfter {word name : String} (h : IsNamedAfter word name)
    (hlist : word.toList = c :: cs) : name.toList.head? = some c := by
  rcases h with rfl | ⟨ds, hds⟩
  · rw [hlist, List.head?_cons]
  · rw [hds, hlist, List.cons_append, List.head?_cons]

/-- The base of parts that start with such a word starts with it. -/
lemma isNamedAfter_base {word : String} (h : isStem word = true) (parts : List String) :
    IsNamedAfter word (base (word :: parts)) := by
  have hword : sanitize word = word := eq_of_beq (Bool.and_eq_true_iff.mp h).1
  obtain ⟨c, cs, hlist, hdigit, hg, -⟩ := exists_cons_of_isStem h
  have hempty : word.isEmpty = false := by
    rw [Bool.eq_false_iff, ne_eq, String.isEmpty_iff]
    rintro rfl
    cases hlist
  have hwords : ((word :: parts).map sanitize).filter (!·.isEmpty) =
      word :: (parts.map sanitize).filter (!·.isEmpty) := by
    rw [List.map_cons, hword, List.filter_cons_of_pos (by rw [hempty]; rfl)]
  -- the word starts with a letter and not like the names of the language, so nothing is put in
  -- front
  have husable : ∀ ds : List Char, (!(decide ('0' ≤ c) && decide (c ≤ '9')) &&
      !hasLanguageStart (c :: ds)) = true := by
    intro ds
    have hstart : hasLanguageStart (c :: ds) = false := by
      simp [hasLanguageStart, List.isPrefixOf, Ne.symm hg]
    rw [hstart, hdigit]
    rfl
  rw [base, hwords]
  generalize (parts.map sanitize).filter (!·.isEmpty) = words
  cases words with
  | nil =>
    have hname : "_".intercalate [word] = word := String.intercalate_singleton
    simp only [hname, hlist, husable]
    exact .inl rfl
  | cons next words =>
    have hname : ("_".intercalate (word :: next :: words)).toList =
        c :: (cs ++ '_' :: ("_".intercalate (next :: words)).toList) := by
      simp [String.toList_intercalate, hlist]
    simp only [hname, husable]
    exact .inr ⟨_, hname.trans (by rw [hlist]; rfl)⟩

/-- The base of parts that start with such a word starts with it, and is tidy. -/
lemma base_cons {word : String} (h : isStem word = true) (parts : List String) :
    IsNamedAfter word (base (word :: parts)) ∧ Tidy (base (word :: parts)).toList ∧
      hasLanguageStart (base (word :: parts)).toList = false := by
  have hnamed := isNamedAfter_base h parts
  refine ⟨hnamed, ?_⟩
  rcases base_cases (word :: parts) with hbare | ⟨htidy, hstart, -⟩
  · obtain ⟨c, cs, hlist, -, -, hv⟩ := exists_cons_of_isStem h
    have hhead := head?_of_isNamedAfter hnamed hlist
    rw [hbare] at hhead
    exact absurd (Option.some.inj hhead).symm hv
  · exact ⟨htidy, hstart⟩

/-- Whether characters have the form of the names of outputs and helper variables: the letter `n`,
alone or before an underscore. -/
def hasLocalForm : List Char → Bool
  | ['n'] => true
  | 'n' :: '_' :: _ => true
  | _ => false

/-- Whether a name has this form. -/
def isLocal (name : String) : Bool := hasLocalForm name.toList

lemma isLocal_iff {name : String} : isLocal name = true ↔ IsNamedAfter "n" name := by
  rw [isLocal, IsNamedAfter, ← String.toList_inj]
  constructor
  · intro h
    unfold hasLocalForm at h
    split at h
    next hlist => exact .inl hlist
    next cs hlist => exact .inr ⟨cs, hlist⟩
    · cases h
  · rintro (h | ⟨cs, h⟩)
    · rw [h]
      rfl
    · rw [h]
      rfl

/-- A name of the form of those for outputs and helper variables.  No other kind of name has it. -/
structure IsVariable (name : String) : Prop where
  /-- It starts with the word for variables. -/
  named : IsNamedAfter "n" name
  /-- It consists of runs with single underscores between them. -/
  tidy : Tidy name.toList

/-! ## Numbered names -/

lemma hasLanguageStart_append (hstart : hasLanguageStart cs = false) (hne : cs ≠ ['g', 'l'])
    (hnil : cs ≠ []) : hasLanguageStart (cs ++ '_' :: ds) = false := by
  match cs with
  | [] => exact absurd rfl hnil
  | [x] => simp [hasLanguageStart, List.isPrefixOf]
  | [x, y] =>
    simp only [hasLanguageStart, List.cons_append, List.nil_append, List.isPrefixOf,
      beq_self_eq_true, Bool.and_true, Bool.and_eq_false_iff, beq_eq_false_iff_ne]
    by_contra hboth
    push Not at hboth
    exact hne (by rw [← hboth.1, ← hboth.2])
  | x :: y :: z :: cs => exact hstart

/-- No keyword has an underscore. -/
lemma contains_keywords_eq_false {name : String} (h : '_' ∈ name.toList) :
    keywords.contains name = false := by
  have hplain : ∀ keyword ∈ keywords, '_' ∉ keyword.toList := by decide +kernel
  rw [Bool.eq_false_iff, ne_eq, List.contains_iff_mem]
  exact fun hmem => hplain name hmem h

/-- A number makes no tidy name reserved but `gl`: it puts an underscore into the name, and no
keyword has one. -/
lemma isReserved_numbered {name : String} (htidy : Tidy name.toList)
    (hstart : hasLanguageStart name.toList = false) (hne : name ≠ "gl") (n : Nat) :
    isReserved (name ++ "_" ++ toString n) = false := by
  have hlist : (name ++ "_" ++ toString n).toList = name.toList ++ '_' :: (toString n).toList := by
    rw [String.toList_append, String.toList_append, List.append_assoc]
    rfl
  have hkeyword := contains_keywords_eq_false (hlist ▸ List.mem_append_right _ List.mem_cons_self)
  have hgl : name.toList ≠ ['g', 'l'] := fun h => hne (String.toList_inj.mp h)
  obtain ⟨c, cs, hcs, -⟩ := htidy.exists_cons
  have hnil : name.toList ≠ [] := hcs ▸ List.cons_ne_nil c cs
  rw [isReserved, hkeyword, hlist, hasLanguageStart_append hstart hgl hnil,
    (htidy.append (.toString n)).hasDoubleUnderscore_eq_false]
  rfl

end Identifier

namespace NamePool

open Identifier

/-- A name given out is the base, or the base with a number. -/
lemma firstFree_cases (pool : NamePool) (name : String) :
    pool.firstFree name = name ∨ ∃ n : Nat, pool.firstFree name = name ++ "_" ++ toString n := by
  rw [firstFree]
  -- the base itself is free, or the numbers are tried
  split
  · exact .inl rfl
  · dsimp only
    cases hfound : (List.range' 2 (pool.used.length + 1)).findSome? fun n =>
        if pool.isFree (name ++ "_" ++ toString n) then some (name ++ "_" ++ toString n)
        else none with
    | none => exact .inl rfl
    | some found =>
      obtain ⟨n, -, hn⟩ := List.exists_of_findSome?_eq_some hfound
      split at hn
      · exact .inr ⟨n, (Option.some.inj hn).symm⟩
      · cases hn

lemma tidy_firstFree (pool : NamePool) {name : String} (htidy : Tidy name.toList) :
    Tidy (pool.firstFree name).toList := by
  rcases pool.firstFree_cases name with h | ⟨n, h⟩
  · rwa [h]
  · rw [h, String.toList_append, String.toList_append, List.append_assoc]
    exact htidy.append (.toString n)

/-- A tidy name that is not `gl` and does not start like a name of the language leads to a free
name: there are more numbers to try than names in use. -/
theorem isFree_firstFree (pool : NamePool) {name : String} (htidy : Tidy name.toList)
    (hstart : hasLanguageStart name.toList = false) (hne : name ≠ "gl") :
    pool.isFree (pool.firstFree name) = true := by
  rw [firstFree]
  split
  · assumption
  · dsimp only
    cases hfound : (List.range' 2 (pool.used.length + 1)).findSome? fun n =>
        if pool.isFree (name ++ "_" ++ toString n) then some (name ++ "_" ++ toString n)
        else none with
    | some found =>
      obtain ⟨n, -, hn⟩ := List.exists_of_findSome?_eq_some hfound
      split at hn
      next hfree => rwa [Option.getD_some, ← Option.some.inj hn]
      · cases hn
    | none =>
      have hused : ∀ n ∈ List.range' 2 (pool.used.length + 1),
          name ++ "_" ++ toString n ∈ pool.used := by
        intro n hn
        by_contra hnew
        have hfree : pool.isFree (name ++ "_" ++ toString n) = true := by
          rw [isFree, isReserved_numbered htidy hstart hne, Bool.not_false, Bool.true_and,
            Bool.not_eq_true', ← Bool.not_eq_true, List.contains_iff_mem]
          exact hnew
        have hnone := List.findSome?_eq_none_iff.mp hfound n hn
        rw [if_pos hfree] at hnone
        cases hnone
      have hinj : Function.Injective fun n : Nat => name ++ "_" ++ toString n := by
        intro m n hmn
        have hdigits := String.toList_inj.mpr hmn
        simp only [String.toList_append, List.append_cancel_left_eq, Nat.toString_eq_repr,
          Nat.toList_repr] at hdigits
        have hnumber := congrArg (Nat.ofDigitChars 10 · 0) hdigits
        simpa only [Nat.ofDigitChars_ten_toDigits] using hnumber
      let numbered := (List.range' 2 (pool.used.length + 1)).map
        fun n : Nat => name ++ "_" ++ toString n
      have hnodup : numbered.Nodup := List.Nodup.map hinj List.nodup_range'
      have hsubset : numbered ⊆ pool.used := by
        intro x hx
        obtain ⟨n, hn, rfl⟩ := List.mem_map.mp hx
        exact hused n hn
      -- but there are more numbers than names in use
      have hlength := (hnodup.subperm hsubset).length_le
      rw [List.length_map, List.length_range'] at hlength
      omega

@[simp] lemma snd_allocate (pool : NamePool) (parts : List String) :
    (pool.allocate parts).2 = ⟨(pool.allocate parts).1 :: pool.used⟩ := by
  rw [allocate]

/-- A name whose first part is such a word is new to the pool. -/
theorem allocate_cons (pool : NamePool) {word : String} (h : isStem word = true)
    (parts : List String) :
    IsNamedAfter word (pool.allocate (word :: parts)).1 ∧
      Tidy (pool.allocate (word :: parts)).1.toList ∧
      (pool.allocate (word :: parts)).1 ∉ pool.used := by
  obtain ⟨hnamed, htidy, hstart⟩ := base_cons h parts
  have hne : base (word :: parts) ≠ "gl" := by
    intro hgl
    obtain ⟨c, cs, hlist, -, hg, -⟩ := exists_cons_of_isStem h
    have hhead := head?_of_isNamedAfter hnamed hlist
    rw [hgl] at hhead
    exact hg (Option.some.inj hhead).symm
  have hfree := pool.isFree_firstFree htidy hstart hne
  rw [isFree, Bool.and_eq_true, Bool.not_eq_true', Bool.not_eq_true', ← Bool.not_eq_true,
    ← Bool.not_eq_true, List.contains_iff_mem] at hfree
  have hallocate : (pool.allocate (word :: parts)).1 = pool.firstFree (base (word :: parts)) := by
    rw [allocate]
  rw [hallocate]
  refine ⟨?_, pool.tidy_firstFree htidy, hfree.2⟩
  rcases pool.firstFree_cases (base (word :: parts)) with hname | ⟨n, hname⟩
  · rwa [hname]
  · rw [hname]
    exact hnamed.numbered n

/-- A variable gets a name that is new to the pool. -/
lemma allocate_variable (pool : NamePool) (parts : List String) :
    IsVariable (pool.allocate ("n" :: parts)).1 ∧ (pool.allocate ("n" :: parts)).1 ∉ pool.used := by
  obtain ⟨hnamed, htidy, hnew⟩ := pool.allocate_cons (show isStem "n" = true by decide) parts
  exact ⟨⟨hnamed, htidy⟩, hnew⟩

end NamePool

end SceneEngine.Shading
