import SceneEngine.Proofs.Shading.Names

/-!
# The search for a name

A pool tries the base of a name, then the base with the numbers from two on, until a candidate is
free: neither taken nor reserved by the shading language.  Nothing says beforehand that the search
ends.  This module treats it as the search without a bound that it is (`NamePool.Search`), and shows
when it ends and with what.

## The search without a bound

A search ends where there is a free candidate, and only there.  A pool looks through one more number
than there are names in use.  If this finds a name, it is the one that the search without a bound
ends with (`search_firstFree`); and it does find one, because the numbered names differ, so that one
of them is not in use, and a numbered tidy name is not reserved.

## Two exceptions

For two bases the numbers only make reserved names: `v_`, which is the prefix for a name that
nothing is left of, and `gl`.  Behind an underscore a number makes a double underscore in the one
case and the prefix of the language's own names in the other.  Once one of these is taken, the
search for another name like it does not end (`not_search_of_mem`).  No name that a compile asks for
has such a base, because the names of nodes and images are put behind a word.

## Giving out names

For every other base the search ends, with a proper name that is new (`NamePool.search_allocate`).
So a pool can be asked for name after name, and no two of them are the same
(`NamePool.givesProper`).
-/

namespace SceneEngine.Shading

namespace Identifier

/-- A name that can stand in a shader: it starts with a letter, consists of letters, digits and
single underscores, and is not reserved. -/
structure IsProper (name : String) : Prop where
  /-- It starts with a letter, -/
  letter : name.toList.head?.any Char.isAlpha = true
  /-- has no other characters than these, -/
  chars : ∀ c ∈ name.toList, c.isAlphanum = true ∨ c = '_'
  /-- no two underscores together, -/
  single : hasDoubleUnderscore name.toList = false
  /-- and means nothing else to the shading language. -/
  unreserved : isReserved name = false

variable {cs : List Char} {c : Char} {name : String}

/-- Word characters are the letters and digits. -/
lemma isWordChar_eq (c : Char) : isWordChar c = c.isAlphanum := by
  have hlower : (decide ('a' ≤ c) && decide (c ≤ 'z')) = c.isLower := rfl
  have hupper : (decide ('A' ≤ c) && decide (c ≤ 'Z')) = c.isUpper := (Bool.decide_and _ _).symm
  have hdigit : (decide ('0' ≤ c) && decide (c ≤ '9')) = c.isDigit := rfl
  have halphanum : c.isAlphanum = (c.isUpper || c.isLower || c.isDigit) := rfl
  rw [isWordChar, hlower, hupper, hdigit, halphanum, Bool.or_comm c.isLower]

/-- A tidy name that starts with no digit is proper, unless it is reserved. -/
lemma Tidy.isProper (htidy : Tidy name.toList)
    (hdigit : ∀ c, name.toList.head? = some c → ¬('0' ≤ c ∧ c ≤ '9'))
    (hfree : isReserved name = false) : IsProper name := by
  obtain ⟨c, cs, hlist, hc⟩ := htidy.exists_cons
  refine ⟨?_, fun d hd => ?_, htidy.hasDoubleUnderscore_eq_false, hfree⟩
  · have hdigits : c.isDigit = (decide ('0' ≤ c) && decide (c ≤ '9')) := rfl
    have hnot : c.isDigit = false := by
      have hc := hdigit c (by rw [hlist, List.head?_cons])
      simpa [hdigits] using hc
    rw [isWordChar_eq, Char.isAlphanum, hnot, Bool.or_false] at hc
    rw [hlist, List.head?_cons, Option.any_some, hc]
  · have hname := htidy.isNameChar_of_mem hd
    rw [isNameChar, Bool.or_eq_true, isWordChar_eq] at hname
    exact hname.imp_right eq_of_beq

/-- A tidy name behind a word that can stand first is proper, if the word is not reserved. -/
lemma IsNamedAfter.isProper {word : String} (hnamed : IsNamedAfter word name)
    (htidy : Tidy name.toList) (hstem : isStem word = true)
    (hword : keywords.contains word = false) : IsProper name := by
  obtain ⟨c, cs, hlist, hdigit, hg, -⟩ := exists_cons_of_isStem hstem
  have hhead : name.toList.head? = some c := head?_of_isNamedAfter hnamed hlist
  have hstart : hasLanguageStart name.toList = false := by
    obtain ⟨ds, hds⟩ := List.head?_eq_some_iff.mp hhead
    rw [hds]
    simp [hasLanguageStart, List.isPrefixOf, Ne.symm hg]
  have hkeyword : keywords.contains name = false := by
    rcases hnamed with rfl | ⟨ds, hds⟩
    · exact hword
    · exact contains_keywords_eq_false (hds ▸ List.mem_append_right _ List.mem_cons_self)
  refine htidy.isProper (fun d hd => ?_) ?_
  · obtain rfl := Option.some.inj (hhead.symm.trans hd)
    simpa [imp_iff_not_or] using hdigit
  · rw [isReserved, hstart, htidy.hasDoubleUnderscore_eq_false, hkeyword]
    rfl

end Identifier

namespace NamePool

open Identifier

variable {pool : NamePool} {stem name candidate : String} {parts : List String} {n : Nat}

/-! ## The search without a bound -/

/-- The base with a number. -/
def numbered (stem : String) (n : Nat) : String := stem ++ "_" ++ toString n

/-- The search for a name, `n` being the number tried last: a free candidate is taken, and another
one gives way to the base with the next number. -/
inductive Search (pool : NamePool) (stem : String) : Nat → String → String → Prop
  /-- The candidate is free, and is the name. -/
  | found {n : Nat} {candidate : String} (hfree : pool.isFree candidate = true) :
    Search pool stem n candidate candidate
  /-- The candidate is not free, and the next number is tried. -/
  | next {n : Nat} {candidate name : String} (htaken : pool.isFree candidate = false)
    (hrest : Search pool stem (n + 1) (numbered stem (n + 1)) name) :
    Search pool stem n candidate name

/-- The search does not end where the base is taken and all its numbers make reserved names. -/
lemma not_search_of_isReserved (htaken : pool.isFree stem = false)
    (hreserved : ∀ n, isReserved (numbered stem n) = true) : ¬pool.Search stem 1 stem name := by
  have hnever : ∀ {n candidate}, pool.Search stem n candidate name →
      pool.isFree candidate = false → False := by
    intro n candidate h
    induction h with
    | found hfree =>
      intro htaken
      rw [hfree] at htaken
      cases htaken
    | next _ _ ih =>
      intro _
      refine ih ?_
      rw [NamePool.isFree, hreserved, Bool.not_true, Bool.false_and]
  exact fun h => hnever h htaken

/-- Once one of these two is taken, the search for another name like it does not end. -/
theorem not_search_of_mem (hstem : stem = "v_" ∨ stem = "gl") (hused : stem ∈ pool.used) :
    ¬pool.Search stem 1 stem name := by
  have htaken : pool.isFree stem = false := by
    rw [NamePool.isFree, List.contains_iff_mem.mpr hused, Bool.not_true, Bool.and_false]
  refine not_search_of_isReserved htaken fun n => ?_
  have hlist : (numbered stem n).toList = stem.toList ++ '_' :: (toString n).toList := by
    simp [numbered]
  rcases hstem with rfl | rfl
  · have hdouble : hasDoubleUnderscore (numbered "v_" n).toList = true := by
      rw [hlist]
      simp [hasDoubleUnderscore]
    rw [isReserved, hdouble, Bool.or_true, Bool.true_or]
  · have hstart : hasLanguageStart (numbered "gl" n).toList = true := by
      rw [hlist]
      simp [hasLanguageStart]
    rw [isReserved, hstart, Bool.true_or, Bool.true_or]

/-- The first number that makes a free name ends the search. -/
lemma search_of_findSome? {m : Nat} (htaken : pool.isFree candidate = false)
    (h : ((List.range' (n + 1) m).findSome? fun n =>
      if pool.isFree (numbered stem n) then some (numbered stem n) else none) = some name) :
    pool.Search stem n candidate name := by
  induction m generalizing n candidate with
  | zero => cases h
  | succ m ih =>
    rw [List.range'_succ, List.findSome?_cons] at h
    split at h
    next found hfound =>
      obtain ⟨hfree, hname⟩ := Option.ite_none_right_eq_some.mp hfound
      cases h
      cases hname
      exact .next htaken (.found hfree)
    next hnone =>
      have hnext : pool.isFree (numbered stem (n + 1)) = false := by
        simpa using hnone
      exact .next htaken (ih hnext h)

/-- The bounded search finds what the search without a bound ends with. -/
lemma search_firstFree (hfree : pool.isFree (pool.firstFree stem) = true) :
    pool.Search stem 1 stem (pool.firstFree stem) := by
  have hfirst : pool.firstFree stem = if pool.isFree stem then stem else
      ((List.range' 2 (pool.used.length + 1)).findSome? fun n =>
        if pool.isFree (numbered stem n) then some (numbered stem n) else none).getD stem :=
    rfl
  by_cases hbase : pool.isFree stem = true
  · rw [hfirst, if_pos hbase]
    exact .found hbase
  · rw [hfirst, if_neg hbase] at hfree ⊢
    have htaken : pool.isFree stem = false := by simpa using hbase
    cases hfound : (List.range' 2 (pool.used.length + 1)).findSome? fun n =>
        if pool.isFree (numbered stem n) then some (numbered stem n) else none with
    | some found => exact search_of_findSome? htaken hfound
    | none =>
      -- then the base itself would have been free
      rw [hfound] at hfree
      exact absurd hfree hbase

/-! ## Giving out names -/

/-- A name is free when it is neither reserved nor in use. -/
lemma isFree_iff : pool.isFree name = true ↔ isReserved name = false ∧ name ∉ pool.used := by
  rw [isFree, Bool.and_eq_true, Bool.not_eq_true', Bool.not_eq_true', ← Bool.not_eq_true,
    ← Bool.not_eq_true, List.contains_iff_mem, Bool.not_eq_true]

/-- For every base but two the search ends, with a proper name that is new. -/
theorem search_allocate (hbare : base parts ≠ "v_") (hgl : base parts ≠ "gl") :
    pool.Search (base parts) 1 (base parts) (pool.allocate parts).1 ∧
      IsProper (pool.allocate parts).1 ∧ (pool.allocate parts).1 ∉ pool.used := by
  obtain ⟨htidy, hstart, hdigit⟩ := (base_cases parts).resolve_left hbare
  have hfree := pool.isFree_firstFree htidy hstart hgl
  have hallocate : (pool.allocate parts).1 = pool.firstFree (base parts) := by rw [allocate]
  rw [hallocate]
  obtain ⟨hunreserved, hnew⟩ := isFree_iff.mp hfree
  refine ⟨search_firstFree hfree, (pool.tidy_firstFree htidy).isProper (fun c hc => ?_) hunreserved,
    hnew⟩
  -- a number comes behind the base, so the name starts as the base does
  refine hdigit c ?_
  rcases pool.firstFree_cases (base parts) with hname | ⟨n, hname⟩
  · rwa [hname] at hc
  · obtain ⟨d, ds, hlist, -⟩ := htidy.exists_cons
    rw [hname, String.toList_append, String.toList_append, hlist] at hc
    rwa [hlist]

/-- The names that a pool gives out for several lists of parts, one after another. -/
def allocateAll (pool : NamePool) : List (List String) → List String
  | [] => []
  | parts :: calls => (pool.allocate parts).1 :: (pool.allocate parts).2.allocateAll calls

/-- A name is searched for and given out for each of several lists of parts, one after another. -/
inductive GivesOut : NamePool → List (List String) → List String → Prop
  /-- Nothing is asked for. -/
  | nil (pool : NamePool) : GivesOut pool [] []
  /-- A name is found, and from then on in use. -/
  | cons {pool : NamePool} {parts : List String} {calls : List (List String)} {name : String}
    {names : List String} (hsearch : pool.Search (base parts) 1 (base parts) name)
    (hrest : GivesOut ⟨name :: pool.used⟩ calls names) :
    GivesOut pool (parts :: calls) (name :: names)

/-- All searches end, with proper names that differ from each other and from those in use. -/
structure GivesProper (pool : NamePool) (calls : List (List String)) : Prop where
  /-- Every search ends, with the name that the pool gives out. -/
  ends : pool.GivesOut calls (pool.allocateAll calls)
  /-- The names can stand in a shader, -/
  proper : ∀ name ∈ pool.allocateAll calls, IsProper name
  /-- differ from each other -/
  nodup : (pool.allocateAll calls).Nodup
  /-- and from those in use before. -/
  new : ∀ name ∈ pool.allocateAll calls, name ∉ pool.used

/-- Without the two bases, a pool can be asked for name after name. -/
theorem givesProper {calls : List (List String)}
    (hcalls : ∀ parts ∈ calls, base parts ≠ "v_" ∧ base parts ≠ "gl") (pool : NamePool) :
    pool.GivesProper calls := by
  induction calls generalizing pool with
  | nil => exact ⟨.nil pool, List.forall_mem_nil _, List.nodup_nil, List.forall_mem_nil _⟩
  | cons parts calls ih =>
    obtain ⟨⟨hbare, hgl⟩, hcalls⟩ := List.forall_mem_cons.mp hcalls
    obtain ⟨hsearch, hproper, hnew⟩ := search_allocate hbare hgl
    have hrest := ih hcalls (pool.allocate parts).2
    have hused : (pool.allocate parts).2.used = (pool.allocate parts).1 :: pool.used := by
      rw [snd_allocate]
    refine ⟨.cons hsearch ?_, List.forall_mem_cons.mpr ⟨hproper, hrest.proper⟩,
      List.nodup_cons.mpr ⟨fun hmem => ?_, hrest.nodup⟩,
      List.forall_mem_cons.mpr ⟨hnew, fun name hname hmem => ?_⟩⟩
    · rw [← snd_allocate]
      exact hrest.ends
    · exact hrest.new _ hmem (hused ▸ List.mem_cons_self)
    · exact hrest.new name hname (hused ▸ List.mem_cons_of_mem _ hmem)

end NamePool

end SceneEngine.Shading
