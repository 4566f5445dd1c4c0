import Mathlib.Data.List.Induction
import SceneEngine.Proofs.Store.Consumers

/-!
# Remembered results

Asking a store for the entities of a query without making it live goes through the index.  The store
remembers the result under the query's name until a commit takes effect, and gives it out again to
every query of that name.  This module says exactly when the results are right.

## When they are right

A remembered result belongs to the version of the state at which it was found, and only asking
writes one, so it is never out of date (`Store.cache_origin`).  What is left is the name.  Results
are right exactly when queries of one name that are asked without a commit in between ask for the
same entities (`Store.matchesFreshly_iff`).  The condition is about the run and the queries in it,
and says nothing of names that are not asked for.

## When names tell queries apart

The canonical name of a query lists the included components with a plus and the excluded ones with a
minus, joined by commas.  As long as no component has a comma in its name, the parts can be read off
again (`Store.eq_of_intercalate_comma_eq`), the sign of a part tells on which side its component is,
and queries of one name include and exclude the same (`Query.eq_of_name_eq`).  So in such a schema
all results are right (`Store.matchesFreshly_of_commaFree`).

A schema may have a component with a comma in its name, though.  Then including a and excluding b
has the name of including one component that is called so, and a query can be given the result of
another: `Store.not_forall_matchesFreshly`.
-/

namespace SceneEngine

namespace Store

/-- In a stretch of a run no commit takes effect.  Commands may well be carried out, as long as the
current state stays as it is. -/
def Idles (store : Store) (commands : List StoreCommand) : Prop :=
  ∀ moment ∈ store.moments commands, moment.before.effect? moment.command = none

/-- Whenever a query is asked in a run, the result is what the query finds at that point. -/
def MatchesFreshly (store : Store) (commands : List StoreCommand) : Prop :=
  ∀ done query, done ++ [.matching query] <+: commands →
    ((store.run done).matching query).1 = query.matching (store.run done).current

/-- Whenever two queries of one name are asked in a run, and no commit takes effect in between, they
find the same entities. -/
def NamesakesAgree (store : Store) (commands : List StoreCommand) : Prop :=
  ∀ before query between query',
    before ++ .matching query :: between ++ [.matching query'] <+: commands →
    query.name = query'.name → (store.run before).Idles (.matching query :: between) →
    query.matching (store.run before).current = query'.matching (store.run before).current

/-! ## Effects and versions -/

variable {schema : Schema} {store : Store} {command : StoreCommand}
  {commands : List StoreCommand} {name : String} {ids : List EntityId} {version : Nat}

/-- A command without effect leaves the current state, any other command raises its version. -/
lemma current_perform_cases (hs : store.WellFormed schema) (command : StoreCommand) :
    (store.effect? command = none ∧ (store.perform command).current = store.current) ∨
      (store.effect? command ≠ none ∧
        (store.perform command).current.version = store.current.version + 1) := by
  have hstep := step_perform hs.current.2 command
  generalize store.perform command = store' at hstep
  cases hstep with
  | idle heffect => exact Or.inl ⟨heffect, rfl⟩
  | @commits _ next record? hproposal hadvance =>
    right
    rw [effect?_of_advances hproposal hadvance, commit_eq hadvance.effective]
    exact ⟨Option.some_ne_none _, hadvance.version_eq⟩
  | startsQuery | startsConsumer | resets | drains | caches => exact Or.inl ⟨rfl, rfl⟩

/-- Only asking a query touches what is remembered. -/
lemma cache_perform (hs : store.WellFormed schema) (h : ∀ query, command ≠ .matching query) :
    (store.perform command).cache = store.cache := by
  have hstep := step_perform hs.current.2 command
  generalize store.perform command = store' at hstep
  cases hstep with
  | @commits _ next record? _ hadvance => rw [commit_eq hadvance.effective]
  | @caches query => exact absurd rfl (h query)
  | idle | startsQuery | startsConsumer | resets | drains => rfl

lemma idles_nil (store : Store) : store.Idles [] := fun _ h => absurd h List.not_mem_nil

lemma idles_cons :
    store.Idles (command :: commands) ↔
      store.effect? command = none ∧ (store.perform command).Idles commands := by
  simp [Idles, moments]

lemma idles_append_singleton :
    store.Idles (commands ++ [command]) ↔
      store.Idles commands ∧ (store.run commands).effect? command = none := by
  simp only [Idles, moments_append, List.mem_append, moments, List.mem_singleton, or_imp,
    forall_and, forall_eq]

lemma Idles.current_eq (hs : store.WellFormed schema) (h : store.Idles commands) :
    (store.run commands).current = store.current := by
  induction commands generalizing store with
  | nil => rfl
  | cons command commands ih =>
    obtain ⟨heffect, hrest⟩ := idles_cons.mp h
    rcases current_perform_cases hs command with ⟨-, hsame⟩ | ⟨hne, -⟩
    · rw [run_cons, ih (wellFormed_perform store command hs) hrest, hsame]
    · exact absurd heffect hne

/-! ## Asking a query -/

/-- A result remembered for the present version is given out again. -/
lemma matching_of_cached {query : Query}
    (h : store.cache.get? query.name = some (store.current.version, ids)) :
    store.matching query = (ids, store) := by
  simp [matching, h]

/-- Otherwise the result is found afresh, and remembered. -/
lemma matching_of_not_cached {query : Query}
    (h : ∀ ids, store.cache.get? query.name ≠ some (store.current.version, ids)) :
    store.matching query =
      (query.matching store.current,
        { store with
          cache := store.cache.insert query.name
            (store.current.version, query.matching store.current) }) := by
  cases hcached : store.cache.get? query.name with
  | none => simp [matching, hcached]
  | some entry =>
    have hversion : entry.1 ≠ store.current.version := by
      intro heq
      exact h entry.2 (by rw [hcached, ← heq])
    simp [matching, hcached, hversion]

/-- Either a result of the present version is remembered under a name, or none is. -/
lemma cached_or_not (store : Store) (name : String) :
    (∃ ids, store.cache.get? name = some (store.current.version, ids)) ∨
      ∀ ids, store.cache.get? name ≠ some (store.current.version, ids) := by
  rw [← not_exists]
  exact Classical.em _

/-- What was given out is remembered. -/
lemma get?_cache_matching (store : Store) (query : Query) :
    (store.perform (.matching query)).cache.get? query.name =
      some (store.current.version, (store.matching query).1) := by
  rcases store.cached_or_not query.name with ⟨ids, hcached⟩ | hcached
  · simp [perform, matching_of_cached hcached, hcached]
  · simp [perform, matching_of_not_cached hcached]

/-- A result of the present version stays while commands have no effect: other queries are
remembered under other names, and a query of this name is given the result that is there. -/
lemma get?_cache_of_idles (hs : store.WellFormed schema) (h : store.Idles commands)
    (hcached : store.cache.get? name = some (store.current.version, ids)) :
    (store.run commands).cache.get? name = some (store.current.version, ids) := by
  induction commands generalizing store with
  | nil => exact hcached
  | cons command commands ih =>
    obtain ⟨heffect, hrest⟩ := idles_cons.mp h
    have hcurrent : (store.perform command).current = store.current := by
      rcases current_perform_cases hs command with ⟨-, hsame⟩ | ⟨hne, -⟩
      · exact hsame
      · exact absurd heffect hne
    have hkept : (store.perform command).cache.get? name = some (store.current.version, ids) := by
      by_cases hquery : ∃ query, command = .matching query
      · obtain ⟨query, rfl⟩ := hquery
        rcases store.cached_or_not query.name with ⟨ids', hcached'⟩ | hcached'
        · simpa [perform, matching_of_cached hcached'] using hcached
        · -- the query has another name, since nothing is remembered under its own
          have hname : name ≠ query.name := fun heq => hcached' ids (heq ▸ hcached)
          simp [perform, matching_of_not_cached hcached', hname, hcached]
      · rw [cache_perform hs fun query heq => hquery ⟨query, heq⟩]
        exact hcached
    rw [run_cons, ← hcurrent]
    rw [← hcurrent] at hkept
    exact ih (wellFormed_perform store command hs) hrest hkept

/-! ## Where a remembered result comes from -/

/-- A query of the given name found `ids` when it was asked, and no commit has taken effect since.
-/
def Found (store : Store) (commands : List StoreCommand) (name : String)
    (ids : List EntityId) : Prop :=
  ∃ before query between, commands = before ++ .matching query :: between ∧ query.name = name ∧
    (store.run before).Idles (.matching query :: between) ∧
    ids = query.matching (store.run before).current

/-- What was found stays found over a command without effect. -/
lemma Found.append (h : store.Found commands name ids)
    (heffect : (store.run commands).effect? command = none) :
    store.Found (commands ++ [command]) name ids := by
  obtain ⟨before, query, between, rfl, hname, hidles, hids⟩ := h
  refine ⟨before, query, between ++ [command], by simp, hname, ?_, hids⟩
  rw [← List.cons_append, idles_append_singleton]
  rw [run_append] at heffect
  exact ⟨hidles, heffect⟩

/-- After any run, what is remembered is of the present version or an earlier one, and what is of
the present version was found by a query of that name.  The induction is on the run from its end;
that nothing is of a later version is needed when a commit raises the version. -/
theorem cache_origin (schema : Schema) (historyDepth : Nat) (commands : List StoreCommand)
    (hcached : ((Store.empty schema historyDepth).run commands).cache.get? name =
      some (version, ids)) :
    version ≤ ((Store.empty schema historyDepth).run commands).current.version ∧
      (version = ((Store.empty schema historyDepth).run commands).current.version →
        (Store.empty schema historyDepth).Found commands name ids) := by
  induction commands using List.reverseRecOn generalizing name version ids with
  | nil => cases hcached
  | append_singleton commands command ih =>
    have hs := wellFormed_run schema historyDepth commands
    rw [run_append, run_cons, run_nil] at hcached ⊢
    rcases current_perform_cases hs command with ⟨heffect, hsame⟩ | ⟨heffect, hnext⟩
    · rw [hsame]
      by_cases hquery : ∃ query, command = .matching query
      · obtain ⟨query, rfl⟩ := hquery
        rcases cached_or_not ((Store.empty schema historyDepth).run commands) query.name with
          ⟨ids', hcached'⟩ | hcached'
        · rw [perform, matching_of_cached hcached'] at hcached
          obtain ⟨hle, hfound⟩ := ih hcached
          exact ⟨hle, fun heq => (hfound heq).append heffect⟩
        · rw [perform, matching_of_not_cached hcached'] at hcached
          by_cases hname : name = query.name
          · -- the entry is the one just written
            rw [hname, OrderedMap.get?_insert, if_pos rfl, Option.some.injEq, Prod.mk.injEq]
              at hcached
            obtain ⟨rfl, rfl⟩ := hcached
            refine ⟨Nat.le_refl _, fun _ => ⟨commands, query, [], rfl, hname.symm, ?_, rfl⟩⟩
            exact idles_cons.mpr ⟨heffect, idles_nil _⟩
          · rw [OrderedMap.get?_insert, if_neg hname] at hcached
            obtain ⟨hle, hfound⟩ := ih hcached
            exact ⟨hle, fun heq => (hfound heq).append heffect⟩
      · rw [cache_perform hs fun query heq => hquery ⟨query, heq⟩] at hcached
        obtain ⟨hle, hfound⟩ := ih hcached
        exact ⟨hle, fun heq => (hfound heq).append heffect⟩
    · -- the version rises above everything that is remembered
      have hother : ∀ query, command ≠ .matching query := by
        rintro query rfl
        exact heffect rfl
      rw [cache_perform hs hother] at hcached
      have hle := (ih hcached).1
      refine ⟨by omega, fun heq => absurd heq (by omega)⟩

/-- Results that are right are the same for namesakes, because the later one is given what was
remembered for the earlier one. -/
lemma namesakesAgree_of_matchesFreshly {historyDepth : Nat}
    (h : (Store.empty schema historyDepth).MatchesFreshly commands) :
    (Store.empty schema historyDepth).NamesakesAgree commands := by
  intro before query between query' hrun hname hidles
  have hs := wellFormed_run schema historyDepth before
  have hfirst := h before query <| by
    refine List.IsPrefix.trans ?_ hrun
    exact ⟨between ++ [.matching query'], by simp⟩
  have hlast := h (before ++ .matching query :: between) query' hrun
  have hkept := get?_cache_matching ((Store.empty schema historyDepth).run before) query
  obtain ⟨heffect, hrest⟩ := idles_cons.mp hidles
  have hcurrent := Idles.current_eq hs hidles
  have hsame : (((Store.empty schema historyDepth).run before).perform
      (.matching query)).current = ((Store.empty schema historyDepth).run before).current := by
    rcases current_perform_cases hs (.matching query) with ⟨-, hsame⟩ | ⟨hne, -⟩
    · exact hsame
    · exact absurd heffect hne
  rw [← hsame] at hkept
  have hremembered := get?_cache_of_idles (wellFormed_perform _ _ hs) hrest hkept
  rw [← run_cons, hsame, ← hcurrent, ← run_append, hname] at hremembered
  rw [matching_of_cached hremembered, run_append, hcurrent] at hlast
  rw [← hfirst, ← hlast]

/-- What is remembered was found by a namesake, so it is right when namesakes agree. -/
lemma matchesFreshly_of_namesakesAgree {historyDepth : Nat}
    (h : (Store.empty schema historyDepth).NamesakesAgree commands) :
    (Store.empty schema historyDepth).MatchesFreshly commands := by
  intro done query' hrun
  rcases cached_or_not ((Store.empty schema historyDepth).run done) query'.name with
    ⟨ids, hcached⟩ | hcached
  · rw [matching_of_cached hcached]
    obtain ⟨before, query, between, rfl, hname, hidles, rfl⟩ :=
      (cache_origin schema historyDepth done hcached).2 rfl
    rw [h before query between query' hrun hname hidles, run_append,
      Idles.current_eq (wellFormed_run schema historyDepth before) hidles]
  · rw [matching_of_not_cached hcached]

/-- **Results are right when namesakes agree.**  In a run every result is what the query finds at
that point, exactly when queries of one name that are asked without a commit taking effect in
between find the same entities. -/
theorem matchesFreshly_iff (schema : Schema) (historyDepth : Nat)
    (commands : List StoreCommand) :
    (Store.empty schema historyDepth).MatchesFreshly commands ↔
      (Store.empty schema historyDepth).NamesakesAgree commands :=
  ⟨namesakesAgree_of_matchesFreshly, matchesFreshly_of_namesakesAgree⟩

end Store

/-! ## Names without a comma -/

/-- A list of texts is known by the text that commas join it to, when none of them is empty or has a
comma. -/
lemma eq_of_intercalate_comma_eq {l l' : List String}
    (h : ∀ s ∈ l, ',' ∉ s.toList ∧ s ≠ "") (h' : ∀ s ∈ l', ',' ∉ s.toList ∧ s ≠ "")
    (heq : ",".intercalate l = ",".intercalate l') : l = l' := by
  -- splitting at the commas gives the parts back, if there are any
  have hsplit : ∀ k : List String, (∀ s ∈ k, ',' ∉ s.toList ∧ s ≠ "") → k ≠ [] →
      (",".intercalate k).toList.splitOn ',' = k.map String.toList := by
    intro k hk hne
    rw [String.toList_intercalate]
    refine List.splitOn_intercalate ',' ?_ (by simpa using hne)
    intro cs hcs
    obtain ⟨s, hs, rfl⟩ := List.mem_map.mp hcs
    exact (hk s hs).1
  -- joining nothing gives the empty text, and joining something does not
  have hempty : ∀ k : List String, (∀ s ∈ k, ',' ∉ s.toList ∧ s ≠ "") →
      ",".intercalate k = "" → k = [] := by
    intro k hk hnil
    by_contra hne
    have hparts := hsplit k hk hne
    rw [hnil, String.toList_empty, List.splitOn_nil] at hparts
    cases k with
    | nil => exact hne rfl
    | cons s rest =>
      have hs : s.toList = [] := (List.cons.inj hparts).1.symm
      exact (hk s List.mem_cons_self).2 (String.toList_eq_nil_iff.mp hs)
  by_cases hl : l = []
  · rw [hl] at heq ⊢
    exact (hempty l' h' heq.symm).symm
  · by_cases hl' : l' = []
    · rw [hl'] at heq
      exact absurd (hempty l h heq) hl
    · have hmap : l.map String.toList = l'.map String.toList := by
        rw [← hsplit l h hl, heq, hsplit l' h' hl']
      exact List.map_injective_iff.mpr (fun s t hst => String.toList_inj.mp hst) hmap

namespace Schema

variable {schema : Schema} {c d : ComponentId}

/-- Two declared components of one name are the same. -/
lemma eq_of_name_eq (hc : c.val < schema.size) (hd : d.val < schema.size)
    (h : schema.name c = schema.name d) : c = d := by
  have hname : ∀ e : ComponentId, (he : e.val < schema.size) →
      (schema.defs.map ComponentDef.name)[e.val]? = some (schema.name e) := by
    intro e he
    have hdef : schema.defs[e.val]? = some (schema.defs.get ⟨e.val, he⟩) :=
      List.getElem?_eq_getElem he
    simp [name, def?, hdef]
  have hlength : c.val < (schema.defs.map ComponentDef.name).length := by
    rw [List.length_map]
    exact hc
  refine Fin.ext ((List.getElem?_inj hlength schema.nodup).mp ?_)
  rw [hname c hc, hname d hd, h]

/-- The name of a declared component stands in a declaration. -/
lemma exists_def_of_declared (hc : c.val < schema.size) :
    ∃ d ∈ schema.defs, d.name = schema.name c := by
  have hdef : schema.defs[c.val]? = some schema.defs[c.val] := List.getElem?_eq_getElem hc
  exact ⟨schema.defs[c.val], List.getElem_mem hc, by simp [name, def?, hdef]⟩

lemma declared_of_lookup {name : String} (h : schema.lookup name = .ok c) :
    c.val < schema.size := by
  rw [lookup] at h
  split at h
  next found hfound =>
    cases h
    exact (of_id?_eq_some hfound).1
  · cases h

lemma declared_of_mapM_lookup {names : List String} {components : List ComponentId}
    (h : names.mapM schema.lookup = .ok components) : ∀ c ∈ components, c.val < schema.size := by
  induction names generalizing components with
  | nil =>
    cases h
    exact fun c hc => absurd hc List.not_mem_nil
  | cons name names ih =>
    rw [List.mapM_cons, bind_eq_ok_iff] at h
    obtain ⟨first, hfirst, h⟩ := h
    obtain ⟨rest, hrest, h⟩ := bind_eq_ok_iff.mp h
    cases h
    intro c hc
    rcases List.mem_cons.mp hc with rfl | hc
    · exact declared_of_lookup hfirst
    · exact ih hrest c hc

end Schema

namespace Query

variable {schema : Schema} {query : Query}

/-- The query is what some specification means in a schema.  Only such queries are asked of a store
from outside. -/
def ResolvedIn (schema : Schema) (query : Query) : Prop :=
  ∃ spec : QuerySpec, spec.resolve schema = .ok query

/-- A resolved query has the canonical name, and asks about declared components only. -/
lemma ResolvedIn.canonical (h : query.ResolvedIn schema) :
    query.name = canonicalName schema query.includes query.excludes ∧
      (∀ c, query.includes.contains c = true → c.val < schema.size) ∧
      ∀ c, query.excludes.contains c = true → c.val < schema.size := by
  obtain ⟨spec, h⟩ := h
  obtain ⟨includes, excludes, key?, hincludes, hexcludes, -, -, rfl⟩ :=
    QuerySpec.resolve_eq_ok_iff.mp h
  refine ⟨rfl, fun c hc => ?_, fun c hc => ?_⟩
  · exact Schema.declared_of_mapM_lookup hincludes c (ComponentSet.contains_ofList.mp hc)
  · exact Schema.declared_of_mapM_lookup hexcludes c (ComponentSet.contains_ofList.mp hc)

/-- The parts of a canonical name. -/
def nameParts (schema : Schema) (includes excludes : ComponentSet) : List String :=
  (includes.toList.map fun c => "+" ++ schema.name c) ++
    excludes.toList.map fun c => "-" ++ schema.name c

/-- The sign of a part tells whether its component is included or excluded. -/
lemma mem_nameParts {includes excludes : ComponentSet} {s : String} :
    s ∈ nameParts schema includes excludes ↔
      (∃ c, includes.contains c = true ∧ "+" ++ schema.name c = s) ∨
        ∃ c, excludes.contains c = true ∧ "-" ++ schema.name c = s := by
  simp [nameParts]

lemma nameParts_commaFree (hcomma : ∀ d ∈ schema.defs, ',' ∉ d.name.toList)
    (h : query.ResolvedIn schema) :
    ∀ s ∈ nameParts schema query.includes query.excludes, ',' ∉ s.toList ∧ s ≠ "" := by
  obtain ⟨-, hincludes, hexcludes⟩ := h.canonical
  have hname : ∀ c : ComponentId, c.val < schema.size → ',' ∉ (schema.name c).toList := by
    intro c hc
    obtain ⟨d, hd, hdc⟩ := Schema.exists_def_of_declared hc
    exact hdc ▸ hcomma d hd
  intro s hs
  rcases mem_nameParts.mp hs with ⟨c, hc, rfl⟩ | ⟨c, hc, rfl⟩
  · have hfree := hname c (hincludes c hc)
    exact ⟨by simp [hfree], by simp [← String.toList_inj]⟩
  · have hfree := hname c (hexcludes c hc)
    exact ⟨by simp [hfree], by simp [← String.toList_inj]⟩

/-- A resolved query is known by the parts of its name. -/
lemma contains_iff (h : query.ResolvedIn schema) (c : ComponentId) :
    (query.includes.contains c = true ↔ c.val < schema.size ∧
      "+" ++ schema.name c ∈ nameParts schema query.includes query.excludes) ∧
    (query.excludes.contains c = true ↔ c.val < schema.size ∧
      "-" ++ schema.name c ∈ nameParts schema query.includes query.excludes) := by
  obtain ⟨-, hincludes, hexcludes⟩ := h.canonical
  have hplus : ∀ s t : String, "+" ++ s = "+" ++ t ↔ s = t := by simp [← String.toList_inj]
  have hminus : ∀ s t : String, "-" ++ s = "-" ++ t ↔ s = t := by simp [← String.toList_inj]
  have hsign : ∀ s t : String, "-" ++ s ≠ "+" ++ t := by simp [← String.toList_inj]
  simp only [mem_nameParts, hplus, hminus, hsign, (hsign _ _).symm, and_false, exists_false,
    or_false, false_or]
  constructor
  · constructor
    · exact fun hc => ⟨hincludes c hc, c, hc, rfl⟩
    · rintro ⟨hdeclared, d, hd, hname⟩
      exact Schema.eq_of_name_eq (hincludes d hd) hdeclared hname ▸ hd
  · constructor
    · exact fun hc => ⟨hexcludes c hc, c, hc, rfl⟩
    · rintro ⟨hdeclared, d, hd, hname⟩
      exact Schema.eq_of_name_eq (hexcludes d hd) hdeclared hname ▸ hd

/-- In a schema without a comma in its names, queries of one name include and exclude the same. -/
theorem eq_of_name_eq (hcomma : ∀ d ∈ schema.defs, ',' ∉ d.name.toList) {query' : Query}
    (h : query.ResolvedIn schema) (h' : query'.ResolvedIn schema)
    (hname : query.name = query'.name) :
    query.includes = query'.includes ∧ query.excludes = query'.excludes := by
  have hparts : nameParts schema query.includes query.excludes =
      nameParts schema query'.includes query'.excludes := by
    refine eq_of_intercalate_comma_eq (nameParts_commaFree hcomma h)
      (nameParts_commaFree hcomma h') ?_
    exact h.canonical.1.symm.trans (hname.trans h'.canonical.1)
  constructor
  · ext c
    rw [Bool.eq_iff_iff, (contains_iff h c).1, hparts, ← (contains_iff h' c).1]
  · ext c
    rw [Bool.eq_iff_iff, (contains_iff h c).2, hparts, ← (contains_iff h' c).2]

end Query

namespace Store

/-- In a schema without a comma in its names every result is what the query finds. -/
theorem matchesFreshly_of_commaFree (schema : Schema) (historyDepth : Nat)
    (commands : List StoreCommand) (hcomma : ∀ d ∈ schema.defs, ',' ∉ d.name.toList)
    (hresolved : ∀ query, .matching query ∈ commands → query.ResolvedIn schema) :
    (Store.empty schema historyDepth).MatchesFreshly commands := by
  refine matchesFreshly_of_namesakesAgree fun before query between query' hrun hname _ => ?_
  have hsubset := hrun.subset
  have hquery : query.ResolvedIn schema := hresolved query (hsubset (by simp))
  have hquery' : query'.ResolvedIn schema := hresolved query' (hsubset (by simp))
  obtain ⟨hincludes, hexcludes⟩ := Query.eq_of_name_eq hcomma hquery hquery' hname
  rw [Query.matching, Query.matching, hincludes, hexcludes]

/-! ## Names with a comma -/

/-- Two components and a third whose name looks like the exclusion of the second. -/
def misleadingDefs : List ComponentDef :=
  [{ name := "a", default := .null }, { name := "b", default := .null },
   { name := "a,-b", default := .null }]

/-- An entity with the first component is asked for, and then any with the third. -/
def misleadingCommands (first second third : ComponentId) : List StoreCommand :=
  [.register ((Entity.bare ⟨1⟩).set first .null),
   .matching ⟨"+a,-b", .ofList [first], .ofList [second], none⟩,
   .matching ⟨"+a,-b", .ofList [third], ∅, none⟩]

/-- Results are not right in every schema: the entity is given out to a query that it does not
match, because the query shares its name with another one. -/
theorem not_forall_matchesFreshly :
    ¬∀ (defs : List ComponentDef) (schema : Schema), Schema.build defs = .ok schema →
      ∀ (historyDepth : Nat) (commands : List StoreCommand),
        (∀ query, .matching query ∈ commands → query.ResolvedIn schema) →
        (Store.empty schema historyDepth).MatchesFreshly commands := by
  intro h
  have hbuild : Schema.build misleadingDefs =
      .ok ⟨misleadingDefs, by decide, by decide⟩ := by rfl
  let commands := misleadingCommands ⟨0, by decide⟩ ⟨1, by decide⟩ ⟨2, by decide⟩
  have hresolved : ∀ query, .matching query ∈ commands →
      query.ResolvedIn ⟨misleadingDefs, by decide, by decide⟩ := by
    intro query hquery
    simp only [commands, misleadingCommands, List.mem_cons, List.not_mem_nil, or_false,
      reduceCtorEq, false_or, StoreCommand.matching.injEq] at hquery
    rcases hquery with rfl | rfl
    · exact ⟨{ includes := ["a"], excludes := ["b"] }, by decide +kernel⟩
    · exact ⟨{ includes := ["a,-b"] }, by decide +kernel⟩
  have hlast := h misleadingDefs _ hbuild 0 commands hresolved
    commands.dropLast ⟨"+a,-b", .ofList [⟨2, by decide⟩], ∅, none⟩ (List.prefix_refl _)
  revert hlast
  decide +kernel

end Store

end SceneEngine
