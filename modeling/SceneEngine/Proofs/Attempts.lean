import Mathlib.Data.List.Forall2
import Mathlib.Tactic.Common

/-!
# Attempts

An attempt (`Except`) is refused with a reason or gives a result.  Nearly every operation of the
store and of the compiler is one, and most proofs about them begin by taking a chain of attempts
apart.  The lemmas here do that, so that no such proof has to unfold how attempts are chained.

## Chains

`bind_eq_ok_iff` says that a chain succeeds when its first attempt does and the rest does with its
result, and `bind_eq_error_iff` at which of the two it fails.  A chain is worked out forwards with
`ok_bind` and `error_bind`, which are tagged for `simp` as all equations of this kind are.

## Lists

Attempts for every element of a list (`mapM`, `forM`) succeed when each of them does, and fail with
the reason of one of them.  For steps along a list (`foldlM`) there is an induction principle:
`foldlM_cases` carries an invariant over the elements that are done, to the end or to the step that
fails.

## Side by side

`Parallel` relates two attempts that are refused together or succeed together with related results.
It is used where something is done in two forms or in two orders, and is kept by chaining and by
steps along a list.
-/

namespace SceneEngine

variable {ε α β : Type} {attempt : Except ε α} {a : α} {b : β} {reason : ε}

@[simp] lemma ok_bind (f : α → Except ε β) : (Except.ok a >>= f) = f a := rfl

@[simp] lemma error_bind (f : α → Except ε β) :
    ((Except.error reason : Except ε α) >>= f) = .error reason := rfl

@[simp] lemma except_map_ok (f : α → β) : (Except.ok a : Except ε α).map f = .ok (f a) := rfl

@[simp] lemma except_map_error (f : α → β) :
    (Except.error reason : Except ε α).map f = .error reason := rfl

@[simp] lemma toOption_ok : (Except.ok a : Except ε α).toOption = some a := rfl

@[simp] lemma toOption_error : (Except.error reason : Except ε α).toOption = none := rfl

/-- A result is an option exactly when the attempt is not refused. -/
lemma toOption_eq_some_iff : attempt.toOption = some a ↔ attempt = .ok a := by
  cases attempt with
  | error reason => simp
  | ok a' => simp

/-- Rewording a reason changes no result. -/
lemma mapError_eq_ok_iff {ε' : Type} {f : ε → ε'} :
    attempt.mapError f = .ok a ↔ attempt = .ok a := by
  cases attempt with
  | error reason => simp [Except.mapError]
  | ok a' => simp [Except.mapError]

/-- Changing a result changes no reason. -/
lemma map_eq_error_iff {f : α → β} : attempt.map f = .error reason ↔ attempt = .error reason := by
  cases attempt with
  | error reason' => simp
  | ok a => simp

/-- A chain succeeds when its first attempt does and the rest does with its result. -/
lemma bind_eq_ok_iff {f : α → Except ε β} :
    (attempt >>= f) = .ok b ↔ ∃ a, attempt = .ok a ∧ f a = .ok b := by
  cases attempt with
  | error reason => simp
  | ok a => simp

/-- A chain fails with a reason when its first attempt does, or when the rest does after it. -/
lemma bind_eq_error_iff {f : α → Except ε β} :
    (attempt >>= f) = .error reason ↔
      attempt = .error reason ∨ ∃ a, attempt = .ok a ∧ f a = .error reason := by
  cases attempt with
  | error reason' => simp
  | ok a => simp

/-! ## Attempts along a list -/

/-- Attempts for every element succeed when each of them does.  The results stand in the order of
the elements. -/
lemma mapM_eq_ok_iff {f : α → Except ε β} {l : List α} {results : List β} :
    l.mapM f = .ok results ↔ List.Forall₂ (fun a b => f a = .ok b) l results := by
  induction l generalizing results with
  | nil =>
    rw [List.mapM_nil, List.forall₂_nil_left_iff]
    exact ⟨fun h => (Except.ok.inj h).symm, fun h => h ▸ rfl⟩
  | cons a l ih =>
    rw [List.mapM_cons, bind_eq_ok_iff, List.forall₂_cons_left_iff]
    constructor
    · rintro ⟨b, hb, h⟩
      obtain ⟨rest, hrest, h⟩ := bind_eq_ok_iff.mp h
      exact ⟨b, rest, hb, ih.mp hrest, (Except.ok.inj h).symm⟩
    · rintro ⟨b, rest, hb, hrest, rfl⟩
      exact ⟨b, hb, bind_eq_ok_iff.mpr ⟨rest, ih.mpr hrest, rfl⟩⟩

/-- The results of attempts for every element are the results for the elements. -/
lemma mem_iff_of_mapM_eq_ok {f : α → Except ε β} {l : List α} {results : List β}
    (h : l.mapM f = .ok results) : b ∈ results ↔ ∃ a ∈ l, f a = .ok b := by
  induction mapM_eq_ok_iff.mp h with
  | nil => simp
  | @cons a b' l results hfirst hrest ih =>
    rw [List.mem_cons, List.exists_mem_cons_iff, ih (mapM_eq_ok_iff.mpr hrest), hfirst,
      Except.ok.injEq, eq_comm]

/-- When attempts for every element succeed, each of them does. -/
lemma exists_of_mapM_eq_ok {f : α → Except ε β} {l : List α} {results : List β}
    (h : l.mapM f = .ok results) (ha : a ∈ l) : ∃ b, f a = .ok b := by
  induction mapM_eq_ok_iff.mp h with
  | nil => cases ha
  | @cons a' b l results hfirst hrest ih =>
    rcases List.mem_cons.mp ha with rfl | ha
    · exact ⟨b, hfirst⟩
    · exact ih (mapM_eq_ok_iff.mpr hrest) ha

/-- When attempts for every element fail, one of them does, with that reason. -/
lemma exists_of_mapM_eq_error {f : α → Except ε β} {l : List α}
    (h : l.mapM f = .error reason) : ∃ a ∈ l, f a = .error reason := by
  induction l with
  | nil => cases h
  | cons a l ih =>
    rw [List.mapM_cons, bind_eq_error_iff] at h
    rcases h with ha | ⟨b, -, h⟩
    · exact ⟨a, List.mem_cons_self, ha⟩
    · rcases bind_eq_error_iff.mp h with hrest | ⟨rest, -, h⟩
      · obtain ⟨a', ha', hreason⟩ := ih hrest
        exact ⟨a', List.mem_cons_of_mem _ ha', hreason⟩
      · cases h

/-- What options for every element give comes from one of the elements. -/
lemma exists_of_mem_of_mapM_eq_some {f : α → Option β} {l : List α} {results : List β}
    (h : l.mapM f = some results) (hb : b ∈ results) : ∃ a ∈ l, f a = some b := by
  induction l generalizing results with
  | nil =>
    cases h
    cases hb
  | cons a l ih =>
    rw [List.mapM_cons] at h
    obtain ⟨first, hfirst, h⟩ := Option.bind_eq_some_iff.mp h
    obtain ⟨rest, hrest, h⟩ := Option.bind_eq_some_iff.mp h
    cases h
    rcases List.mem_cons.mp hb with rfl | hb
    · exact ⟨a, List.mem_cons_self, hfirst⟩
    · obtain ⟨a', ha', hresult⟩ := ih hrest hb
      exact ⟨a', List.mem_cons_of_mem a ha', hresult⟩

/-- Checks of every element pass when each of them does. -/
lemma forM_eq_ok_iff {f : α → Except ε Unit} {l : List α} {u : Unit} :
    l.forM f = .ok u ↔ ∀ a ∈ l, f a = .ok () := by
  induction l with
  | nil => exact ⟨fun _ a ha => absurd ha List.not_mem_nil, fun _ => rfl⟩
  | cons a l ih =>
    have hcons : (a :: l).forM f = f a >>= fun _ => l.forM f := rfl
    rw [hcons, bind_eq_ok_iff, List.forall_mem_cons, ← ih]
    exact ⟨fun ⟨_, ha, hrest⟩ => ⟨ha, hrest⟩, fun ⟨ha, hrest⟩ => ⟨(), ha, hrest⟩⟩

/-- When checks of every element fail, one of them does, with that reason. -/
lemma exists_of_forM_eq_error {f : α → Except ε Unit} {l : List α}
    (h : l.forM f = .error reason) : ∃ a ∈ l, f a = .error reason := by
  induction l with
  | nil => cases h
  | cons a l ih =>
    have hcons : (a :: l).forM f = f a >>= fun _ => l.forM f := rfl
    rw [hcons, bind_eq_error_iff] at h
    rcases h with ha | ⟨-, -, hrest⟩
    · exact ⟨a, List.mem_cons_self, ha⟩
    · obtain ⟨a', ha', hreason⟩ := ih hrest
      exact ⟨a', List.mem_cons_of_mem _ ha', hreason⟩

/-- What every step along a list keeps, given the elements that are done, holds at its end; and when
a step fails, it held before that step. -/
lemma foldlM_cases {f : β → α → Except ε β} {Inv : List α → β → Prop} (l : List α)
    (hstep : ∀ done a b b', Inv done b → f b a = .ok b' → Inv (done ++ [a]) b')
    {done : List α} (h : Inv done b) :
    (∃ b', l.foldlM f b = .ok b' ∧ Inv (done ++ l) b') ∨
      ∃ reason before a after b', l.foldlM f b = .error reason ∧ l = before ++ a :: after ∧
        Inv (done ++ before) b' ∧ f b' a = .error reason := by
  induction l generalizing done b with
  | nil => exact .inl ⟨b, rfl, by simpa using h⟩
  | cons a l ih =>
    rw [List.foldlM_cons]
    -- the first step fails, or the rest goes on with one more element done
    cases hfirst : f b a with
    | error reason =>
      exact .inr ⟨reason, [], a, l, b, rfl, rfl, by simpa using h, hfirst⟩
    | ok b' =>
      rcases ih (hstep done a b b' h hfirst) with ⟨b'', hok, hinv⟩ |
        ⟨reason, before, a', after, b'', herror, rfl, hinv, hfail⟩
      · exact .inl ⟨b'', hok, by simpa using hinv⟩
      · exact .inr ⟨reason, a :: before, a', after, b'', herror, rfl, by simpa using hinv, hfail⟩

/-- What every step along a list keeps, given the elements that are done, holds when all of them
have succeeded. -/
lemma inv_of_foldlM_eq_ok {f : β → α → Except ε β} {l : List α} {c : β} (Inv : List α → β → Prop)
    (hstep : ∀ done a b b', Inv done b → f b a = .ok b' → Inv (done ++ [a]) b') (h : Inv [] b)
    (hok : l.foldlM f b = .ok c) : Inv l c := by
  rcases foldlM_cases l hstep h with ⟨b', hb', hinv⟩ | ⟨reason, -, -, -, -, herror, -⟩
  · obtain rfl := Except.ok.inj (hok.symm.trans hb')
    exact hinv
  · rw [hok] at herror
    cases herror

/-! ## Attempts side by side -/

/-- Two attempts are both refused, or both give a result, and the results are related. -/
inductive Parallel {ε α β : Type} (R : α → β → Prop) : Except ε α → Except ε β → Prop
  /-- Both are refused; the reasons may differ. -/
  | refused (reason reason' : ε) : Parallel R (.error reason) (.error reason')
  /-- Both give a result, and the results are related. -/
  | given {a : α} {b : β} (h : R a b) : Parallel R (.ok a) (.ok b)

namespace Parallel

variable {γ δ : Type} {R : α → β → Prop} {S : γ → δ → Prop} {attempt' : Except ε β}

lemma bind {f : α → Except ε γ} {g : β → Except ε δ} (h : Parallel R attempt attempt')
    (hrest : ∀ a b, R a b → Parallel S (f a) (g b)) :
    Parallel S (attempt >>= f) (attempt' >>= g) := by
  cases h with
  | refused reason reason' => exact .refused reason reason'
  | given h => exact hrest _ _ h

lemma refl {R : α → α → Prop} (hR : ∀ a, R a a) (attempt : Except ε α) :
    Parallel R attempt attempt := by
  cases attempt with
  | error reason => exact .refused reason reason
  | ok a => exact .given (hR a)

lemma mapError {ε' : Type} (h : Parallel R attempt attempt') (f : ε → ε') :
    Parallel R (attempt.mapError f) (attempt'.mapError f) := by
  cases h with
  | refused reason reason' => exact .refused _ _
  | given h => exact .given h

/-- Steps along a list that keep a relation keep it along the whole list. -/
lemma foldlM {f : α → γ → Except ε α} {g : β → γ → Except ε β} {l : List γ}
    (hstep : ∀ a b, R a b → ∀ c ∈ l, Parallel R (f a c) (g b c)) (h : R a b) :
    Parallel R (l.foldlM f a) (l.foldlM g b) := by
  induction l generalizing a b with
  | nil => exact .given h
  | cons c l ih =>
    rw [List.foldlM_cons, List.foldlM_cons]
    refine (hstep a b h c List.mem_cons_self).bind fun a' b' h' => ih ?_ h'
    exact fun a b h d hd => hstep a b h d (List.mem_cons_of_mem _ hd)

end Parallel

end SceneEngine
