import Mathlib.Data.List.DropRight
import SceneEngine.Proofs.Shading.NameSearch
import SceneEngine.Proofs.Shading.NodeForms

/-!
# Normal names

Authors write names of nodes and sockets with blanks, dots, hyphens and capital letters.  Before two
such names are compared or put into a program, they are brought into a normal form.  This module
shows that this is a projection, describes it in two independent ways, and shows that a reference to
a socket survives being written as a path.

## Runs of letters and digits

A name is in normal form when it consists of runs of letters and digits with single underscores
between them (`Identifier.IsRuns`).  Sanitizing brings every name into this form and keeps those
that are in it, so doing it again changes nothing.  The names that are tidy in the sense of the
generated names are those in normal form that are not empty (`isRuns_iff`).

## Folding as one writes

The definition looks at a name character by character and remembers whether a separator is owed.
Another way of saying what it does is one pass that writes an underscore for each separator at once,
unless there is one at the end already or nothing has been written, and drops those left at the end
(`Identifier.sanitize_eq_fold`).  The invariant that connects the two compares what has been written
with what has been written for good and an underscore that is still in question (`owed`).

## Paths

The path of a reference is the node and the socket with a dot between them.  An id may contain dots
itself, but a normal name has none, so the path falls apart at its last dot into the node and the
socket again (`SocketRef.parse?_path`).

The main result is `Identifier.normalizes_names`.
-/

namespace SceneEngine.Shading

namespace Identifier

variable {cs ds base : List Char} {c : Char} {name : String}

/-! ## Runs of letters and digits -/

/-- The name consists of runs of letters and digits, none of them empty, with single underscores
between them.  Without any run it is empty. -/
def IsRuns (name : String) : Prop :=
  ∃ runs : List String, (∀ run ∈ runs, run ≠ "" ∧ ∀ c ∈ run.toList, c.isAlphanum = true) ∧
    name = "_".intercalate runs

/-- A tidy name falls into its runs. -/
lemma Tidy.exists_runs (h : Tidy cs) :
    ∃ runs : List (List Char), runs ≠ [] ∧
      (∀ run ∈ runs, run ≠ [] ∧ ∀ c ∈ run, isWordChar c = true) ∧ cs = ['_'].intercalate runs := by
  induction h with
  | @last c hc => exact ⟨[[c]], by simp, by simpa using hc, by simp⟩
  | @next c cs hc hcs ih =>
    obtain ⟨runs, hne, hruns, rfl⟩ := ih
    obtain ⟨run, runs, rfl⟩ := List.exists_cons_of_ne_nil hne
    obtain ⟨⟨-, hrun⟩, hruns⟩ := List.forall_mem_cons.mp hruns
    refine ⟨(c :: run) :: runs, List.cons_ne_nil _ _, List.forall_mem_cons.mpr
      ⟨⟨List.cons_ne_nil c run, List.forall_mem_cons.mpr ⟨hc, hrun⟩⟩, hruns⟩, ?_⟩
    cases runs with
    | nil => simp
    | cons next runs => simp [List.intercalate_cons_cons]
  | @gap c cs hc hcs ih =>
    obtain ⟨runs, hne, hruns, rfl⟩ := ih
    refine ⟨[c] :: runs, List.cons_ne_nil _ _,
      List.forall_mem_cons.mpr ⟨by simpa using hc, hruns⟩, ?_⟩
    rw [List.intercalate_cons_of_ne_nil hne]
    rfl

/-- A name is made of runs if it is empty or tidy, and only then. -/
lemma isRuns_iff : IsRuns name ↔ name = "" ∨ Tidy name.toList := by
  constructor
  · rintro ⟨runs, hruns, rfl⟩
    by_cases hne : runs = []
    · exact .inl (by rw [hne]; rfl)
    · rw [String.toList_intercalate]
      refine .inr (tidy_intercalate (by simpa using hne) fun cs hcs => ?_)
      obtain ⟨run, hrun, rfl⟩ := List.mem_map.mp hcs
      obtain ⟨hrun, hchars⟩ := hruns run hrun
      exact .of_forall (by simpa using hrun) fun c hc => (isWordChar_eq c).trans (hchars c hc)
  · rintro (rfl | htidy)
    · exact ⟨[], List.forall_mem_nil _, rfl⟩
    · obtain ⟨runs, -, hruns, hname⟩ := htidy.exists_runs
      refine ⟨runs.map String.ofList, fun run hrun => ?_, ?_⟩
      · obtain ⟨cs, hcs, rfl⟩ := List.mem_map.mp hrun
        obtain ⟨hne, hchars⟩ := hruns cs hcs
        refine ⟨by simpa using hne, fun c hc => ?_⟩
        rw [← isWordChar_eq]
        exact hchars c (by simpa using hc)
      · rw [← String.toList_inj, String.toList_intercalate, hname]
        simp [Function.comp_def]

/-- Sanitizing brings every name into normal form. -/
lemma isRuns_sanitize (name : String) : IsRuns (sanitize name) :=
  isRuns_iff.mpr (sanitize_cases name)

/-- So does making it a key, which changes nothing else but capital letters. -/
lemma isRuns_socketKey (name : String) : IsRuns (socketKey name) := by
  rw [isRuns_iff, socketKey, String.toList_ofList]
  rcases joinRuns_cases false name.toList with h | h
  · exact .inl (by rw [h]; rfl)
  · exact .inr h.map_toLower

/-- A name in normal form has no dots. -/
lemma IsRuns.notMem_dot (h : IsRuns name) : '.' ∉ name.toList := by
  intro hdot
  rcases isRuns_iff.mp h with rfl | htidy
  · cases hdot
  · exact absurd (htidy.isNameChar_of_mem hdot) (by decide)

/-- A name made of runs is kept as it is. -/
lemma sanitize_eq_self (h : IsRuns name) : sanitize name = name := by
  rcases isRuns_iff.mp h with rfl | htidy
  · rfl
  · rw [sanitize, htidy.joinRuns_eq, String.ofList_toList]

/-! ## Folding as one writes -/

/-- Writes one more character.  What is no letter or digit is written as an underscore, but neither
at the start nor behind another underscore. -/
def writeFolded (written : List Char) (c : Char) : List Char :=
  if isWordChar c then written ++ [c]
  else if written = [] ∨ written.getLast? = some '_' then written
  else written ++ ['_']

/-- The underscore that is written already when it is owed. -/
def owed (base : List Char) (gap : Bool) : List Char := if !base.isEmpty && gap then ['_'] else []

lemma owed_false (base : List Char) : owed base false = [] := by rw [owed, Bool.and_false]; rfl

lemma writeFolded_of_isWordChar (hc : isWordChar c = true) (written : List Char) :
    writeFolded written c = written ++ [c] := if_pos hc

/-- A separator leaves an underscore, if something has been written. -/
lemma writeFolded_owed (hc : isWordChar c = false) (hbase : base.getLast? ≠ some '_')
    (gap : Bool) : writeFolded (base ++ owed base gap) c = base ++ owed base true := by
  rw [writeFolded, if_neg (Bool.not_eq_true _ ▸ hc)]
  cases base with
  | nil => rfl
  | cons d base =>
    cases gap with
    | false => simp [owed, hbase]
    | true =>
      have hlast : (d :: base ++ owed (d :: base) true).getLast? = some '_' := List.getLast?_concat
      rw [if_pos (.inr hlast)]

/-- Dropping underscores from the end leaves what was written for good. -/
lemma rdropWhile_owed (hbase : base.getLast? ≠ some '_') (gap : Bool) :
    (base ++ owed base gap).rdropWhile (· == '_') = base := by
  have hself : base.rdropWhile (· == '_') = base := by
    refine List.rdropWhile_eq_self_iff.mpr fun hne hlast => hbase ?_
    rw [List.getLast?_eq_some_getLast hne, eq_of_beq hlast]
  rw [owed]
  split
  · rw [List.rdropWhile_concat_pos _ _ _ (by decide), hself]
  · rw [List.append_nil, hself]

/-- Writing goes on from a base that is written for good, with the underscore that may have to be
dropped behind it. -/
lemma foldl_writeFolded (hbase : base.getLast? ≠ some '_') (gap : Bool) (cs : List Char) :
    (cs.foldl writeFolded (base ++ owed base gap)).rdropWhile (· == '_') =
      base ++ joinRuns (!base.isEmpty) gap cs := by
  induction cs generalizing base gap with
  | nil => rw [List.foldl_nil, rdropWhile_owed hbase, joinRuns, List.append_nil]
  | cons c cs ih =>
    rw [List.foldl_cons, joinRuns]
    split
    next hc =>
      -- the underscore is no longer in question, so it belongs to the base from here on
      have hnext : (base ++ owed base gap ++ [c]).getLast? ≠ some '_' := by
        simpa using ne_underscore hc
      have hstarted : (base ++ owed base gap ++ [c]).isEmpty = false := by simp
      have hrest := ih hnext false
      rw [hstarted, owed_false, List.append_nil] at hrest
      rw [writeFolded_of_isWordChar hc, hrest, owed]
      split
      · simp
      · simp
    next hc =>
      rw [writeFolded_owed (Bool.not_eq_true _ ▸ hc) hbase]
      exact ih hbase true

/-- Sanitizing comes to one pass that folds separators as it writes and drops those left at the
end. -/
theorem sanitize_eq_fold (name : String) :
    sanitize name =
      String.ofList ((name.toList.foldl writeFolded []).rdropWhile (· == '_')) := by
  have hbase : ([] : List Char).getLast? ≠ some '_' := by simp
  have hfold := foldl_writeFolded hbase false name.toList
  rw [sanitize]
  exact congrArg String.ofList hfold.symm

example : sanitize "__a--b__" = "a_b" := by decide

end Identifier

/-! ## Paths of references -/

open Identifier

/-- Without the separator there is nothing to split at. -/
lemma splitAtLast_eq_none {separator : Char} {cs : List Char} (h : separator ∉ cs) :
    splitAtLast separator cs = none := by
  induction cs with
  | nil => rfl
  | cons c cs ih =>
    obtain ⟨hc, hcs⟩ := not_or.mp (mt List.mem_cons.mpr h)
    rw [splitAtLast, ih hcs, if_neg (Ne.symm hc)]

/-- What is split off has no separator in it, so the place is the last one. -/
lemma splitAtLast_append {separator : Char} {front back : List Char} (h : separator ∉ back) :
    splitAtLast separator (front ++ separator :: back) = some (front, back) := by
  induction front with
  | nil => rw [List.nil_append, splitAtLast, splitAtLast_eq_none h, if_pos rfl]
  | cons c front ih => rw [List.cons_append, splitAtLast, ih]

namespace SocketRef

variable {ref : SocketRef}

/-- The path of a reference to a normal socket leads back to the reference. -/
theorem parse?_path (hnode : ref.node ≠ "") (hsocket : ref.socket ≠ "") (h : ref.IsNormal) :
    parse? ref.path = some ref := by
  have hpath : ref.path.toList = ref.node.toList ++ '.' :: ref.socket.toList := by
    rw [path, String.toList_append, String.toList_append, List.append_assoc]
    rfl
  have hdot : '.' ∉ ref.socket.toList := (h ▸ isRuns_socketKey ref.socket).notMem_dot
  have hpresent : (ref.node.toList.isEmpty || ref.socket.toList.isEmpty) = false := by
    simp [hnode, hsocket]
  rw [parse?, hpath, splitAtLast_append hdot]
  dsimp only
  rw [hpresent, if_neg Bool.false_ne_true, String.ofList_toList, String.ofList_toList, normalized,
    h]

end SocketRef

/-! ## Normalizing -/

/-- Sanitizing is a projection onto the names made of runs, socket names are normalized once and for
all, and a reference to a normal socket can be read from its path. -/
theorem Identifier.normalizes_names :
    (∀ name, IsRuns (sanitize name) ∧ (sanitize name = name ↔ IsRuns name) ∧
      sanitize (sanitize name) = sanitize name ∧
      sanitize name =
        String.ofList ((name.toList.foldl writeFolded []).rdropWhile (· == '_')) ∧
      IsRuns (socketKey name) ∧ socketKey (socketKey name) = socketKey name) ∧
    ∀ ref : SocketRef, ref.node ≠ "" → ref.socket ≠ "" → ref.IsNormal →
      SocketRef.parse? ref.path = some ref := by
  refine ⟨fun name => ?_, fun ref => SocketRef.parse?_path⟩
  have hruns := isRuns_sanitize name
  exact ⟨hruns, ⟨fun h => h ▸ hruns, sanitize_eq_self⟩, sanitize_eq_self hruns,
    sanitize_eq_fold name, isRuns_socketKey name, socketKey_socketKey name⟩

/-- A name of two runs, and a socket of a node whose name has a dot. -/
theorem Identifier.normalizes_names_dotted :
    sanitize "Base_Color" = "Base_Color" ∧
      SocketRef.parse? "Mix.001.base_color" = some ⟨"Mix.001", "base_color"⟩ := by
  have hruns : IsRuns "Base_Color" :=
    ⟨["Base", "Color"], by simp, by decide⟩
  have hnormal : SocketRef.IsNormal ⟨"Mix.001", "base_color"⟩ := by
    rw [SocketRef.IsNormal]
    decide
  exact ⟨(normalizes_names.1 "Base_Color").2.1.mpr hruns,
    normalizes_names.2 ⟨"Mix.001", "base_color"⟩ (by decide) (by decide) hnormal⟩

end SceneEngine.Shading
