/-!
# Erasing by swapping

An insertion-ordered collection can give up an entry without shifting the entries behind it: the
last entry moves into the hole.  Up to order this is the usual erasure (`swapErase_perm`), so a list
without repetitions stays one (`nodup_swapErase`).  When the entry to erase is the last one, nothing
moves.
-/

namespace SceneEngine

variable {α β : Type}

/-- Removes the first element that satisfies `p` and moves the last element into its place.  The
recursion goes down to the hole; the elements before it stay where they are. -/
def swapErase (p : α → Bool) : List α → List α
  | [] => []
  | a :: l =>
    if p a then
      match l.getLast? with
      | none => []
      | some z => z :: l.dropLast
    else a :: swapErase p l

/-- Moving the last element to the front only reorders a list. -/
theorem last_cons_dropLast_perm {l : List α} {z : α} (h : l.getLast? = some z) :
    (z :: l.dropLast).Perm l := by
  obtain ⟨ys, rfl⟩ := List.getLast?_eq_some_iff.mp h
  simpa using (List.perm_append_singleton z ys).symm

/-- Up to order, erasing by swapping is erasing. -/
theorem swapErase_perm (p : α → Bool) (l : List α) : (swapErase p l).Perm (l.eraseP p) := by
  induction l with
  | nil => exact .refl _
  | cons a l ih =>
    by_cases ha : p a
    · cases hl : l.getLast? with
      | none =>
        have hnil : l = [] := List.getLast?_eq_none_iff.mp hl
        simp [swapErase, ha, hnil]
      | some z => simpa [swapErase, ha, hl] using last_cons_dropLast_perm hl
    · simpa [swapErase, ha] using ih

/-- Erasing keeps the images of the elements distinct.  For maps, where the keys are such images. -/
theorem nodup_map_swapErase (f : α → β) {p : α → Bool} {l : List α} (h : (l.map f).Nodup) :
    ((swapErase p l).map f).Nodup := by
  have hs : ((l.eraseP p).map f).Sublist (l.map f) := (List.eraseP_sublist).map f
  exact (((swapErase_perm p l).map f).nodup_iff).mpr (h.sublist hs)

/-- Erasing keeps the elements distinct. -/
theorem nodup_swapErase {p : α → Bool} {l : List α} (h : l.Nodup) : (swapErase p l).Nodup := by
  simpa using nodup_map_swapErase id (p := p) (l := l) (by simpa using h)

end SceneEngine
