import Mathlib
import SceneEngine.Vec

/-!
# Equality of vectors

Vectors are compared numerically, coordinate by coordinate.  A number equals itself unless it is a
NaN, and it equals no number with other bits, except that the two zeros are equal.  So equality of
vectors and equality of their bits part in two places.

* A vector with the same bits is equal unless a coordinate is a NaN (`Vec.beq_iff_of_sameBits`).
* An equal vector has the same bits unless a zero changes its sign (`Vec.sameBits_iff_of_beq`).

`Vec.HasNaN` and `Vec.FlipsZero` name the two exceptions.  They are what `Proofs/Store/Sameness` has
to take out when it says which values count as the same.  That equality is symmetric is all that is
left of an equivalence.
-/

namespace SceneEngine.Vec

variable {n : Nat} {v w : Vec n}

/-- The coordinates of two vectors have the same bits.  As `Float32` has a single NaN, two NaNs have
the same bits whatever payload they were made with; all other numbers are told apart by them, and
the two zeros as well. -/
def SameBits (v w : Vec n) : Prop :=
  ∀ i : Fin n, v.coordinates[i].toBits = w.coordinates[i].toBits

/-- A coordinate is a NaN. -/
def HasNaN (v : Vec n) : Prop := ∃ i : Fin n, v.coordinates[i].isNaN = true

/-- A coordinate is zero in both vectors, but not with the same sign. -/
def FlipsZero (v w : Vec n) : Prop :=
  ∃ i : Fin n, (v.coordinates[i] = 0 ∧ w.coordinates[i] = -0) ∨
    (v.coordinates[i] = -0 ∧ w.coordinates[i] = 0)

lemma beq_iff : (v == w) = true ↔ ∀ i : Fin n, (v.coordinates[i] == w.coordinates[i]) = true := by
  change ((v.coordinates.toList.zip w.coordinates.toList).all fun p => p.1 == p.2) = true ↔ _
  have hlength : (v.coordinates.toList.zip w.coordinates.toList).length = n := by simp
  rw [List.all_eq_true, List.forall_mem_iff_forall_getElem]
  simp only [List.getElem_zip, Vector.getElem_toList]
  exact ⟨fun h i => h i.val (hlength.symm ▸ i.isLt), fun h i hi => h ⟨i, hlength ▸ hi⟩⟩

lemma beq_comm : (v == w) = (w == v) := by
  rw [Bool.eq_iff_iff, beq_iff, beq_iff]
  exact forall_congr' fun i => by rw [BEq.comm]

/-- A vector equals one with the same bits unless a coordinate is a NaN. -/
lemma beq_iff_of_sameBits (h : v.SameBits w) : (v == w) = true ↔ ¬w.HasNaN := by
  rw [beq_iff, HasNaN, not_exists]
  refine forall_congr' fun i => ?_
  rw [Float32.toBits_inj.mp (h i), Float32.beq_self_iff, Float32.isNaN_eq_decide_eq_nan,
    decide_eq_true_iff]

/-- Equal vectors have the same bits unless a zero changes its sign. -/
lemma sameBits_iff_of_beq (h : (v == w) = true) : v.SameBits w ↔ ¬v.FlipsZero w := by
  have hzeros : (0 : Float32) ≠ -0 := by
    rw [ne_eq, ← Float32.toBits_inj]
    decide +kernel
  rw [SameBits, FlipsZero, not_exists]
  refine forall_congr' fun i => ?_
  rw [Float32.toBits_inj]
  -- equal numbers are the same, or they are the two zeros in one order or the other
  obtain ⟨-, -, heq | ⟨hv, hw⟩ | ⟨hv, hw⟩⟩ := Float32.beq_iff_ne_nan_and_eq.mp (beq_iff.mp h i)
  · rw [heq]
    refine iff_of_true rfl ?_
    rintro (⟨hpositive, hnegative⟩ | ⟨hnegative, hpositive⟩)
    · exact hzeros (hpositive.symm.trans hnegative)
    · exact hzeros (hpositive.symm.trans hnegative)
  · rw [hv, hw]
    exact iff_of_false hzeros fun hnot => hnot (.inl ⟨rfl, rfl⟩)
  · rw [hv, hw]
    exact iff_of_false hzeros.symm fun hnot => hnot (.inr ⟨rfl, rfl⟩)

end SceneEngine.Vec
