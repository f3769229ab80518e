import Extremum.Proofs.Binary64.Arithmetic

/-!
# Distances of doubles

Taking the absolute value keeps undefined what is undefined and finite what is finite. A distance to a double that is
not finite is infinite or undefined, so it is within no finite tolerance. Hence a comparison up to an absolute
tolerance alone has no need to ask whether the second number is finite (`isClose_zero_iff`).
-/

namespace Extremum.Binary64

open Float.Model Float.Model.UnpackedFloat

/-! ## Absolute values -/

theorem stored_abs {a : UnpackedFloat} (h : Stored a) : Stored a.abs := by
  cases a with
  | finite s m e hm => exact h
  | _ => trivial

theorem unpack_abs (x : Float) : x.abs.toModel.unpack = x.toModel.unpack.abs :=
  settled_of_stored (stored_abs (stored x))

@[simp] theorem isNaN_abs (x : Float) : x.abs.isNaN = x.isNaN := by
  change x.abs.toModel.unpack.isNaN = x.toModel.unpack.isNaN
  rw [unpack_abs]
  cases x.toModel.unpack <;> rfl

@[simp] theorem isFinite_abs (x : Float) : x.abs.isFinite = x.isFinite := by
  change x.abs.toModel.unpack.isFinite = x.toModel.unpack.isFinite
  rw [unpack_abs]
  cases x.toModel.unpack <;> rfl

/-! ## Differences -/

theorem isFinite_settled {a : UnpackedFloat} (h : a.isFinite = false) : (settled a).isFinite = false := by
  have hstored : Stored a := by
    cases a with
    | finite s m e hm => cases h
    | _ => trivial
  rw [settled_of_stored hstored, h]

/-- A sum with an operand that is not finite is not finite. -/
theorem isFinite_add (spec : Format) (a : UnpackedFloat) {b : UnpackedFloat} (hb : b.isFinite = false) :
    (UnpackedFloat.add spec a b).isFinite = false := by
  cases b with
  | zero t => cases hb
  | finite t m e hm => cases hb
  | notANumber => cases a <;> rfl
  | infinity t =>
    cases a with
    | infinity s => cases s <;> cases t <;> rfl
    | _ => rfl

section Differences

variable {t x y : Float}

/-- Nothing finite comes of taking an infinite or undefined double away. -/
theorem isFinite_sub (hy : y.isFinite = false) : (x - y).isFinite = false := by
  change y.toModel.unpack.isFinite = false at hy
  change (x - y).toModel.unpack.isFinite = false
  rw [← isFinite_neg] at hy
  rw [unpack_sub, sub_eq_add_neg]
  exact isFinite_settled (isFinite_add _ _ hy)

/-- No finite tolerance reaches a double that is not finite. -/
theorem not_abs_sub_le (hy : y.isFinite = false) (ht : t.isFinite = true) : ¬(x - y).abs ≤ t := by
  intro h
  have hdefined : (x - y).isNaN = false := (isNaN_abs _).symm.trans (defined_of_le h).1
  have hdistance : (x - y).isFinite = false := isFinite_sub hy
  rcases isFinite_or hdefined with hfinite | ⟨s, hinfinite⟩
  · rw [hdistance] at hfinite
    cases hfinite
  · have hunpacked : (x - y).abs.toModel.unpack = .infinity .positive := by
      rw [unpack_abs, hinfinite]
      rfl
    exact not_le_of_unpack_infinity hunpacked ht h

end Differences

/-! ## Closeness -/

section Closeness

variable {t x y : Float}

theorem unpack_mul (x y : Float) : (x * y).toModel.unpack =
    settled (UnpackedFloat.mul Format.binary64 x.toModel.unpack y.toModel.unpack) := rfl

theorem exists_zero_mul (spec : Format) {a : UnpackedFloat} (ha : a.isFinite = true) :
    ∃ s, UnpackedFloat.mul spec (.zero .positive) a = .zero s := by
  cases a with
  | notANumber => cases ha
  | infinity s => cases ha
  | zero s => exact ⟨.positive * s, rfl⟩
  | finite s m e hm => exact ⟨.positive * s, rfl⟩

/-- Zero times a finite double is a zero, whose sign is that of the double. -/
theorem unpack_zero_mul (hx : x.isFinite = true) : ∃ s, (0 * x).toModel.unpack = .zero s := by
  obtain ⟨s, hs⟩ := exists_zero_mul Format.binary64 (a := x.toModel.unpack) hx
  refine ⟨s, ?_⟩
  rw [unpack_mul, unpack_zero, hs]
  exact settled_of_stored (a := .zero s) trivial

/-- A tolerance relative to a finite double, by the factor zero, adds nothing. -/
theorem integer_add_zero_mul (ht : t.isNaN = false) (hx : x.isFinite = true) :
    (t + 0 * x).isNaN = false ∧ integer (t + 0 * x) = integer t := by
  obtain ⟨s, hzero⟩ := unpack_zero_mul hx
  change (t + 0 * x).toModel.unpack.isNaN = false ∧ units (t + 0 * x).toModel.unpack = integer t
  rw [unpack_add, hzero]
  exact settled_add_zero (stored t) ht s

/-- Within an absolute tolerance alone, closeness is a matter of the distance, or of equality. -/
theorem isClose_zero_iff (ht : t.isFinite = true) :
    Scalar.isClose 0 t x y = true ↔ (x - y).abs ≤ t ∨ (x == y) = true := by
  have hdefined : t.isNaN = false := isNaN_of_isFinite ht
  have hclose : Scalar.isClose 0 t x y = true ↔
      (x == y) = true ∨ y.isFinite = true ∧ (x - y).abs ≤ t + 0 * y.abs := by
    change ((x == y) || (y.isFinite && decide ((x - y).abs ≤ t + 0 * y.abs))) = true ↔ _
    rw [Bool.or_eq_true, Bool.and_eq_true, decide_eq_true_iff]
  have hdistance : y.isFinite = true ∧ (x - y).abs ≤ t + 0 * y.abs ↔ (x - y).abs ≤ t := by
    cases hy : y.isFinite with
    | false =>
      have hfar : ¬(x - y).abs ≤ t := not_abs_sub_le hy ht
      exact ⟨fun h ↦ absurd h.1 Bool.false_ne_true, fun h ↦ absurd h hfar⟩
    | true =>
      have habs : y.abs.isFinite = true := by rw [isFinite_abs, hy]
      obtain ⟨hsum, hvalue⟩ := integer_add_zero_mul hdefined habs
      rw [and_iff_right rfl]
      constructor
      · intro h
        have hleft := (defined_of_le h).1
        rwa [le_iff_integer hleft hsum, hvalue, ← le_iff_integer hleft hdefined] at h
      · intro h
        have hleft := (defined_of_le h).1
        rwa [le_iff_integer hleft hdefined, ← hvalue, ← le_iff_integer hleft hsum] at h
  rw [hclose, hdistance, or_comm]

end Closeness

end Extremum.Binary64
