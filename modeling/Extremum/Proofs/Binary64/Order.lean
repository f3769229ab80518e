import Extremum.Scalar

/-!
# The order of doubles

Two doubles that are both defined can be compared: one of them is below the other, or they are equal. This
is why an interval whose limits are not in the wrong order has them in the right one, and why a number that
is not at most zero is positive. The facts are read off the logical model of doubles, where a comparison
looks at signs first, then at exponents and mantissas.
-/

namespace Extremum.Binary64

open Float.Model Float.Model.UnpackedFloat

theorem sign_compare_swap (s t : Sign) : compare s t = (compare t s).swap := by
  cases s <;> cases t <;> rfl

theorem magnitude_compare_swap (e₁ e₂ : Int) (m₁ m₂ : Nat) :
    (compare e₁ e₂).then (compare m₁ m₂) = ((compare e₂ e₁).then (compare m₂ m₁)).swap := by
  rw [Ordering.swap_then, ← Int.compare_swap e₁ e₂, ← Nat.compare_swap m₁ m₂]
  simp

/-- Comparing the other way round gives the opposite answer. -/
theorem compare_swap (a b : UnpackedFloat) :
    a.compare b = (b.compare a).map Ordering.swap := by
  cases a with
  | notANumber => cases b <;> rfl
  | infinity s =>
    cases b with
    | infinity t => exact congrArg some (sign_compare_swap s t)
    | notANumber => cases s <;> rfl
    | zero t => cases s <;> rfl
    | finite t m e h => cases s <;> cases t <;> rfl
  | zero s =>
    cases b with
    | infinity t => cases t <;> rfl
    | notANumber => rfl
    | zero t => rfl
    | finite t m e h => cases t <;> rfl
  | finite s m₁ e₁ h₁ =>
    cases b with
    | infinity t => cases s <;> cases t <;> rfl
    | notANumber => cases s <;> rfl
    | zero t => cases s <;> rfl
    | finite t m₂ e₂ h₂ =>
      have hmagnitudes := magnitude_compare_swap e₁ e₂ m₁ m₂
      cases s with
      | negative =>
        cases t with
        | negative => exact congrArg (fun o ↦ some o.swap) hmagnitudes
        | positive => rfl
      | positive =>
        cases t with
        | negative => rfl
        | positive => exact congrArg some hmagnitudes

/-- Only a comparison with the undefined number has no answer. -/
theorem isSome_compare {a b : UnpackedFloat} (ha : a.isNaN = false) (hb : b.isNaN = false) :
    (a.compare b).isSome = true := by
  cases a with
  | notANumber => exact absurd ha.symm Bool.false_ne_true
  | infinity s =>
    cases b with
    | notANumber => exact absurd hb.symm Bool.false_ne_true
    | infinity t => rfl
    | zero t => cases s <;> rfl
    | finite t m e h => cases s <;> rfl
  | zero s =>
    cases b with
    | notANumber => exact absurd hb.symm Bool.false_ne_true
    | infinity t => cases t <;> rfl
    | zero t => rfl
    | finite t m e h => cases t <;> rfl
  | finite s m e h =>
    cases b with
    | notANumber => exact absurd hb.symm Bool.false_ne_true
    | infinity t => cases s <;> cases t <;> rfl
    | zero t => cases s <;> rfl
    | finite t m' e' h' => cases s <;> cases t <;> rfl

/-- On numbers that are defined, the order is total. -/
theorem le_eq_not_lt {a b : UnpackedFloat} (ha : a.isNaN = false) (hb : b.isNaN = false) :
    a.le b = !b.lt a := by
  have hsome := isSome_compare hb ha
  unfold UnpackedFloat.le UnpackedFloat.lt
  rw [compare_swap a b]
  cases h : b.compare a with
  | none => simp [h] at hsome
  | some o => cases o <;> rfl

theorem le_iff (x y : Float) : x ≤ y ↔ x.toModel.unpack.le y.toModel.unpack = true :=
  decide_eq_true_iff

theorem lt_iff (x y : Float) : x < y ↔ x.toModel.unpack.lt y.toModel.unpack = true :=
  decide_eq_true_iff

/-- Of two defined doubles, the first is at most the second unless the second is below it. -/
theorem le_iff_not_lt {x y : Float} (hx : x.isNaN = false) (hy : y.isNaN = false) :
    x ≤ y ↔ ¬ y < x := by
  rw [le_iff, lt_iff, le_eq_not_lt hx hy]
  simp

/-- Of two defined doubles, the first is below the second unless the second is at most the first. -/
theorem lt_iff_not_le {x y : Float} (hx : x.isNaN = false) (hy : y.isNaN = false) :
    x < y ↔ ¬ y ≤ x := by
  rw [le_iff_not_lt hy hx, Classical.not_not]

theorem isNaN_of_isFinite {x : Float} (h : x.isFinite = true) : x.isNaN = false := by
  change x.toModel.unpack.isFinite = true at h
  change x.toModel.unpack.isNaN = false
  generalize x.toModel.unpack = a at h ⊢
  cases a with
  | notANumber => exact absurd h Bool.false_ne_true
  | infinity s => rfl
  | zero s => rfl
  | finite s m e h => rfl

end Extremum.Binary64
