import Extremum.Proofs.Function.Shape

/-!
# Central differences

A central difference needs the values of a function on both sides of a point, and there is one for each entry of the
point. Only the function looks at the point, whenever it is evaluated. So there are differences at a point of the right
length, and at any point without entries, where nothing is evaluated (`differences_eq_ok_iff`).
-/

namespace Extremum.Function

/-! ## One direction -/

theorem component_eq_ok_iff {α : Type} {value : List α} {k : Nat} {v : α} :
    component value k = .ok v ↔ value[k]? = some v := by
  unfold component
  cases value[k]? <;> simp

variable {α : Type} [Scalar α] {f : Function α} {point t : Tensor α} {k j : Nat} {i : Int} {step d : α}

/-- A central difference: how much an output changes between a step down and a step up in a direction, divided by the
length of both steps. -/
def IsDifference (f : Function α) (point : Tensor α) (k : Nat) (step : α) (j : Nat) (d : α) : Prop :=
  ∃ above v below w, f.evaluate (stepUp point j step) = .ok above ∧ above[k]? = some v ∧
    f.evaluate (stepDown point j step) = .ok below ∧ below[k]? = some w ∧ (v - w) / (2.0 * step) = d

theorem shape_of_evaluate {value : List α} (h : f.evaluate point = .ok value) : point.shape = [f.inputSize] := by
  by_contra hshape
  rw [evaluate_of_unfit hshape] at h
  cases h

/-- The function is evaluated in each direction, and looks at the point then. -/
theorem IsDifference.shape_eq (h : f.IsDifference point k step j d) : point.shape = [f.inputSize] := by
  obtain ⟨above, -, -, -, habove, -⟩ := h
  have hshape : (stepUp point j step).shape = [f.inputSize] := shape_of_evaluate habove
  exact hshape

theorem difference_eq_ok_iff : f.difference point k step j = .ok d ↔ f.IsDifference point k step j d := by
  by_cases haxes : point.shape = []
  · have hrefused : f.difference point k step j = .error (.unfit .index) := by
      unfold difference
      rw [if_pos haxes]
      rfl
    have hnone : ¬f.IsDifference point k step j d := fun h ↦ absurd (haxes.symm.trans h.shape_eq) (by simp)
    rw [hrefused]
    exact iff_of_false (by simp) hnone
  · unfold difference IsDifference
    rw [if_neg haxes]
    simp only [Reading.bind_eq_ok_iff, component_eq_ok_iff, exists_and_left, pure, Except.pure, Except.ok.injEq]

/-! ## All directions -/

/-- A vector of the central differences at a point, one for each argument of the function. -/
structure Estimates (f : Function α) (point : Tensor α) (k : Nat) (step : α) (slope : Tensor α) : Prop where
  point_shape : point.shape = [f.inputSize]
  shape : slope.shape = [f.inputSize]
  entry : ∀ j < f.inputSize, ∃ d, f.IsDifference point k step j d ∧ slope.data[j]? = some d

/-- What is answered once the step and the index have passed. -/
theorem traverse_difference_eq_ok_iff : (positions point).traverse (f.difference point k step) = .ok t ↔
    t.shape = point.shape ∧ ∀ j < point.data.length, ∃ d, f.IsDifference point k step j d ∧ t.data[j]? = some d := by
  have hlength (hshape : t.shape = point.shape) : t.data.length = point.data.length := by
    rw [t.length_data, point.length_data, hshape]
  rw [Tensor.traverse_eq_ok_iff]
  change t.shape = point.shape ∧ (List.range point.data.length).mapM _ = _ ↔ _
  rw [Reading.mapM_range_eq_ok_iff]
  simp only [difference_eq_ok_iff]
  exact and_congr_right fun hshape ↦ and_iff_right (hlength hshape)

/-- A point without entries has no directions, so that it is not looked at. -/
theorem differences_eq_ok_iff : f.differences point i step = .ok t ↔ ¬step ≤ 0 ∧ (0 ≤ i ∧ i < f.outputSize) ∧
    (f.Estimates point i.toNat step t ∨ point.data = [] ∧ point.shape ≠ [f.inputSize] ∧ t.shape = point.shape) := by
  by_cases hstep : step ≤ 0
  · have hrefused : f.differences point i step = .error .stepNotPositive := if_pos hstep
    simp [hrefused, hstep]
  by_cases hi : 0 ≤ i ∧ i < f.outputSize
  · have htraversed : f.differences point i step = (positions point).traverse (f.difference point i.toNat step) :=
      (if_neg hstep).trans (if_pos hi)
    rw [htraversed, traverse_difference_eq_ok_iff, and_iff_right hstep, and_iff_right hi]
    constructor
    · rintro ⟨hshape, hentries⟩
      by_cases hpoint : point.shape = [f.inputSize]
      · rw [Tensor.length_of_shape hpoint] at hentries
        exact .inl ⟨hpoint, hshape.trans hpoint, hentries⟩
      · refine .inr ⟨?_, hpoint, hshape⟩
        by_contra hentry
        obtain ⟨d, hd, -⟩ := hentries 0 (List.length_pos_iff.2 hentry)
        exact hpoint hd.shape_eq
    · rintro (hslope | ⟨hempty, -, hshape⟩)
      · refine ⟨hslope.shape.trans hslope.point_shape.symm, ?_⟩
        rw [Tensor.length_of_shape hslope.point_shape]
        exact hslope.entry
      · refine ⟨hshape, fun j hj ↦ ?_⟩
        rw [hempty] at hj
        cases hj
  · have hrefused : f.differences point i step = .error (.differenceIndex i f.outputSize) :=
      (if_neg hstep).trans (if_neg hi)
    simp [hrefused, hi]

end Extremum.Function
