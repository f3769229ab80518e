import Extremum.Proofs.Exact.Numeric
import Extremum.Proofs.Function.Differences

/-!
# Central differences in exact arithmetic

Central differences of a function of degree two are its gradient, whatever the step: what the second order adds to the
value is the same in both directions. So the estimates are exact for functions given by numbers, if there is no
rounding, and a function that is differentiated by central differences instead is the same function
(`exact_of_numeric`).
-/

namespace Extremum

/-! ## No deviation -/

theorem Scalar.foldl_max_zero {xs : List ℚ} (h : ∀ v ∈ xs, v = 0) : xs.foldl max 0 = 0 := by
  induction xs with
  | nil => rfl
  | cons v rest ih =>
    obtain ⟨rfl, hrest⟩ := List.forall_mem_cons.1 h
    exact ih hrest

theorem Scalar.maximum_zero {xs : List ℚ} (h : ∀ v ∈ xs, v = 0) : maximum 0 xs = 0 := by
  cases xs with
  | nil => rfl
  | cons v rest =>
    obtain ⟨rfl, hrest⟩ := List.forall_mem_cons.1 h
    exact foldl_max_zero hrest

/-- A vector does not deviate from itself. -/
theorem Vec.deviation_self (x : List ℚ) : deviation x x = 0 := by
  have hsub : (sub x x).map Scalar.abs = x.map fun v ↦ Scalar.abs (v - v) := by
    unfold sub
    rw [List.zipWith_self, List.map_map]
    rfl
  unfold deviation
  rw [hsub]
  apply Scalar.maximum_zero
  intro d hd
  obtain ⟨v, -, rfl⟩ := List.mem_map.1 hd
  rw [sub_self]
  rfl

namespace Function

/-! ## Estimates -/

variable {f : Function ℚ} {point : Tensor ℚ} {step : ℚ}

theorem component_ofFn {m : ℕ} (u : Fin m → ℚ) (i : Fin m) : component (List.ofFn u) i = .ok (u i) := by
  unfold component
  rw [List.getElem?_ofFn, dif_pos i.isLt]

section Steps

variable (hpoint : point.shape = [f.inputSize]) (j : Fin f.inputSize)

include hpoint

theorem coords_spike : Vec.coords f.inputSize (Vec.spike point.data.length j step) = Pi.single j step := by
  rw [Tensor.length_of_shape hpoint, Vec.coords_spike]

theorem length_spike : (Vec.spike point.data.length j step).length = f.inputSize :=
  (Vec.length_spike _ _ _).trans (Tensor.length_of_shape hpoint)

/-- A step up moves the point along one coordinate. -/
theorem coords_stepUp : f.coords (stepUp point j step) = f.coords point + Pi.single j step := by
  rw [← coords_spike hpoint]
  exact Vec.coords_add (Tensor.length_of_shape hpoint) (length_spike hpoint j)

theorem coords_stepDown : f.coords (stepDown point j step) = f.coords point - Pi.single j step := by
  rw [← coords_spike hpoint]
  exact Vec.coords_sub (Tensor.length_of_shape hpoint) (length_spike hpoint j)

end Steps

section Numeric

variable (hf : f.Numeric) (hpoint : point.shape = [f.inputSize])

include hf hpoint

/-- In exact arithmetic the central difference of a function of second order is its partial derivative, whatever the
step is. -/
theorem difference_eq (hstep : 0 < step) (i : Fin f.outputSize) (j : Fin f.inputSize) :
    f.difference point i step j = .ok (f.slope (f.coords point) i j) := by
  have hup : (stepUp point j step).shape = [f.inputSize] := hpoint
  have hdown : (stepDown point j step).shape = [f.inputSize] := hpoint
  have htwo : (2.0 : ℚ) = 2 := by norm_num
  have hentry (u : Fin f.outputSize → ℚ) : (List.ofFn u)[(i : ℕ)]? = some (u i) := by
    rw [List.getElem?_ofFn, dif_pos i.isLt]
  refine difference_eq_ok_iff.2 ⟨_, _, _, _, evaluate_eq hf hup, hentry _, evaluate_eq hf hdown, hentry _, ?_⟩
  rw [coords_stepUp hpoint, coords_stepDown hpoint, value_add_sub_value_sub hf, dotProduct_single, htwo,
    mul_div_mul_left _ _ two_ne_zero, mul_div_cancel_right₀ _ hstep.ne']

/-- Estimating the gradient gives the gradient. -/
theorem differences_eq (hstep : 0 < step) (i : Fin f.outputSize) :
    f.differences point (i : ℕ) step = .ok (.vector (List.ofFn (f.slope (f.coords point) i))) := by
  have hi : (0 : ℤ) ≤ (i : ℕ) ∧ ((i : ℕ) : ℤ) < f.outputSize := by omega
  refine differences_eq_ok_iff.2 ⟨hstep.not_ge, hi, .inl ⟨hpoint, congrArg ([·]) List.length_ofFn, fun j hj ↦ ?_⟩⟩
  refine ⟨_, difference_eq_ok_iff.1 (difference_eq hf hpoint hstep i ⟨j, hj⟩), ?_⟩
  rw [Tensor.data_vector, List.getElem?_ofFn, dif_pos hj]

/-! ## Deviations -/

/-- There is nothing between a gradient and its estimate. -/
theorem gradientError_eq (hstep : 0 < step) (i : Fin f.outputSize) : f.gradientError point (i : ℕ) step = .ok 0 := by
  unfold gradientError
  rw [gradient_eq hf hpoint, differences_eq hf hpoint hstep]
  exact congrArg Except.ok (Vec.deviation_self _)

section Threshold

variable {threshold : ℚ} (hstep : 0 < step) (hthreshold : 0 ≤ threshold) (i : Fin f.outputSize)

include hstep hthreshold

theorem checkGradient_eq : f.checkGradient point (i : ℕ) threshold step = .ok true := by
  unfold checkGradient
  rw [gradientError_eq hf hpoint hstep]
  exact congrArg Except.ok (decide_eq_true hthreshold)

theorem requireGradient_eq : f.requireGradient point (i : ℕ) threshold step = .ok () := by
  unfold requireGradient
  rw [gradientError_eq hf hpoint hstep]
  exact if_neg hthreshold.not_gt

end Threshold

/-! ## The function of its own estimates -/

theorem evaluate_finiteDifference (step : ℚ) :
    (finiteDifference f step).evaluate point = .ok (List.ofFn (f.value (f.coords point))) := by
  have hwrapped : point.shape = [(finiteDifference f step).inputSize] := hpoint
  apply evaluate_of_compute hwrapped
  · rw [compute_finiteDifference, Tensor.vector_data hpoint, evaluate_eq hf hpoint]
    rfl
  · exact List.length_ofFn

/-- The gradient that is made of central differences is the slope of the function that it is made from. -/
theorem rawGradient_finiteDifference (hstep : 0 < step) (i : Fin f.outputSize) :
    (finiteDifference f step).rawGradient point.data i =
      .ok (.ofList (List.ofFn (f.slope (f.coords point) i))) := by
  have hcompute : (finiteDifference f step).rawGradient point.data i =
      (f.differences (.vector point.data) (i : ℕ) step).map fun t ↦ .ofList t.data := rfl
  rw [hcompute, Tensor.vector_data hpoint, differences_eq hf hpoint hstep]
  rfl

theorem gradient_finiteDifference (hstep : 0 < step) (i : Fin f.outputSize) :
    (finiteDifference f step).gradient point (i : ℕ) =
      .ok (List.ofFn (f.slope (f.coords point) i)) := by
  have hwrapped : point.shape = [(finiteDifference f step).inputSize] := hpoint
  have hi : (0 : ℤ) ≤ (i : ℕ) ∧ ((i : ℕ) : ℤ) < (finiteDifference f step).outputSize :=
    ⟨Int.natCast_nonneg _, Int.ofNat_lt.2 i.isLt⟩
  apply gradient_of_rawGradient hwrapped rfl hi
  · exact rawGradient_finiteDifference hf hpoint hstep i
  · exact List.length_ofFn

/-- The jacobian of a function that is differentiated by central differences is the exact one, with checks and
without. -/
theorem jacobian_finiteDifference (hstep : 0 < step) (houtputs : 0 < f.outputSize) (debug : Bool) :
    (finiteDifference f step).jacobian debug point = .ok (f.slopes (f.coords point)) := by
  have hwrapped : point.shape = [(finiteDifference f step).inputSize] := hpoint
  apply jacobian_of_exact_rows hwrapped rfl trivial houtputs
  · exact List.length_ofFn
  · rfl
  · intro i row hrow
    obtain ⟨k, rfl, rfl⟩ := slopes_row hrow
    exact rawGradient_finiteDifference hf hpoint hstep k

end Numeric

/-! ## Main statement -/

/-- What central differences with a step say of a function at a point. -/
structure Exact (f : Function ℚ) (point : Tensor ℚ) (i : ℤ) (step : ℚ) : Prop where
  /-- They are equal to the gradient. -/
  differences : ∃ slope, f.gradient point i = .ok slope ∧ f.differences point i step = .ok (.vector slope)
  /-- The gradient does not deviate from them. -/
  deviation : f.gradientError point i step = .ok 0
  /-- It is within every threshold. -/
  check : ∀ threshold, 0 ≤ threshold → f.checkGradient point i threshold step = .ok true
  /-- It is never refused. -/
  require : ∀ threshold, 0 ≤ threshold → f.requireGradient point i threshold step = .ok ()
  /-- A function that is differentiated by them has the same values, gradients and jacobians. -/
  wrapped : ∃ g, ofDifferences (.ok f) (.ok step) = .ok g ∧
    (∃ value, f.evaluate point = .ok value ∧ g.evaluate point = .ok value) ∧
    g.gradient point i = f.gradient point i ∧
    ∀ debug, ∃ a, f.jacobian debug point = .ok a ∧ g.jacobian debug point = .ok a

/-- In exact arithmetic, central differences of functions given by numbers are exact, whatever the step. -/
theorem exact_of_numeric (hmade : f.Made) (hf : f.Numeric) (hpoint : point.shape = [f.inputSize]) (hstep : 0 < step)
    {i : ℤ} (hi : 0 ≤ i ∧ i < f.outputSize) : f.Exact point i step := by
  have houtputs : 0 < f.outputSize := hmade.outputSize_pos
  obtain ⟨k, rfl⟩ : ∃ k : Fin f.outputSize, i = (k : ℕ) :=
    ⟨⟨i.toNat, by omega⟩, (Int.toNat_of_nonneg hi.1).symm⟩
  have hgradient := gradient_eq hf hpoint k
  have hbuilt : ofDifferences (.ok f) (.ok step) = .ok (finiteDifference f step) := if_neg hstep.not_ge
  constructor
  · exact ⟨_, hgradient, differences_eq hf hpoint hstep k⟩
  · exact gradientError_eq hf hpoint hstep k
  · exact fun threshold hthreshold ↦ checkGradient_eq hf hpoint hstep hthreshold k
  · exact fun threshold hthreshold ↦ requireGradient_eq hf hpoint hstep hthreshold k
  · refine ⟨_, hbuilt, ⟨_, evaluate_eq hf hpoint, evaluate_finiteDifference hf hpoint step⟩, ?_, fun debug ↦ ?_⟩
    · rw [hgradient, gradient_finiteDifference hf hpoint hstep]
    · exact ⟨_, jacobian_eq hf hpoint houtputs debug, jacobian_finiteDifference hf hpoint hstep houtputs debug⟩

/-- The second order coefficients of a function of two arguments. -/
def bowlMatrix : Matrix ℚ :=
  ⟨[[2, 1], [1, 3]], 2, by simp⟩

/-- The function `x ^ 2 + x y + 3 y ^ 2 / 2 + x + 5`. -/
def bowl : Function ℚ :=
  .quadratic "" ⟨bowlMatrix, [1, 0], 5, rfl, rfl⟩

theorem numeric_bowl : bowl.Numeric := by
  have hentry (j k : ℕ) : bowlMatrix.entry? j k = bowlMatrix.entry? k j := by
    match j, k with
    | 0, 0 | 0, 1 | 1, 0 | 1, 1 => rfl
    | 0, k + 2 | 1, k + 2 | k + 2, 0 | k + 2, 1 | j + 2, k + 2 => rfl
  exact .quadratic "" _ hentry

theorem gradient_bowl : bowl.gradient (.vector [1 / 2, -1]) 0 = .ok [1, -5 / 2] := by
  have hproducts : bowl.gradient (.vector [1 / 2, -1]) 0 =
    .ok [0 + 2 * (1 / 2) + 1 * (-1) + 1, 0 + 1 * (1 / 2) + 3 * (-1) + 0] := rfl
  rw [hproducts]
  norm_num

/-- A step of a tenth gives its gradient. -/
theorem exact_of_numeric_bowl :
    ofQuadratic (.ok bowlMatrix.tensor) (.ok (.vector [1, 0])) (.ok 5) "" = .ok bowl ∧
      bowl.gradient (.vector [1 / 2, -1]) 0 = .ok [1, -5 / 2] ∧
      bowl.differences (.vector [1 / 2, -1]) 0 (1 / 10) = .ok (.vector [1, -5 / 2]) ∧
      bowl.gradientError (.vector [1 / 2, -1]) 0 (1 / 10) = .ok 0 := by
  have hbuilt : ofQuadratic (.ok bowlMatrix.tensor) (.ok (.vector [1, 0])) (.ok 5) "" = .ok bowl := rfl
  have hpoint : (Tensor.vector [(1 / 2 : ℚ), -1]).shape = [bowl.inputSize] := rfl
  have hstep : (0 : ℚ) < 1 / 10 := by norm_num
  have hexact := exact_of_numeric (.quadratic hbuilt) numeric_bowl hpoint hstep (i := 0) ⟨le_rfl, Int.one_pos⟩
  obtain ⟨slope, hslope, hdifferences⟩ := hexact.differences
  rw [gradient_bowl] at hslope
  cases hslope
  exact ⟨hbuilt, gradient_bowl, hdifferences, hexact.deviation⟩

end Function

end Extremum
