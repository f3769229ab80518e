import Extremum.Proofs.Exact.Differences

/-!
# Expansions of second order

Values, gradients and hessians of functions given by numbers are computed apart from each other. In exact arithmetic
they belong to one function: a value at a distance is what the value, the gradient and the hessian at a point say,
and nothing is left over. The hessian is one matrix for all points, and it is zero for linear functions
(`expands_of_numeric`).
-/

open scoped Matrix

namespace Extremum

namespace Matrix

theorem entry?_zeros {m n i j : ℕ} (hi : i < m) (hj : j < n) : entry? (zeros m n : Matrix ℚ) i j = some 0 := by
  unfold entry? zeros Vec.zeros
  rw [List.getElem?_replicate_of_lt hi, Option.bind_some, List.getElem?_replicate_of_lt hj]

theorem grid_zeros (m n : ℕ) : grid m n (zeros m n) = 0 := by
  ext i j
  have hentry : entry? (zeros m n : Matrix ℚ) i j = some 0 := entry?_zeros i.isLt j.isLt
  exact congrArg (Option.getD · 0) hentry

/-- In exact arithmetic, a matrix with the same entries across the diagonal is symmetric within any tolerances. -/
theorem isSymmetric_of_entries {a : Matrix ℚ} (hsquare : a.height = a.width)
    (hsymmetric : ∀ j k, a.entry? j k = a.entry? k j) (rtol atol : ℚ) : a.isSymmetric rtol atol = true := by
  rw [isSymmetric_iff hsquare]
  intro j k v w hv hw
  rw [hsymmetric, hw] at hv
  obtain rfl : w = v := Option.some.inj hv
  unfold Scalar.isClose
  rw [beq_self_eq_true, Bool.true_or]

end Matrix

namespace Function

/-! ## Hessians -/

/-- Linear functions promise whatever a tier can promise. -/
theorem isSubtier_of_linear {α : Type} {f : Function α} (hlinear : f.tier = .linear) (t : Tier) :
    f.tier.isSubtier t = true := by
  rw [hlinear]
  cases t <;> rfl

/-- The hessian of a function of the linear tier is answered without any part of it. -/
theorem hessian_of_tier {α : Type} [Scalar α] {f : Function α} {point : Tensor α} {i : ℤ} (hlinear : f.tier = .linear)
    (hpoint : point.shape = [f.inputSize]) (hi : 0 ≤ i ∧ i < f.outputSize) (debug : Bool) :
    f.hessian debug point i = .ok (Matrix.zeros f.inputSize f.inputSize) := by
  unfold hessian
  rw [provides_of_isSubtier (isSubtier_of_linear hlinear _), argument_of_shape hpoint, output_of_lt hi]
  dsimp only [bind, Except.bind]
  rw [if_pos hlinear]
  rfl

/-- The coefficients of second order, the same for all outputs and everywhere. -/
def secondOrder : Function ℚ → Matrix ℚ
  | quadratic _ form => form.matrix
  | f => Matrix.zeros f.inputSize f.inputSize

variable {f : Function ℚ} {point : Tensor ℚ}

/-- A matrix with the same entries across the diagonal passes in debug mode. -/
theorem checkedHessian_of_symmetric {a : Matrix ℚ} (hsquare : a.height = a.width)
    (hsymmetric : ∀ j k, a.entry? j k = a.entry? k j) : checkedHessian a = .ok a :=
  if_pos (Matrix.isSymmetric_of_entries hsquare hsymmetric 0 symmetryTolerance)

/-- Functions that are given by numbers answer the same hessian at all points and for all outputs. -/
theorem hessian_eq (hf : f.Numeric) (hpoint : point.shape = [f.inputSize]) (hinputs : 0 < f.inputSize) {i : ℤ}
    (hi : 0 ≤ i ∧ i < f.outputSize) (debug : Bool) : f.hessian debug point i = .ok f.secondOrder := by
  cases hf with
  | affine name map => exact hessian_of_tier rfl hpoint hi debug
  | constant name inputs value => exact hessian_of_tier rfl hpoint hi debug
  | shift name offset => exact hessian_of_tier rfl hpoint hi debug
  | quadratic name form hsymmetric =>
    have hnonlinear : (quadratic name form).tier ≠ .linear := by
      intro h
      cases h
    have hplain : (quadratic name form).hessian false point i = .ok form.matrix :=
      hessian_of_rawHessian hpoint rfl hnonlinear hi rfl form.square rfl hinputs
    cases debug with
    | false => exact hplain
    | true =>
      rw [hessian_of_debug hnonlinear, hplain]
      exact checkedHessian_of_symmetric form.square hsymmetric

/-! ## The rest of second order -/

/-- The hessian tells how the gradients change. -/
theorem coords_secondOrder (hf : f.Numeric) {h : List ℚ} (hh : h.length = f.inputSize) :
    Vec.coords f.inputSize (f.secondOrder.apply h) = f.curvature (Vec.coords f.inputSize h) := by
  -- Apart from quadratic functions the matrix is zero.
  have hflat (n : ℕ) {h : List ℚ} (hh : h.length = n) :
      Vec.coords n ((Matrix.zeros n n : Matrix ℚ).apply h) = 0 := by
    have hheight : (Matrix.zeros n n : Matrix ℚ).height = n := List.length_replicate
    have hproduct := Matrix.coords_apply (n := n) hheight rfl hh
    rw [hproduct, Matrix.grid_zeros, Matrix.zero_mulVec]
  cases hf with
  | affine name map => exact hflat _ hh
  | constant name inputs value => exact hflat _ hh
  | shift name offset => exact hflat _ hh
  | quadratic name form hsymmetric => exact Matrix.coords_apply form.square rfl hh

theorem length_apply_secondOrder (hf : f.Numeric) (h : List ℚ) : (f.secondOrder.apply h).length = f.inputSize := by
  rw [Matrix.length_apply]
  cases hf with
  | affine name map => exact List.length_replicate
  | constant name inputs value => exact List.length_replicate
  | shift name offset => exact List.length_replicate
  | quadratic name form hsymmetric => exact form.square

/-- The expansion at a point, for lists of entries. -/
theorem value_coords_add (hf : f.Numeric) {x h : List ℚ} (hx : x.length = f.inputSize) (hh : h.length = f.inputSize)
    (i : Fin f.outputSize) : f.value (Vec.coords f.inputSize (Vec.add x h)) i =
      f.value (Vec.coords f.inputSize x) i
        + Scalar.dot (List.ofFn (f.slope (Vec.coords f.inputSize x) i)) h
        + Scalar.dot h (f.secondOrder.apply h) / 2 := by
  have hslope : Scalar.dot (List.ofFn (f.slope (Vec.coords f.inputSize x) i)) h =
      f.slope (Vec.coords f.inputSize x) i ⬝ᵥ Vec.coords f.inputSize h := by
    rw [Vec.dot_eq_dotProduct List.length_ofFn hh, Vec.coords_ofFn]
  have hrest : Scalar.dot h (f.secondOrder.apply h) =
      Vec.coords f.inputSize h ⬝ᵥ f.curvature (Vec.coords f.inputSize h) := by
    rw [Vec.dot_eq_dotProduct hh (length_apply_secondOrder hf h), coords_secondOrder hf hh]
  rw [Vec.coords_add hx hh, value_add hf, hslope, hrest]

/-! ## Main statement -/

/-- Values, gradients and hessians belong together: an output is told by a matrix of second order. -/
structure Expands (f : Function ℚ) (i : ℤ) (a : Matrix ℚ) : Prop where
  /-- The hessian is that matrix everywhere, in debug mode and without it. -/
  hessian : ∀ point : Tensor ℚ, point.shape = [f.inputSize] → ∀ debug, f.hessian debug point i = .ok a
  linear : f.tier = .linear → a = Matrix.zeros f.inputSize f.inputSize
  /-- The value at a distance `h` from a point is told by what the methods answer there. -/
  expansion : ∀ x h : List ℚ, x.length = f.inputSize → h.length = f.inputSize →
    ∃ values distant slope v, f.evaluate (.vector x) = .ok values ∧ f.evaluate (.vector (Vec.add x h)) = .ok distant ∧
      f.gradient (.vector x) i = .ok slope ∧ values[i.toNat]? = some v ∧
      distant[i.toNat]? = some (v + Scalar.dot slope h + Scalar.dot h (a.apply h) / 2)

/-- In exact arithmetic, the expansion of functions given by numbers is exact. -/
theorem expands_of_numeric (hmade : f.Made) (hf : f.Numeric) {i : ℤ} (hi : 0 ≤ i ∧ i < f.outputSize) :
    f.Expands i f.secondOrder := by
  obtain ⟨k, rfl⟩ : ∃ k : Fin f.outputSize, i = (k : ℕ) :=
    ⟨⟨i.toNat, by omega⟩, (Int.toNat_of_nonneg hi.1).symm⟩
  constructor
  case hessian =>
    intro point hpoint debug
    exact hessian_eq hf hpoint hmade.inputSize_pos hi debug
  case linear =>
    intro hlinear
    have hpoint : (Tensor.vector (Vec.zeros f.inputSize : List ℚ)).shape = [f.inputSize] :=
      congrArg ([·]) (Vec.length_zeros _)
    have hzeros := hessian_of_tier hlinear hpoint hi false
    rw [hessian_eq hf hpoint hmade.inputSize_pos hi] at hzeros
    exact Except.ok.inj hzeros
  case expansion =>
    intro x h hx hh
    have hsum : (Vec.add x h).length = f.inputSize := by rw [Vec.length_add, hx, hh, Nat.min_self]
    have hpoint : (Tensor.vector x).shape = [f.inputSize] := congrArg ([·]) hx
    have hdistant : (Tensor.vector (Vec.add x h)).shape = [f.inputSize] := congrArg ([·]) hsum
    have hentry (u : Fin f.outputSize → ℚ) : (List.ofFn u)[k.val]? = some (u k) := by
      rw [List.getElem?_ofFn, dif_pos k.isLt]
    refine ⟨_, _, _, _, evaluate_eq hf hpoint, evaluate_eq hf hdistant, gradient_eq hf hpoint k, hentry _, ?_⟩
    rw [Int.toNat_natCast, hentry]
    exact congrArg some (value_coords_add hf hx hh k)

/-- The expansion of a function of two arguments from one point to another. -/
theorem expands_of_numeric_bowl : bowl.Made ∧ bowl.Numeric ∧
    bowl.hessian true (.vector [3 / 2, 1]) 0 = .ok bowlMatrix ∧
    ∃ distant, bowl.evaluate (.vector (Vec.add [1 / 2, -1] [1, 2])) = .ok distant ∧ distant[0]? = some (47 / 4) := by
  have hbuilt : ofQuadratic (.ok bowlMatrix.tensor) (.ok (.vector [1, 0])) (.ok 5) "" = .ok bowl := rfl
  have hexpands := expands_of_numeric (.quadratic hbuilt) numeric_bowl (i := 0) ⟨le_rfl, Int.one_pos⟩
  obtain ⟨values, distant, slope, v, hvalues, hdistant, hslope, hv, hentry⟩ :=
    hexpands.expansion [1 / 2, -1] [1, 2] rfl rfl
  have hvalue : bowl.evaluate (.vector [1 / 2, -1]) = .ok [27 / 4] := by
    have hproducts : bowl.evaluate (.vector [1 / 2, -1]) = .ok
      [0 + (0 + 0.5 * (1 / 2) * 2 + 0.5 * (-1) * 1) * (1 / 2) + (0 + 0.5 * (1 / 2) * 1 + 0.5 * (-1) * 3) * (-1)
        + (0 + 1 * (1 / 2) + 0 * (-1)) + 5] := rfl
    rw [hproducts]
    norm_num
  rw [hvalue] at hvalues
  rw [gradient_bowl] at hslope
  cases hvalues
  cases hslope
  cases hv
  have hrest : Scalar.dot [1, 2] (bowl.secondOrder.apply [1, 2]) =
    0 + 1 * (0 + 2 * 1 + 1 * 2) + 2 * (0 + 1 * 1 + 3 * (2 : ℚ)) := rfl
  have hslope : Scalar.dot [1, -5 / 2] [1, 2] = 0 + 1 * 1 + -5 / 2 * (2 : ℚ) := rfl
  rw [hrest, hslope] at hentry
  refine ⟨.quadratic hbuilt, numeric_bowl, hexpands.hessian _ rfl true, distant, hdistant, hentry.trans ?_⟩
  norm_num

end Function

end Extremum
