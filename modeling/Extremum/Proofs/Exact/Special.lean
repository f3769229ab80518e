import Extremum.Proofs.Exact.Forms

/-!
# Special linear functions

Constant functions and shifts are linear functions that know their coefficients: zeros for the one, ones on the diagonal
for the other. They answer without a product, but in exact arithmetic they cannot be told from the function that is
given by a matrix, on good arguments and on bad ones (`Matches`). Hessians of linear functions are answered before any
part is called. What the part returns would have passed all checks and given the same answer
(`hessianFollows_of_zeros`). Main statement: `matches_of_special`.
-/

open scoped Matrix

namespace Extremum

variable {m n k : ℕ}

/-! ## Tables of zeros and ones -/

theorem Vec.unit_eq_ofFn (i : Fin n) : (Vec.unit n i : List ℚ) = List.ofFn (Pi.single i 1 : Fin n → ℚ) := by
  apply Vec.ext_coords (Vec.length_unit _ _) List.length_ofFn
  rw [Vec.coords_ofFn]
  exact Vec.coords_spike i 1

/-- The identity matrix as a table. -/
theorem Matrix.identity_eq_tabulate : identity n = tabulate fun i ↦ (Pi.single i 1 : Fin n → ℚ) := by
  have hrows : (List.range n).map (Vec.unit n) = List.ofFn fun i ↦ List.ofFn (Pi.single i 1 : Fin n → ℚ) := by
    rw [map_range_eq_ofFn]
    exact congrArg List.ofFn (funext Vec.unit_eq_ofFn)
  unfold identity tabulate
  simp only [hrows]

namespace Function

variable {f g : Function ℚ} {point : Tensor ℚ}

/-! ## Hessians from parts -/

section HessianFromPart

variable {α : Type} [Scalar α]

/-- The hessian as functions that are not linear answer it: what their part returned, after all checks. -/
def hessianFromPart (debug : Bool) (f : Function α) (x : Tensor α) (index : Int) : Except (Error α) (Matrix α) := do
  f.provides .twiceDerivable
  let point ← f.argument x
  let index ← f.output index
  let raw ← (← f.rawHessian point index).numbers
  let checked ← f.returned "impl_hessian" [f.inputSize, f.inputSize] raw
  if debug then checkHessian checked
  match Matrix.ofTensor? checked with
  | some matrix => return matrix
  | none => throw (.unfit .value)

/-- Functions that are not linear answer hessians from their part. -/
theorem hessian_eq_hessianFromPart {f : Function α} (hlinear : f.tier ≠ .linear) (debug : Bool) (x : Tensor α)
    (i : ℤ) : f.hessian debug x i = f.hessianFromPart debug x i := by
  unfold hessian
  simp only [if_neg hlinear]
  rfl

/-- A point or an index that does not fit is refused before the part is called. -/
theorem hessianFromPart_of_unfit {f : Function α} {point : Tensor α} {i : ℤ} (debug : Bool)
    (h : ¬(point.shape = [f.inputSize] ∧ 0 ≤ i ∧ i < f.outputSize)) : f.hessianFromPart debug point i =
      f.provides .twiceDerivable >>= fun _ ↦ .error (f.refusal point i) := by
  unfold hessianFromPart
  exact congrArg (f.provides .twiceDerivable >>= fun _ ↦ ·) (argument_output_of_unfit h _)

/-- A square matrix from the part is answered once it has passed the check of debug mode. -/
theorem hessianFromPart_of_rawHessian {f : Function α} {point : Tensor α} {i : ℤ} {a : Matrix α} (debug : Bool)
    (htwice : f.tier.isSubtier .twiceDerivable = true) (h : point.shape = [f.inputSize] ∧ 0 ≤ i ∧ i < f.outputSize)
    (hraw : f.rawHessian point.data i.toNat = .ok (.ofRows a.rows)) (hheight : a.height = f.inputSize)
    (hwidth : a.width = f.inputSize) (hinputs : 0 < f.inputSize) :
    f.hessianFromPart debug point i = if debug then checkedHessian a else .ok a := by
  have hnumbers : (Nested.ofRows a.rows).numbers = .ok a.tensor :=
    Nested.numbers_eq_ok_iff.2 (Nested.tensor?_rows (Nat.lt_of_lt_of_eq hinputs hheight.symm))
  have hshape : a.tensor.shape = [f.inputSize, f.inputSize] := congrArg₂ ([·, ·]) hheight hwidth
  have hchecked := checkHessian_of_square (Matrix.ofTensor?_tensor a) (hheight.trans hwidth.symm)
  unfold hessianFromPart
  rw [provides_of_isSubtier htwice, argument_of_shape h.1, output_of_lt h.2]
  dsimp only [bind, Except.bind]
  rw [hraw]
  dsimp only
  rw [hnumbers]
  dsimp only
  rw [returned_of_shape hshape]
  dsimp only
  rw [Matrix.ofTensor?_tensor]
  cases debug with
  | false => rfl
  | true => exact hchecked

end HessianFromPart

/-- Linear functions answer what they would answer if their part were called and what it returns were checked. -/
theorem hessian_eq_hessianFromPart_of_zeros (hlinear : f.tier = .linear) (hinputs : 0 < f.inputSize)
    (hraw : ∀ x i, f.rawHessian x i = .ok (.ofRows (Matrix.zeros f.inputSize f.inputSize).rows)) (debug : Bool)
    (point : Tensor ℚ) (i : ℤ) : f.hessian debug point i = f.hessianFromPart debug point i := by
  by_cases h : point.shape = [f.inputSize] ∧ 0 ≤ i ∧ i < f.outputSize
  · have hheight : (Matrix.zeros f.inputSize f.inputSize : Matrix ℚ).height = f.inputSize := List.length_replicate
    have hsymmetric (j k : ℕ) : Matrix.entry? (Matrix.zeros f.inputSize f.inputSize : Matrix ℚ) j k =
        Matrix.entry? (Matrix.zeros f.inputSize f.inputSize) k j := by
      rw [← Matrix.tabulate_zero]
      exact Matrix.entry?_tabulate_comm (fun _ _ ↦ rfl) j k
    rw [hessian_of_tier hlinear h.1 h.2,
      hessianFromPart_of_rawHessian debug (isSubtier_of_linear hlinear _) h (hraw _ _) hheight rfl hinputs]
    cases debug with
    | false => rfl
    | true => exact (checkedHessian_of_symmetric hheight hsymmetric).symm
  · rw [hessian_of_unfit h, hessianFromPart_of_unfit debug h]

/-! ## Construction -/

theorem ofShift_vector {α : Type} {v : List α} (hv : 0 < v.length) (name : String) :
    ofShift (.ok (.vector v)) name = .ok (.shift name v) := by
  unfold ofShift
  dsimp only [bind, Except.bind]
  rw [Tensor.data_vector, checkSizes_ofNat hv hv]
  rfl

theorem ofConstant_vector {α : Type} {v : List α} (hn : 0 < n) (hv : 0 < v.length) (name : String) :
    ofConstant (.ofNat n) (.ok (.vector v)) name = .ok (.constant name n v) := by
  unfold ofConstant
  dsimp only [bind, Except.bind]
  rw [Tensor.data_vector, checkSizes_ofNat hn hv]
  rfl

/-! ## Derivatives -/

/-- A shift answers with its argument and its offset. -/
theorem differentiates_shift (v : Fin k → ℚ) (hk : 0 < k) (hpoint : point.shape = [k]) (name : String) :
    (shift name (List.ofFn v)).Differentiates (fun i ↦ affinePolynomial (Pi.single i 1) (v i)) point := by
  have hx : point.data.length = k := Tensor.length_of_shape hpoint
  have hidentity : (Matrix.of fun i ↦ (Pi.single i 1 : Fin k → ℚ)) = 1 := by
    ext i j
    exact Matrix.one_eq_pi_single.symm
  apply differentiates_of_linear (f := shift name (List.ofFn v)) hpoint List.length_ofFn List.length_ofFn rfl trivial
    hk
  · apply congrArg Except.ok
    apply ofList_ofFn
    · rw [Vec.length_add, hx, List.length_ofFn, Nat.min_self]
    · rw [Vec.coords_add hx List.length_ofFn, Vec.coords_ofFn, hidentity, Matrix.one_mulVec]
  · intro i
    rw [← Vec.unit_eq_ofFn]
    exact congrArg (fun size ↦ Except.ok (Nested.ofList (Vec.unit size i))) List.length_ofFn

/-- A constant function answers with its value, and with zeros for derivatives. -/
theorem differentiates_constant (v : Fin k → ℚ) (hk : 0 < k) (hpoint : point.shape = [n]) (name : String) :
    (constant name n (List.ofFn v)).Differentiates (fun i ↦ affinePolynomial (fun _ : Fin n ↦ 0) (v i)) point := by
  have hzero : (Matrix.of fun (_ : Fin k) (_ : Fin n) ↦ (0 : ℚ)) = 0 := rfl
  apply differentiates_of_linear (f := constant name n (List.ofFn v)) hpoint rfl List.length_ofFn rfl trivial hk
  · rw [hzero, Matrix.zero_mulVec, zero_add]
    rfl
  · intro i
    rw [List.ofFn_const]
    rfl

/-! ## Main statement -/

/-- Two calls gave the same answer, or were refused with the same kind of error. -/
inductive Alike {β : Type} : Except (Error ℚ) β → Except (Error ℚ) β → Prop
  | answer (y : β) : Alike (.ok y) (.ok y)
  | refusal {e e' : Error ℚ} (h : e.kindName = e'.kindName) : Alike (.error e) (.error e')

/-- Two functions cannot be told apart by calls: they have the same sizes and the same tier, and whatever they are
called with, they answer alike. -/
structure Matches (f g : Function ℚ) : Prop where
  inputSize : f.inputSize = g.inputSize
  outputSize : f.outputSize = g.outputSize
  tier : f.tier = g.tier
  evaluate : ∀ point, Alike (f.evaluate point) (g.evaluate point)
  gradient : ∀ point i, Alike (f.gradient point i) (g.gradient point i)
  jacobian : ∀ debug point, Alike (f.jacobian debug point) (g.jacobian debug point)
  hessian : ∀ debug point i, Alike (f.hessian debug point i) (g.hessian debug point i)

theorem alike_of_agree {β : Type} {x y : Except (Error ℚ) β} (h : ∃ a, x = .ok a ∧ y = .ok a) : Alike x y := by
  obtain ⟨a, rfl, rfl⟩ := h
  exact .answer a

theorem alike_of_outOfRange {β : Type} {x y : Except (Error ℚ) β} (hx : OutOfRange x) (hy : OutOfRange y) :
    Alike x y := by
  obtain ⟨e, rfl, he⟩ := hx
  obtain ⟨e', rfl, he'⟩ := hy
  exact .refusal (he.trans he'.symm)

/-- Functions that agree on all arguments that fit also agree on those that do not. -/
theorem matches_of_agrees (hinputs : f.inputSize = n ∧ g.inputSize = n) (houtputs : f.outputSize = m ∧ g.outputSize = m)
    (hlinear : f.tier = .linear ∧ g.tier = .linear)
    (h : ∀ point : Tensor ℚ, point.shape = [n] → f.Agrees g m point) : f.Matches g := by
  obtain ⟨rfl, hinputs⟩ := hinputs
  obtain ⟨rfl, houtputs⟩ := houtputs
  have hprovides (t : Tier) : f.provides t = .ok () ∧ g.provides t = .ok () :=
    ⟨provides_of_isSubtier (isSubtier_of_linear hlinear.1 t), provides_of_isSubtier (isSubtier_of_linear hlinear.2 t)⟩
  constructor
  case inputSize => exact hinputs.symm
  case outputSize => exact houtputs.symm
  case tier => exact hlinear.1.trans hlinear.2.symm
  case evaluate =>
    intro point
    by_cases hpoint : point.shape = [f.inputSize]
    · exact alike_of_agree (h point hpoint).evaluate
    · rw [evaluate_of_unfit hpoint, evaluate_of_unfit (hinputs.symm ▸ hpoint)]
      exact .refusal rfl
  case gradient =>
    intro point i
    by_cases hfits : point.shape = [f.inputSize] ∧ 0 ≤ i ∧ i < f.outputSize
    · exact alike_of_agree ((h point hfits.1).gradient i hfits.2.1 hfits.2.2)
    · have hfits' : ¬(point.shape = [g.inputSize] ∧ 0 ≤ i ∧ i < g.outputSize) := by rwa [hinputs, houtputs]
      rw [gradient_of_unfit hfits, gradient_of_unfit hfits', (hprovides _).1, (hprovides _).2]
      exact alike_of_outOfRange (f.outOfRange_refusal point i) (g.outOfRange_refusal point i)
  case jacobian =>
    intro debug point
    by_cases hpoint : point.shape = [f.inputSize]
    · exact alike_of_agree ((h point hpoint).jacobian debug)
    · rw [jacobian_of_unfit hpoint, jacobian_of_unfit (hinputs.symm ▸ hpoint), (hprovides _).1, (hprovides _).2]
      exact .refusal rfl
  case hessian =>
    intro debug point i
    by_cases hfits : point.shape = [f.inputSize] ∧ 0 ≤ i ∧ i < f.outputSize
    · exact alike_of_agree ((h point hfits.1).hessian debug i hfits.2.1 hfits.2.2)
    · have hfits' : ¬(point.shape = [g.inputSize] ∧ 0 ≤ i ∧ i < g.outputSize) := by rwa [hinputs, houtputs]
      rw [hessian_of_unfit hfits, hessian_of_unfit hfits', (hprovides _).1, (hprovides _).2]
      exact alike_of_outOfRange (f.outOfRange_refusal point i) (g.outOfRange_refusal point i)

/-- What a function answers as a hessian is what its part would have given. -/
def HessianFollows (f : Function ℚ) : Prop :=
  ∀ debug point i, f.hessian debug point i = f.hessianFromPart debug point i

/-- The hessian follows the part of every function that is not linear, and of a linear one whose part returns
zeros. -/
theorem hessianFollows_of_zeros (h : f.tier = .linear → 0 < f.inputSize ∧
    ∀ x i, f.rawHessian x i = .ok (.ofRows (Matrix.zeros f.inputSize f.inputSize).rows)) : f.HessianFollows := by
  intro debug point i
  by_cases hlinear : f.tier = .linear
  · obtain ⟨hinputs, hraw⟩ := h hlinear
    exact hessian_eq_hessianFromPart_of_zeros hlinear hinputs hraw debug point i
  · exact hessian_eq_hessianFromPart hlinear debug point i

theorem hessianFollows_of_affine {map : Affine ℚ} {name : String} (hinputs : 0 < map.matrix.width) :
    (affine name map).HessianFollows :=
  hessianFollows_of_zeros fun _ ↦ ⟨hinputs, fun _ _ ↦ rfl⟩

/-- Shifts and constant functions cannot be told from the functions of an identity matrix and of a matrix of zeros, and
for all of them the hessian that is answered is the one that their parts would have given. -/
theorem matches_of_special (hk : 0 < k) (hn : 0 < n) (v : Fin k → ℚ) (name name' : String) :
    (∃ f g, ofShift (.ok (.vector (List.ofFn v))) name = .ok f ∧
      ofMatrix (.ok (Matrix.identity k).tensor) (.ok (.vector (List.ofFn v))) name' = .ok g ∧
      f.Matches g ∧ f.HessianFollows ∧ g.HessianFollows) ∧
    ∃ f g, ofConstant (.ofNat n) (.ok (.vector (List.ofFn v))) name = .ok f ∧
      ofMatrix (.ok (Matrix.zeros k n).tensor) (.ok (.vector (List.ofFn v))) name' = .ok g ∧
      f.Matches g ∧ f.HessianFollows ∧ g.HessianFollows := by
  have hlength : (List.ofFn v).length = k := List.length_ofFn
  have hv : 0 < (List.ofFn v).length := Nat.lt_of_lt_of_eq hk hlength.symm
  constructor
  · rw [Matrix.identity_eq_tabulate]
    refine ⟨_, _, ofShift_vector hv name, ofMatrix_ofTable _ v hk hk name', ?_, ?_, hessianFollows_of_affine hk⟩
    · refine matches_of_agrees ⟨hlength, rfl⟩ ⟨hlength, Matrix.height_tabulate _⟩ ⟨rfl, rfl⟩ fun point hpoint ↦ ?_
      exact (differentiates_shift v hk hpoint name).agrees (differentiates_affine hpoint _ v hk name')
    · exact hessianFollows_of_zeros fun _ ↦ ⟨hv, fun _ _ ↦ rfl⟩
  · rw [← Matrix.tabulate_zero]
    refine ⟨_, _, ofConstant_vector hn hv name, ofMatrix_ofTable _ v hn hk name', ?_, ?_, hessianFollows_of_affine hn⟩
    · refine matches_of_agrees ⟨rfl, rfl⟩ ⟨hlength, Matrix.height_tabulate _⟩ ⟨rfl, rfl⟩ fun point hpoint ↦ ?_
      exact (differentiates_constant v hk hpoint name).agrees (differentiates_affine hpoint _ v hk name')
    · exact hessianFollows_of_zeros fun _ ↦ ⟨hn, fun _ _ ↦ rfl⟩

/-- A shift of two components, and a constant function of three arguments. -/
theorem matches_of_special_pair :
    (∃ f g, ofShift (.ok (.vector [3, -1])) "" = .ok f ∧
      ofMatrix (.ok (Matrix.identity 2).tensor) (.ok (.vector [3, -1])) "matrix" = .ok g ∧
      Alike (f.evaluate (.vector [1, 2])) (g.evaluate (.vector [1, 2])) ∧
      Alike (f.gradient (.vector [1]) 5) (g.gradient (.vector [1]) 5)) ∧
    ∃ f g, ofConstant (.ofNat 3) (.ok (.vector [3, -1])) "" = .ok f ∧
      ofMatrix (.ok (Matrix.zeros 2 3).tensor) (.ok (.vector [3, -1])) "matrix" = .ok g ∧
      f.hessian true (.vector [1, 2, 3]) 1 = f.hessianFromPart true (.vector [1, 2, 3]) 1 ∧ f.Matches g := by
  obtain ⟨⟨f, g, hf, hg, hmatches, -, -⟩, f', g', hf', hg', hmatches', hfollows, -⟩ :=
    matches_of_special (k := 2) (n := 3) (by decide) (by decide) ![3, -1] "" "matrix"
  refine ⟨⟨f, g, hf, hg, hmatches.evaluate _, hmatches.gradient _ _⟩, f', g', hf', hg', hfollows _ _ _, hmatches'⟩

end Function

end Extremum
