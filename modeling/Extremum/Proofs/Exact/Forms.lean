import Extremum.Proofs.Exact.Symbolic

/-!
# Forms written as expressions

A linear map with an offset and a quadratic form can be given by their coefficients or written out as expressions. The
two ways are differentiated by different means: products with a matrix on one side, sweeps through expressions on the
other. In exact arithmetic both come to the same polynomials (`differentiates_affine`, `differentiates_quadratic`), so
all methods agree at every point, however the expressions are written. Main statement: `agrees_of_forms`.
-/

open MvPolynomial
open scoped Matrix

namespace Extremum

variable {m n : ℕ}

/-! ## Polynomials of first and second order -/

/-- The polynomial with coefficients `a` of first order and the value `b` at zero. -/
noncomputable def affinePolynomial (a : Fin n → ℚ) (b : ℚ) : MvPolynomial (Fin n) ℚ :=
  C b + ∑ j, C (a j) * X j

/-- The polynomial with coefficients `A` of second order, `b` of first order and the value `c` at zero. -/
noncomputable def quadraticPolynomial (A : Fin n → Fin n → ℚ) (b : Fin n → ℚ) (c : ℚ) : MvPolynomial (Fin n) ℚ :=
  affinePolynomial b c + ∑ i, ∑ j, C (A i j / 2) * (X i * X j)

/-- Among the partial derivatives of the components, a component picks its own coefficient. -/
theorem sum_mul_pderiv_X (p : Fin n → MvPolynomial (Fin n) ℚ) (k : Fin n) : ∑ j, p j * pderiv k (X j) = p k := by
  rw [Finset.sum_eq_single k]
  · rw [pderiv_X_self, mul_one]
  · intro j _ hjk
    rw [pderiv_X_of_ne hjk, mul_zero]
  · intro hk
    exact absurd (Finset.mem_univ k) hk

/-- The value of a polynomial of first order. -/
theorem eval_affinePolynomial (a : Fin n → ℚ) (b : ℚ) (x : Fin n → ℚ) :
    eval x (affinePolynomial a b) = a ⬝ᵥ x + b := by
  unfold affinePolynomial dotProduct
  simp only [map_add, map_sum, map_mul, eval_C, eval_X]
  exact add_comm _ _

/-- The partial derivatives of a polynomial of first order are its coefficients. -/
theorem pderiv_affinePolynomial (a : Fin n → ℚ) (b : ℚ) (k : Fin n) : pderiv k (affinePolynomial a b) = C (a k) := by
  unfold affinePolynomial
  simp only [map_add, map_sum, pderiv_C, pderiv_C_mul, zero_add]
  exact sum_mul_pderiv_X (fun j ↦ C (a j)) k

/-- The value of a polynomial of second order. -/
theorem eval_quadraticPolynomial (A : Fin n → Fin n → ℚ) (b : Fin n → ℚ) (c : ℚ) (x : Fin n → ℚ) :
    eval x (quadraticPolynomial A b c) = x ⬝ᵥ Matrix.of A *ᵥ x / 2 + b ⬝ᵥ x + c := by
  have hterms : ∑ i, ∑ j, A i j / 2 * (x i * x j) = x ⬝ᵥ Matrix.of A *ᵥ x / 2 := by
    simp only [dotProduct, Matrix.mulVec, Matrix.of_apply, Finset.mul_sum, Finset.sum_div]
    refine Finset.sum_congr rfl fun i _ ↦ Finset.sum_congr rfl fun j _ ↦ ?_
    ring
  unfold quadraticPolynomial
  rw [map_add, eval_affinePolynomial, ← hterms]
  simp only [map_sum, map_mul, eval_C, eval_X]
  ring

/-- The partial derivatives of polynomials of second order are of first order. -/
theorem pderiv_quadraticPolynomial {A : Fin n → Fin n → ℚ} (hA : ∀ i j, A i j = A j i) (b : Fin n → ℚ) (c : ℚ)
    (k : Fin n) : pderiv k (quadraticPolynomial A b c) = affinePolynomial (A k) (b k) := by
  have hterm (i j : Fin n) : pderiv k (C (A i j / 2) * (X i * X j) : MvPolynomial (Fin n) ℚ) =
      C (A i j / 2) * X j * pderiv k (X i) + C (A i j / 2) * X i * pderiv k (X j) := by
    rw [pderiv_C_mul, pderiv_mul]
    ring
  have hhalves (j : Fin n) : (C (A k j / 2) * X j + C (A j k / 2) * X j : MvPolynomial (Fin n) ℚ) =
      C (A k j) * X j := by
    rw [hA j k, ← add_mul, ← C_add, add_halves]
  have hterms : ∑ i, ∑ j, pderiv k (C (A i j / 2) * (X i * X j) : MvPolynomial (Fin n) ℚ) =
      ∑ j, C (A k j) * X j := by
    calc ∑ i, ∑ j, pderiv k (C (A i j / 2) * (X i * X j) : MvPolynomial (Fin n) ℚ)
        = ∑ i, ((∑ j, C (A i j / 2) * X j) * pderiv k (X i) + C (A i k / 2) * X i) := by
          refine Finset.sum_congr rfl fun i _ ↦ ?_
          simp only [hterm, Finset.sum_add_distrib]
          rw [← Finset.sum_mul, sum_mul_pderiv_X fun j ↦ C (A i j / 2) * X i]
      _ = ∑ j, C (A k j / 2) * X j + ∑ j, C (A j k / 2) * X j := by
          rw [Finset.sum_add_distrib, sum_mul_pderiv_X fun i ↦ ∑ j, C (A i j / 2) * X j]
      _ = ∑ j, C (A k j) * X j := by
          rw [← Finset.sum_add_distrib]
          exact Finset.sum_congr rfl fun j _ ↦ hhalves j
  unfold quadraticPolynomial
  rw [map_add, pderiv_affinePolynomial, map_sum]
  simp only [map_sum]
  rw [hterms]
  rfl

/-! ## Written out -/

namespace Expr

def sum (E : Fin m → Expr ℚ) : Expr ℚ :=
  total (List.ofFn E)

/-- The coefficients `a` times the components, and `b`. -/
def affine (a : Fin n → ℚ) (b : ℚ) : Expr ℚ :=
  .add (.const b) (sum fun j ↦ .mul (.const (a j)) (.arg j))

/-- The coefficients `A` times two components each, the coefficients `b` times the components, and `c`. -/
def quadratic (A : Fin n → Fin n → ℚ) (b : Fin n → ℚ) (c : ℚ) : Expr ℚ :=
  .add (affine b c) (sum fun i ↦ sum fun j ↦ .mul (.const (A i j / 2)) (.mul (.arg i) (.arg j)))

namespace Denotes

theorem foldl_add {E : Fin m → Expr ℚ} {p : Fin m → MvPolynomial (Fin n) ℚ} (hE : ∀ i, (E i).Denotes (p i))
    {e : Expr ℚ} {q : MvPolynomial (Fin n) ℚ} (he : e.Denotes q) :
    ((List.ofFn E).foldl .add e).Denotes (q + ∑ i, p i) := by
  induction m generalizing e q with
  | zero => exact he.of_eq (add_zero q).symm
  | succ m ih =>
    rw [List.ofFn_succ, List.foldl_cons, Fin.sum_univ_succ, ← add_assoc]
    exact ih (fun i ↦ hE i.succ) (he.add (hE 0))

/-- A sum of expressions stands for the sum of their polynomials. -/
theorem sum {E : Fin m → Expr ℚ} {p : Fin m → MvPolynomial (Fin n) ℚ} (hE : ∀ i, (E i).Denotes (p i)) :
    (Expr.sum E).Denotes (∑ i, p i) := by
  unfold Expr.sum
  cases m with
  | zero => exact .zero
  | succ m =>
    rw [List.ofFn_succ, Fin.sum_univ_succ]
    exact foldl_add (fun i ↦ hE i.succ) (hE 0)

theorem affine (a : Fin n → ℚ) (b : ℚ) : (Expr.affine a b).Denotes (affinePolynomial a b) :=
  .add (.const b) (.sum fun j ↦ .mul (.const (a j)) (.arg j))

/-- The written out form stands for the polynomial with its coefficients. -/
theorem quadratic (A : Fin n → Fin n → ℚ) (b : Fin n → ℚ) (c : ℚ) :
    (Expr.quadratic A b c).Denotes (quadraticPolynomial A b c) :=
  .add (.affine b c) (.sum fun i ↦ .sum fun j ↦ .mul (.const (A i j / 2)) (.mul (.arg i) (.arg j)))

end Denotes

end Expr

/-! ## Given by coefficients -/

/-- The linear map with coefficients `A` and the offset `b`. -/
def Affine.ofTable (A : Fin m → Fin n → ℚ) (b : Fin m → ℚ) : Affine ℚ :=
  ⟨.tabulate A, List.ofFn b, List.length_ofFn.trans (Matrix.height_tabulate A).symm⟩

/-- The quadratic form with coefficients `A` of second order, `b` of first order and the value `c` at zero. -/
def Quadratic.ofTable (A : Fin n → Fin n → ℚ) (b : Fin n → ℚ) (c : ℚ) : Quadratic ℚ :=
  ⟨.tabulate A, List.ofFn b, c, Matrix.height_tabulate A, List.length_ofFn⟩

namespace Quadratic

/-- The value of a quadratic form by its coefficients is that of the polynomial. -/
theorem value_ofTable (A : Fin n → Fin n → ℚ) (b : Fin n → ℚ) (c : ℚ) (x : Fin n → ℚ) :
    (ofTable A b c).value x = eval x (quadraticPolynomial A b c) := by
  rw [eval_quadraticPolynomial]
  change x ⬝ᵥ Matrix.grid n n (.tabulate A) *ᵥ x / 2 + Vec.coords n (List.ofFn b) ⬝ᵥ x + c = _
  rw [Matrix.grid_tabulate, Vec.coords_ofFn]

/-- The gradient of a quadratic form by its coefficients is that of the polynomial, where the coefficients are
symmetric. -/
theorem gradient_ofTable {A : Fin n → Fin n → ℚ} (hA : ∀ i j, A i j = A j i) (b : Fin n → ℚ) (c : ℚ)
    (x : Fin n → ℚ) (k : Fin n) :
    (ofTable A b c).gradient x k = eval x (pderiv k (quadraticPolynomial A b c)) := by
  rw [pderiv_quadraticPolynomial hA, eval_affinePolynomial]
  change (Matrix.grid n n (.tabulate A) *ᵥ x + Vec.coords n (List.ofFn b)) k = _
  rw [Matrix.grid_tabulate, Vec.coords_ofFn]
  rfl

end Quadratic

namespace Function

theorem ofMatrix_ofTable (A : Fin m → Fin n → ℚ) (b : Fin m → ℚ) (hn : 0 < n) (hm : 0 < m) (name : String) :
    ofMatrix (.ok (Matrix.tabulate A).tensor) (.ok (.vector (List.ofFn b))) name =
      .ok (.affine name (.ofTable A b)) := by
  apply ofMatrix_tensor (Affine.ofTable A b) hn
  exact Nat.lt_of_lt_of_eq hm (Matrix.height_tabulate A).symm

/-- A symmetric table of coefficients is accepted, whatever its entries are. -/
theorem ofQuadratic_ofTable {A : Fin n → Fin n → ℚ} (hA : ∀ i j, A i j = A j i) (b : Fin n → ℚ) (c : ℚ) (hn : 0 < n)
    (name : String) : ofQuadratic (.ok (Matrix.tabulate A).tensor) (.ok (.vector (List.ofFn b))) (.ok c) name =
      .ok (.quadratic name (.ofTable A b c)) := by
  have hsquare : (Matrix.tabulate A).height = (Matrix.tabulate A).width := Matrix.height_tabulate A
  have hsymmetric := Matrix.isSymmetric_of_entries hsquare (Matrix.entry?_tabulate_comm hA) 1e-5 1e-8
  have hslope : (Tensor.vector (List.ofFn b)).data.length = (Matrix.tabulate A).width := List.length_ofFn
  have hsizes : checkSizes (α := ℚ) (.ofNat (Matrix.tabulate A).width) (.ofNat 1) = .ok (n, 1) :=
    checkSizes_ofNat hn Nat.one_pos
  unfold ofQuadratic
  dsimp only [bind, Except.bind]
  rw [Matrix.ofTensor?_tensor]
  dsimp only
  rw [dif_pos hsquare, hsymmetric, dif_pos hslope, hsizes]
  rfl

section Differentiates

variable {point : Tensor ℚ} (hpoint : point.shape = [n])

include hpoint

/-- Linear functions have the derivatives of polynomials of first order. -/
theorem differentiates_of_linear {f : Function ℚ} {A : Fin m → Fin n → ℚ} {b : Fin m → ℚ} (hinputs : f.inputSize = n)
    (houtputs : f.outputSize = m) (hlinear : f.tier = .linear) (hstacks : f.Stacks) (hm : 0 < m)
    (hcompute : f.compute point.data =
      .ok (.ofList (List.ofFn (Matrix.of A *ᵥ Vec.coords n point.data + b))))
    (hrow : ∀ i : Fin m, f.rawGradient point.data i = .ok (.ofList (List.ofFn (A i)))) :
    f.Differentiates (fun i ↦ affinePolynomial (A i) (b i)) point := by
  subst hinputs houtputs
  have hderivable : f.tier.isSubtier .derivable = true := isSubtier_of_linear hlinear _
  have hindex (i : Fin f.outputSize) : (0 : ℤ) ≤ (i : ℕ) ∧ ((i : ℕ) : ℤ) < f.outputSize :=
    ⟨Int.natCast_nonneg i, Int.ofNat_lt.2 i.isLt⟩
  have hvalues : (fun i ↦ eval (Vec.coords f.inputSize point.data) (affinePolynomial (A i) (b i))) =
      Matrix.of A *ᵥ Vec.coords f.inputSize point.data + b :=
    funext fun i ↦ eval_affinePolynomial (A i) (b i) _
  have hslopes : (fun i j ↦ eval (Vec.coords f.inputSize point.data) (pderiv j (affinePolynomial (A i) (b i)))) =
      A := by
    funext i j
    rw [pderiv_affinePolynomial, eval_C]
  constructor
  case evaluate =>
    rw [hvalues]
    exact evaluate_of_compute hpoint hcompute List.length_ofFn
  case gradient =>
    intro i
    rw [congrFun hslopes i]
    exact gradient_of_rawGradient hpoint hderivable (hindex i) (hrow i) List.length_ofFn
  case jacobian =>
    rw [hslopes]
    apply jacobian_of_exact_rows hpoint hderivable hstacks hm (Matrix.height_tabulate A) rfl
    intro i row h
    obtain ⟨k, rfl, rfl⟩ := Matrix.rows_tabulate_eq_some_iff.1 h
    exact hrow k
  case hessian =>
    intro debug i
    have hflat : (fun j k ↦ eval (Vec.coords f.inputSize point.data)
        (pderiv k (pderiv j (affinePolynomial (A i) (b i))))) = fun _ _ ↦ 0 := by
      funext j k
      rw [pderiv_affinePolynomial, pderiv_C, map_zero]
    rw [hflat, Matrix.tabulate_zero]
    exact hessian_of_tier hlinear hpoint (hindex i) debug

/-- Linear functions by their coefficients answer with polynomials of first order. -/
theorem differentiates_affine (A : Fin m → Fin n → ℚ) (b : Fin m → ℚ) (hm : 0 < m) (name : String) :
    (affine name (.ofTable A b)).Differentiates (fun i ↦ affinePolynomial (A i) (b i)) point := by
  have hx : point.data.length = n := Tensor.length_of_shape hpoint
  have hheight : (Matrix.tabulate A).height = m := Matrix.height_tabulate A
  apply differentiates_of_linear (f := affine name (.ofTable A b)) hpoint rfl hheight rfl trivial hm
  · have happly : ((Matrix.tabulate A).apply point.data).length = m := (Matrix.length_apply _ _).trans hheight
    have hproduct : Vec.coords m ((Matrix.tabulate A).apply point.data) = Matrix.of A *ᵥ Vec.coords n point.data := by
      rw [← Matrix.grid_tabulate]
      exact Matrix.coords_apply hheight rfl hx
    apply congrArg Except.ok
    apply ofList_ofFn
    · rw [Vec.length_add, Affine.ofTable, happly, List.length_ofFn, Nat.min_self]
    · rw [Affine.ofTable, Vec.coords_add happly List.length_ofFn, hproduct, Vec.coords_ofFn]
  · exact fun i ↦ congrArg (fun row ↦ Except.ok (Nested.ofList row)) (Matrix.row_tabulate i)

/-- Quadratic forms have the derivatives of polynomials of second order. -/
theorem differentiates_quadratic {A : Fin n → Fin n → ℚ} (hA : ∀ i j, A i j = A j i) (b : Fin n → ℚ) (c : ℚ)
    (hn : 0 < n) (name : String) :
    (quadratic name (.ofTable A b c)).Differentiates (fun _ : Fin 1 ↦ quadraticPolynomial A b c) point := by
  have hf : (quadratic name (.ofTable A b c)).Numeric := .quadratic name _ (Matrix.entry?_tabulate_comm hA)
  have hslopes : (Quadratic.ofTable A b c).gradient (Vec.coords n point.data) =
      fun k ↦ eval (Vec.coords n point.data) (pderiv k (quadraticPolynomial A b c)) :=
    funext (Quadratic.gradient_ofTable hA b c _)
  constructor
  case evaluate =>
    have hvalue := Quadratic.value_ofTable A b c (Vec.coords n point.data)
    exact (evaluate_eq hf hpoint).trans (congrArg (fun v ↦ Except.ok [v]) hvalue)
  case gradient =>
    intro i
    rw [← hslopes]
    exact gradient_eq hf hpoint i
  case jacobian =>
    intro debug
    rw [← hslopes]
    exact jacobian_eq hf hpoint Nat.one_pos debug
  case hessian =>
    intro debug i
    have hsecond : (fun j k ↦ eval (Vec.coords n point.data) (pderiv k (pderiv j (quadraticPolynomial A b c)))) =
        A := by
      funext j k
      rw [pderiv_quadraticPolynomial hA, pderiv_affinePolynomial, eval_C]
    rw [hsecond]
    exact hessian_eq hf hpoint hn ⟨Int.natCast_nonneg _, Int.ofNat_lt.2 i.isLt⟩ debug

end Differentiates

/-! ## Main statement -/

/-- Two functions with `m` outputs answer all calls at a point, and they answer alike. -/
structure Agrees (f g : Function ℚ) (m : ℕ) (point : Tensor ℚ) : Prop where
  evaluate : ∃ values, f.evaluate point = .ok values ∧ g.evaluate point = .ok values
  gradient : ∀ i : ℤ, 0 ≤ i → i < m → ∃ slope, f.gradient point i = .ok slope ∧ g.gradient point i = .ok slope
  jacobian : ∀ debug, ∃ a, f.jacobian debug point = .ok a ∧ g.jacobian debug point = .ok a
  hessian : ∀ debug (i : ℤ), 0 ≤ i → i < m → ∃ a, f.hessian debug point i = .ok a ∧ g.hessian debug point i = .ok a

/-- Two functions that answer with the same polynomials agree. -/
theorem Differentiates.agrees {f g : Function ℚ} {P : Fin m → MvPolynomial (Fin n) ℚ} {point : Tensor ℚ}
    (hf : f.Differentiates P point) (hg : g.Differentiates P point) : f.Agrees g m point := by
  have hindex {i : ℤ} (hnonneg : 0 ≤ i) (hlt : i < m) : ∃ k : Fin m, i = (k : ℕ) :=
    ⟨⟨i.toNat, by omega⟩, (Int.toNat_of_nonneg hnonneg).symm⟩
  constructor
  case evaluate => exact ⟨_, hf.evaluate, hg.evaluate⟩
  case gradient =>
    intro i hnonneg hlt
    obtain ⟨k, rfl⟩ := hindex hnonneg hlt
    exact ⟨_, hf.gradient k, hg.gradient k⟩
  case jacobian => exact fun debug ↦ ⟨_, hf.jacobian debug, hg.jacobian debug⟩
  case hessian =>
    intro debug i hnonneg hlt
    obtain ⟨k, rfl⟩ := hindex hnonneg hlt
    exact ⟨_, hf.hessian debug k, hg.hessian debug k⟩

/-- A form is differentiated in the same way whether it is given by its coefficients or written out, in whichever way
its polynomials are written: a quadratic form with symmetric coefficients, and a linear map with an offset. -/
theorem agrees_of_forms (hn : 0 < n) (name name' : String) :
    (∀ (A : Fin n → Fin n → ℚ) (b : Fin n → ℚ) (c : ℚ), (∀ i j, A i j = A j i) →
      (Expr.quadratic A b c).Denotes (quadraticPolynomial A b c) ∧
      ∀ e formula, e.Denotes (quadraticPolynomial A b c) → Lists formula [e] → ∃ t q,
        ofExpressions (.ofNat n) (.ofNat 1) formula name = .ok t ∧
        ofQuadratic (.ok (Matrix.tabulate A).tensor) (.ok (.vector (List.ofFn b))) (.ok c) name' = .ok q ∧
        ∀ point : Tensor ℚ, point.shape = [n] → t.Agrees q 1 point) ∧
    ∀ (m : ℕ) (A : Fin m → Fin n → ℚ) (b : Fin m → ℚ), 0 < m →
      (∀ i, (Expr.affine (A i) (b i)).Denotes (affinePolynomial (A i) (b i))) ∧
      ∀ E formula, (∀ i, (E i).Denotes (affinePolynomial (A i) (b i))) → Lists formula (List.ofFn E) → ∃ t q,
        ofExpressions (.ofNat n) (.ofNat m) formula name = .ok t ∧
        ofMatrix (.ok (Matrix.tabulate A).tensor) (.ok (.vector (List.ofFn b))) name' = .ok q ∧
        ∀ point : Tensor ℚ, point.shape = [n] → t.Agrees q m point := by
  constructor
  · intro A b c hA
    refine ⟨.quadratic A b c, fun e formula he hformula ↦ ?_⟩
    have hall : Expr.DenoteAll (expressions formula) fun _ : Fin 1 ↦ quadraticPolynomial A b c :=
      ⟨fun _ ↦ e, expressions_of_lists hformula, fun _ ↦ he⟩
    refine ⟨_, _, ofExpressions_eq hn Nat.one_pos formula name, ofQuadratic_ofTable hA b c hn name',
      fun point hpoint ↦ ?_⟩
    exact (differentiates_symbolic hall hn Nat.one_pos hpoint name).agrees
      (differentiates_quadratic hpoint hA b c hn name')
  · intro m A b hm
    refine ⟨fun i ↦ .affine (A i) (b i), fun E formula hE hformula ↦ ?_⟩
    have hall : Expr.DenoteAll (expressions formula) fun i ↦ affinePolynomial (A i) (b i) :=
      ⟨E, expressions_of_lists hformula, hE⟩
    refine ⟨_, _, ofExpressions_eq hn hm formula name, ofMatrix_ofTable A b hn hm name', fun point hpoint ↦ ?_⟩
    exact (differentiates_symbolic hall hn hm hpoint name).agrees (differentiates_affine hpoint A b hm name')

/-- A quadratic form of two arguments, and its gradient as a linear map. -/
theorem agrees_of_forms_bowl :
    (∃ t q, ofExpressions (.ofNat 2) (.ofNat 1) (.item (.quadratic ![![2, 1], ![1, 3]] ![1, 0] 5)) "" = .ok t ∧
      ofQuadratic (.ok bowlMatrix.tensor) (.ok (.vector [1, 0])) (.ok 5) "bowl" = .ok q ∧
      t.Agrees q 1 (.vector [4, -1])) ∧
    ∃ t q, ofExpressions (.ofNat 2) (.ofNat 2) (.ofList [.affine ![2, 1] 1, .affine ![1, 3] 0]) "" = .ok t ∧
      ofMatrix (.ok bowlMatrix.tensor) (.ok (.vector [1, 0])) "bowl" = .ok q ∧ t.Agrees q 2 (.vector [4, -1]) := by
  have hsymmetric : ∀ i j, (![![2, 1], ![1, 3]] : Fin 2 → Fin 2 → ℚ) i j = ![![2, 1], ![1, 3]] j i := by decide
  obtain ⟨hquadratic, haffine⟩ := agrees_of_forms (n := 2) (by decide) "" "bowl"
  obtain ⟨hdenotes, hforms⟩ := hquadratic _ ![1, 0] 5 hsymmetric
  obtain ⟨hdenotes', hmaps⟩ := haffine 2 ![![2, 1], ![1, 3]] ![1, 0] (by decide)
  obtain ⟨t, q, ht, hq, hagrees⟩ := hforms _ _ hdenotes (.one _)
  obtain ⟨t', q', ht', hq', hagrees'⟩ := hmaps _ _ hdenotes' (.many _)
  exact ⟨⟨t, q, ht, hq, hagrees _ rfl⟩, t', q', ht', hq', hagrees' _ rfl⟩

end Function

end Extremum
