import Extremum.Proofs.Exact.Expansion
import Extremum.Proofs.Exact.Polynomial

/-!
# Functions given by polynomial expressions

A function of expressions computes its values, gradients, jacobians and hessians along four different ways: it evaluates
the expressions, sweeps one of them, sweeps each of them, and sweeps what a sweep gave. If the expressions stand for
polynomials, all four tell one story in exact arithmetic: the partial derivatives of first and of second order
(`differentiates_symbolic`). So the rows of a jacobian are the gradients and hessians are symmetric, and debug mode never
refuses such a function. Main statement: `coherent_of_expressions`.
-/

open MvPolynomial

namespace Extremum.Function

variable {m n : ℕ}

/-! ## Formulas -/

/-- The expressions that a formula consists of: one expression on its own, or those of a list. -/
inductive Lists : Nested (Expr ℚ) → List (Expr ℚ) → Prop
  | one (e : Expr ℚ) : Lists (.item e) [e]
  | many (es : List (Expr ℚ)) : Lists (.ofList es) es

/-- The expressions of a formula are those that it lists. -/
theorem expressions_of_lists {formula : Nested (Expr ℚ)} {es : List (Expr ℚ)} (h : Lists formula es) :
    expressions formula = es := by
  cases h with
  | one e => rfl
  | many es =>
    induction es with
    | nil => rfl
    | cons e rest ih => exact congrArg (e :: ·) ih

/-! ## Parts -/

section Parts

variable {formula : Nested (Expr ℚ)} {P : Fin m → MvPolynomial (Fin n) ℚ} {name : String} {x : List ℚ}
  (h : Expr.DenoteAll (expressions formula) P) (hx : x.length = n)

include h hx

theorem compute_symbolic : (symbolic name n m formula).compute x =
    .ok (.ofList (List.ofFn fun i ↦ eval (Vec.coords n x) (P i))) := by
  unfold compute
  rw [h.evalAll hx]
  rfl

/-- Sweeping over the expressions gives the partial derivatives of their polynomials. -/
theorem rawGradient_symbolic (i : Fin m) : (symbolic name n m formula).rawGradient x i =
    .ok (.ofList (List.ofFn fun j ↦ eval (Vec.coords n x) (pderiv j (P i)))) := by
  unfold rawGradient
  dsimp only
  rw [h.evalAll hx, (h.gradient i).evalAll hx]
  dsimp only [bind, Except.bind]
  rw [component_ofFn]
  rfl

theorem rawJacobian_symbolic : (symbolic name n m formula).rawJacobian x =
    .ok (.ofRows (Matrix.tabulate fun i j ↦ eval (Vec.coords n x) (pderiv j (P i))).rows) := by
  have hrows : (List.range (expressions formula).length).mapM
      (fun i ↦ evalAll x (Expr.gradient n (expressions formula) i)) =
        .ok (Matrix.tabulate fun i j ↦ eval (Vec.coords n x) (pderiv j (P i))).rows := by
    rw [h.length_eq]
    exact Reading.mapM_range fun i ↦ (h.gradient i).evalAll hx
  unfold rawJacobian
  dsimp only
  rw [h.evalAll hx, hrows]
  dsimp only [bind, Except.bind]
  rw [h.length_eq, if_pos rfl]
  rfl

/-- Sweeping twice gives the second partial derivatives. -/
theorem rawHessian_symbolic (i : Fin m) : (symbolic name n m formula).rawHessian x i =
    .ok (.ofRows (Matrix.tabulate fun j k ↦ eval (Vec.coords n x) (pderiv k (pderiv j (P i)))).rows) := by
  unfold rawHessian
  dsimp only
  rw [h.evalAll hx, h.mapM_hessian i hx]
  dsimp only [bind, Except.bind]
  rw [component_ofFn]
  rfl

end Parts

/-! ## Methods -/

/-- The methods of a function answer with the values of polynomials and of their partial derivatives at a point. -/
structure Differentiates (f : Function ℚ) (P : Fin m → MvPolynomial (Fin n) ℚ) (point : Tensor ℚ) : Prop where
  evaluate : f.evaluate point = .ok (List.ofFn fun i ↦ eval (Vec.coords n point.data) (P i))
  gradient : ∀ i : Fin m,
    f.gradient point (i : ℕ) = .ok (List.ofFn fun j ↦ eval (Vec.coords n point.data) (pderiv j (P i)))
  jacobian : ∀ debug,
    f.jacobian debug point = .ok (.tabulate fun i j ↦ eval (Vec.coords n point.data) (pderiv j (P i)))
  hessian : ∀ debug (i : Fin m), f.hessian debug point (i : ℕ) =
    .ok (.tabulate fun j k ↦ eval (Vec.coords n point.data) (pderiv k (pderiv j (P i))))

/-- In exact arithmetic, functions of polynomial expressions are differentiated without error. -/
theorem differentiates_symbolic {formula : Nested (Expr ℚ)} {P : Fin m → MvPolynomial (Fin n) ℚ} {point : Tensor ℚ}
    (h : Expr.DenoteAll (expressions formula) P) (hn : 0 < n) (hm : 0 < m) (hpoint : point.shape = [n])
    (name : String) : (symbolic name n m formula).Differentiates P point := by
  have hx : point.data.length = n := Tensor.length_of_shape hpoint
  have hindex (i : Fin m) : (0 : ℤ) ≤ (i : ℕ) ∧ ((i : ℕ) : ℤ) < (symbolic name n m formula).outputSize :=
    ⟨Int.natCast_nonneg i, Int.ofNat_lt.2 i.isLt⟩
  have hnonlinear : (symbolic name n m formula).tier ≠ .linear := by
    intro hlinear
    cases hlinear
  have hgradient (i : Fin m) : (symbolic name n m formula).gradient point (i : ℕ) =
      .ok (List.ofFn fun j ↦ eval (Vec.coords n point.data) (pderiv j (P i))) :=
    gradient_of_rawGradient hpoint rfl (hindex i) (rawGradient_symbolic h hx i) List.length_ofFn
  constructor
  case evaluate => exact evaluate_of_compute hpoint (compute_symbolic h hx) List.length_ofFn
  case gradient => exact hgradient
  case jacobian =>
    have hplain := jacobian_of_rawJacobian (f := symbolic name n m formula) hpoint rfl (rawJacobian_symbolic h hx)
      (Matrix.height_tabulate _) rfl hm
    intro debug
    cases debug with
    | false => exact hplain
    | true =>
      apply jacobian_debug_eq_ok_iff.2 ⟨hplain, fun k row hrow ↦ ?_⟩
      obtain ⟨i, rfl, rfl⟩ := Matrix.rows_tabulate_eq_some_iff.1 hrow
      exact ⟨_, hgradient i, Vec.close_self _⟩
  case hessian =>
    intro debug i
    have hplain := hessian_of_rawHessian (f := symbolic name n m formula) hpoint rfl hnonlinear (hindex i)
      (rawHessian_symbolic h hx i) (Matrix.height_tabulate _) rfl hn
    cases debug with
    | false => exact hplain
    | true =>
      rw [hessian_of_debug hnonlinear, hplain]
      apply checkedHessian_of_symmetric
      · exact Matrix.height_tabulate _
      · apply Matrix.entry?_tabulate_comm
        intro j k
        rw [pderiv_pderiv_comm]

/-! ## Main statement -/

/-- The methods of a function of expressions belong together at a point, in debug mode and without it. -/
structure Coherent (f : Function ℚ) (E : Fin m → Expr ℚ) (n : ℕ) (point : Tensor ℚ) : Prop where
  /-- The values are those of the expressions. -/
  evaluate : ∃ values : Fin m → ℚ, f.evaluate point = .ok (List.ofFn values) ∧
    ∀ i, (E i).eval point.data = .ok (values i)
  /-- The gradients are the formal derivatives. -/
  gradient : ∀ i : Fin m, ∃ slope : Fin n → ℚ, f.gradient point (i : ℕ) = .ok (List.ofFn slope) ∧
    ∀ j : Fin n, ((E i).derivative j).eval point.data = .ok (slope j)
  /-- The jacobian has the gradients as its rows. -/
  jacobian : ∀ debug, ∃ a, f.jacobian debug point = .ok a ∧ a.height = m ∧ a.width = n ∧
    ∀ i : Fin m, ∃ row, a.rows[(i : ℕ)]? = some row ∧ f.gradient point (i : ℕ) = .ok row
  /-- The hessians are the formal second derivatives, and they are symmetric. -/
  hessian : ∀ debug (i : Fin m), ∃ a, f.hessian debug point (i : ℕ) = .ok a ∧ a.height = n ∧ a.width = n ∧
    (∀ j k : Fin n, ∃ v, a.entry? j k = some v ∧ (((E i).derivative j).derivative k).eval point.data = .ok v) ∧
    ∀ j k, a.entry? j k = a.entry? k j

/-- What answers with the polynomials of expressions is coherent. -/
theorem Differentiates.coherent {f : Function ℚ} {E : Fin m → Expr ℚ} {P : Fin m → MvPolynomial (Fin n) ℚ}
    {point : Tensor ℚ} (h : f.Differentiates P point) (hE : ∀ i, (E i).Denotes (P i)) (hpoint : point.shape = [n]) :
    f.Coherent E n point := by
  have hx : point.data.length = n := Tensor.length_of_shape hpoint
  constructor
  case evaluate => exact ⟨_, h.evaluate, fun i ↦ (hE i).eval hx⟩
  case gradient => exact fun i ↦ ⟨_, h.gradient i, fun j ↦ ((hE i).derivative j).eval hx⟩
  case jacobian =>
    intro debug
    refine ⟨_, h.jacobian debug, Matrix.height_tabulate _, rfl, fun i ↦ ⟨_, ?_, h.gradient i⟩⟩
    exact Matrix.rows_tabulate_eq_some_iff.2 ⟨i, rfl, rfl⟩
  case hessian =>
    intro debug i
    refine ⟨_, h.hessian debug i, Matrix.height_tabulate _, rfl, fun j k ↦ ⟨_, Matrix.entry?_tabulate j k, ?_⟩, ?_⟩
    · exact (((hE i).derivative j).derivative k).eval hx
    · apply Matrix.entry?_tabulate_comm
      intro j k
      rw [pderiv_pderiv_comm]

/-- A function of polynomial expressions is built whatever its sizes are, and its methods belong together at every
point: they answer with the partial derivatives of first and of second order. -/
theorem coherent_of_expressions {formula : Nested (Expr ℚ)} {E : Fin m → Expr ℚ} {P : Fin m → MvPolynomial (Fin n) ℚ}
    (hn : 0 < n) (hm : 0 < m) (hformula : Lists formula (List.ofFn E)) (hE : ∀ i, (E i).Denotes (P i))
    (name : String) : ∃ f, ofExpressions (.ofNat n) (.ofNat m) formula name = .ok f ∧
      ∀ point : Tensor ℚ, point.shape = [n] → f.Differentiates P point ∧ f.Coherent E n point := by
  have hall : Expr.DenoteAll (expressions formula) P := ⟨E, expressions_of_lists hformula, hE⟩
  refine ⟨_, ofExpressions_eq hn hm formula name, fun point hpoint ↦ ?_⟩
  have hdifferentiates := differentiates_symbolic hall hn hm hpoint name
  exact ⟨hdifferentiates, hdifferentiates.coherent hE hpoint⟩

/-- The first component times the second one less three. -/
def saddle : Expr ℚ :=
  .mul (.arg 0) (.sub (.arg 1) (.const 3))

theorem denotes_saddle : saddle.Denotes (X 0 * (X 1 - C 3) : MvPolynomial (Fin 2) ℚ) :=
  .mul (.arg 0) (.sub (.arg 1) (.const 3))

/-- The derivatives of a function of two arguments that is given by one expression. -/
theorem coherent_of_expressions_saddle : ∃ f, ofExpressions (.ofNat 2) (.ofNat 1) (.item saddle) "" = .ok f ∧
    f.Coherent (fun _ : Fin 1 ↦ saddle) 2 (.vector [4, 5]) ∧ f.evaluate (.vector [4, 5]) = .ok [8] ∧
    f.gradient (.vector [4, 5]) 0 = .ok [2, 4] := by
  obtain ⟨f, hf, hpoints⟩ := coherent_of_expressions (n := 2) (m := 1) (by decide) (by decide) (.one saddle)
    (fun _ ↦ denotes_saddle) ""
  obtain ⟨hdifferentiates, hcoherent⟩ := hpoints (.vector [4, 5]) rfl
  have hvalue := hdifferentiates.evaluate
  have hslope := hdifferentiates.gradient 0
  have hcoords : Vec.coords 2 (Tensor.vector [4, (5 : ℚ)]).data = ![4, 5] := Vec.coords_ofFn ![4, 5]
  have hentries : (List.ofFn fun j : Fin 2 ↦ eval ![4, (5 : ℚ)] (pderiv j (X 0 * (X 1 - C 3)))) = [2, 4] := by
    norm_num [pderiv_X, Pi.single_apply]
  rw [hcoords] at hvalue hslope
  rw [hentries] at hslope
  refine ⟨f, hf, hcoherent, ?_, hslope⟩
  rw [hvalue]
  norm_num

end Extremum.Function
