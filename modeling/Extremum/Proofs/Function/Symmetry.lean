import Extremum.Proofs.Function.Answers
import Extremum.Proofs.Function.DebugMode

/-!
# Symmetric coefficients

A quadratic function is built if its matrix is close to its transpose, where the distance may grow with the entries.
Its hessian is that matrix, and debug mode looks at it with a tolerance that does not grow. A matrix may thus be
accepted and refused later: `hessian_of_ofQuadratic` says that debug mode refuses exactly those hessians whose entries
are further than `1e-8` from the ones across the diagonal. A matrix that is its own transpose is never refused.
-/

namespace Extremum

namespace Function

variable {f : Function Float} {form : Quadratic Float} {name : String} {point : Tensor Float}

/-- The hessian of a quadratic function is its matrix, everywhere. -/
theorem hessian_quadratic (hinputs : 0 < form.matrix.width) (hpoint : point.shape = [form.matrix.width]) :
    (quadratic name form).hessian false point 0 = .ok form.matrix := by
  have hnonlinear : (quadratic name form).tier ≠ .linear := by
    intro h
    cases h
  have hfirst : (0 : Int) ≤ 0 ∧ (0 : Int) < ((quadratic name form).outputSize : Int) :=
    ⟨le_refl 0, Int.zero_lt_one⟩
  apply hessian_of_rawHessian hpoint rfl hnonlinear hfirst
  · rfl
  · exact form.square
  · rfl
  · exact hinputs

end Function

/-- What is near to itself is defined. -/
theorem Scalar.beq_of_near_self {v : Float} (h : Near v v) : (v == v) = true := by
  rcases h with ⟨hfinite, -⟩ | h
  · have hdefined : v.isNaN = false := Binary64.isNaN_of_isFinite hfinite
    exact (Binary64.beq_iff_integer hdefined hdefined).2 rfl
  · exact h

namespace Session

/-- What becomes of the matrix `a` that a quadratic function was built from. -/
structure SymmetryChecked (f : Function Float) (a : Matrix Float) (x : Reading Float (Tensor Float))
    (s : Session) : Prop where
  /-- Each entry is within the tolerances of the one across the diagonal. -/
  accepted : ∀ j k v w, a.entry? j k = some v → a.entry? k j = some w → Scalar.Near v w
  /-- Without debug mode the hessian is the matrix. -/
  unchecked : answer (hessian f x 0) s.unchecked = .ok a
  /-- With debug mode it is the matrix exactly if the absolute tolerance alone is kept as well. -/
  checked_iff : answer (hessian f x 0) s.checked = .ok a ↔ a.NearlySymmetric
  /-- Otherwise it is refused. -/
  refused : ¬a.NearlySymmetric → ∃ e, answer (hessian f x 0) s.checked = .error e ∧ e.kindName = Kind.value.name
  /-- A matrix that is its own transpose passes. -/
  symmetric : (∀ j k, a.entry? j k = a.entry? k j) → answer (hessian f x 0) s.checked = .ok a

/-- The hessian of a quadratic function that was built is its matrix, and debug mode refuses it exactly if some entry
is further from the one across the diagonal than the absolute tolerance allows. -/
theorem hessian_of_ofQuadratic {a b : Reading Float (Tensor Float)} {level : Reading Float Float} {name : String}
    {f : Function Float} (hbuilt : Function.ofQuadratic a b level name = .ok f) {point : Tensor Float}
    (hpoint : IsPoint f point) (s : Session) :
    ∃ t m, a = .ok t ∧ Matrix.ofTensor? t = some m ∧ SymmetryChecked f m (.ok point) s := by
  obtain ⟨t, u, form, ht, -, -, hmatrix, -, hclose, hinputs, rfl⟩ := Function.exists_of_ofQuadratic hbuilt
  have haccepted : ∀ j k v w, form.matrix.entry? j k = some v → form.matrix.entry? k j = some w →
      Scalar.Near v w := by
    intro j k v w hv hw
    apply Scalar.near_iff.2
    exact (Matrix.isSymmetric_iff form.square).1 hclose j k v w hv hw
  have hunchecked : answer (hessian (.quadratic name form) (.ok point) 0) s.unchecked = .ok form.matrix := by
    rw [answer_hessian_of_point rfl]
    exact Function.hessian_quadratic hinputs hpoint
  have hchecked : answer (hessian (.quadratic name form) (.ok point) 0) s.checked = .ok form.matrix ↔
      form.matrix.NearlySymmetric := by
    rw [hessian_checked_eq_ok_iff, and_iff_right hunchecked]
  refine ⟨t, form.matrix, ht, hmatrix, haccepted, hunchecked, hchecked, fun h ↦ ?_, fun h ↦ ?_⟩
  · exact ⟨_, hessian_checked_of_asymmetric hunchecked h, rfl⟩
  · apply hchecked.2
    intro j k v w hv hw
    have hsame : v = w := Option.some.inj (hv.symm.trans ((h j k).trans hw))
    rw [← hsame] at hw ⊢
    exact .inr (Scalar.beq_of_near_self (haccepted j k v v hv hw))

/-- Coefficients of the product of two arguments: one above the diagonal, and `v` below it. -/
def productMatrix (v : Float) : Matrix Float :=
  ⟨[[0, 1], [v, 0]], 2, by simp⟩

/-- The quadratic function of these coefficients. -/
def productForm (v : Float) : Function Float :=
  .quadratic "" ⟨productMatrix v, [0, 0], 0, rfl, rfl⟩

/-- A distance of `1e-9` is accepted, and passes in debug mode. -/
theorem hessian_of_ofQuadratic_productForm :
    let f := productForm 1.000000001
    let x : Reading Float (Tensor Float) := .ok (.vector [3, 4])
    let s : Session := {}
    Function.ofQuadratic (.ok (productMatrix 1.000000001).tensor) (.ok (.vector [0, 0])) (.ok 0) "" = .ok f ∧
      answer (hessian f x 0) s.unchecked = .ok (productMatrix 1.000000001) ∧
      answer (hessian f x 0) s.checked = .ok (productMatrix 1.000000001) := by
  intro f x s
  have hbuilt : Function.ofQuadratic (.ok (productMatrix 1.000000001).tensor) (.ok (.vector [0, 0])) (.ok 0) "" =
      .ok f := rfl
  have hpoint : IsPoint f (.vector [3, 4]) := rfl
  obtain ⟨t, m, ht, hm, hpromise⟩ := hessian_of_ofQuadratic hbuilt hpoint s
  have hsame : some m = some (productMatrix 1.000000001) := by
    rw [← hm, ← Except.ok.inj ht, Matrix.ofTensor?_tensor]
  cases hsame
  have hsymmetric : (productMatrix 1.000000001).isSymmetric 0 Function.symmetryTolerance = true := by decide
  have hpasses := hpromise.checked_iff.2 ((Matrix.isSymmetric_iff_nearlySymmetric rfl).1 hsymmetric)
  exact ⟨hbuilt, hpromise.unchecked, hpasses⟩

/-- It is not true that debug mode passes the hessian of every quadratic function that was built from finite numbers:
a distance of `1e-6` between entries of size one is accepted and then refused. -/
theorem not_hessian_of_productForm :
    ¬∀ {t u point : Tensor Float} {level : Float} {name : String} {f : Function Float} {m : Matrix Float} {s : Session},
      Function.ofQuadratic (.ok t) (.ok u) (.ok level) name = .ok f → (∀ v ∈ t.data, v.isFinite = true) →
      (∀ v ∈ u.data, v.isFinite = true) → level.isFinite = true → IsPoint f point → Matrix.ofTensor? t = some m →
      answer (hessian f (.ok point) 0) s.unchecked = .ok m ∧ answer (hessian f (.ok point) 0) s.checked = .ok m := by
  intro hall
  have hbuilt : Function.ofQuadratic (.ok (productMatrix 1.000001).tensor) (.ok (.vector [0, 0])) (.ok 0) "" =
      .ok (productForm 1.000001) := rfl
  have hfinite : ∀ v ∈ (productMatrix 1.000001).tensor.data, v.isFinite = true := by decide
  have hmatrix := Matrix.ofTensor?_tensor (productMatrix 1.000001)
  have hpoint : IsPoint (productForm 1.000001) (.vector [0, 0]) := rfl
  obtain ⟨-, hpassed⟩ := hall (s := {}) hbuilt hfinite (by decide) (by decide) hpoint hmatrix
  have hsymmetric : (productMatrix 1.000001).NearlySymmetric := (hessian_checked_eq_ok_iff.1 hpassed).2
  have hasymmetric : (productMatrix 1.000001).isSymmetric 0 Function.symmetryTolerance = false := by decide
  rw [(Matrix.isSymmetric_iff_nearlySymmetric rfl).2 hsymmetric] at hasymmetric
  exact Bool.noConfusion hasymmetric

end Session

end Extremum
