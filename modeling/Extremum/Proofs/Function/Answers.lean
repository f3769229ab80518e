import Extremum.Proofs.Function.Jacobian

/-!
# Answers of parts in form

A part that returns a flat list of the right length, or the rows of a matrix of the right sides, passes all checks, and
what it returned is the answer. The library's own functions have such parts, apart from those that are given by
expressions.
-/

namespace Extremum.Function

variable {α : Type} {f : Function α} {point : Tensor α} {i : Int} {a : Matrix α}

theorem converts_ofList {part : Except (Error α) (Nested α)} {entries : List α} (h : part = .ok (.ofList entries)) :
    Converts part (.vector entries) :=
  ⟨_, h, Nested.tensor?_ofList entries⟩

theorem converts_rows {part : Except (Error α) (Nested α)} (h : part = .ok (.ofRows a.rows)) (hrows : 0 < a.height) :
    Converts part a.tensor :=
  ⟨_, h, Nested.tensor?_rows hrows⟩

theorem matrixOf_tensor {hook : String} {height width : Nat} (hheight : a.height = height) (hwidth : a.width = width) :
    f.matrixOf hook height width a.tensor = .ok a := by
  have hshape : a.tensor.shape = [height, width] := by rw [← hheight, ← hwidth, Matrix.tensor]
  unfold matrixOf
  rw [returned_of_shape hshape]
  dsimp only [bind, Except.bind]
  rw [Matrix.ofTensor?_tensor]
  rfl

theorem jacobianOf_tensor (hheight : a.height = f.outputSize) (hwidth : a.width = f.inputSize) :
    f.jacobianOf a.tensor = .ok a := by
  have hrank : a.tensor.rank = 2 := rfl
  unfold jacobianOf
  rw [hrank, if_neg (by omega)]
  exact matrixOf_tensor hheight hwidth

variable [Scalar α] (hpoint : point.shape = [f.inputSize])

include hpoint

/-- A part that returned as many numbers as there are outputs gives the value. -/
theorem evaluate_of_compute {value : List α} (h : f.compute point.data = .ok (.ofList value))
    (hvalue : value.length = f.outputSize) : f.evaluate point = .ok value := by
  have hshape : (Tensor.vector value).shape = [f.outputSize] := congrArg ([·]) hvalue
  rw [evaluate_of_shape hpoint, (converts_ofList h).bind_numbers]
  exact valueOf_of_shape (.inl hshape)

/-- A part that returned as many numbers as there are arguments gives the gradient. -/
theorem gradient_of_rawGradient (hderivable : f.tier.isSubtier .derivable = true) (hi : 0 ≤ i ∧ i < f.outputSize)
    {slope : List α} (h : f.rawGradient point.data i.toNat = .ok (.ofList slope))
    (hslope : slope.length = f.inputSize) : f.gradient point i = .ok slope := by
  rw [gradient_of_shape hderivable hpoint hi, (converts_ofList h).bind_numbers]
  exact gradientOf_of_size hslope

/-- A part that returned a row for each output gives the jacobian. -/
theorem jacobian_of_rawJacobian (hderivable : f.tier.isSubtier .derivable = true)
    (h : f.rawJacobian point.data = .ok (.ofRows a.rows)) (hheight : a.height = f.outputSize)
    (hwidth : a.width = f.inputSize) (houtputs : 0 < f.outputSize) : f.jacobian false point = .ok a := by
  have hrows : 0 < a.height := Nat.lt_of_lt_of_eq houtputs hheight.symm
  rw [jacobian_of_shape hderivable hpoint, (converts_rows h hrows).bind_numbers]
  exact jacobianOf_tensor hheight hwidth

/-- Gradients in form are the rows of the jacobian, whichever way it is computed. -/
theorem jacobian_of_rows (hderivable : f.tier.isSubtier .derivable = true) (hstacks : f.Stacks)
    (houtputs : 0 < f.outputSize) (hheight : a.height = f.outputSize) (hwidth : a.width = f.inputSize)
    (hrows : ∀ i row, a.rows[i]? = some row → f.rawGradient point.data i = .ok (.ofList row)) :
    f.jacobian false point = .ok a := by
  apply jacobian_of_rawJacobian hpoint hderivable ?_ hheight hwidth houtputs
  rw [rawJacobian_eq_stackedGradients hstacks]
  exact stackedGradients_of_rows hheight hrows

/-- A part that returned a square matrix gives the hessian without checks. -/
theorem hessian_of_rawHessian (htwice : f.tier.isSubtier .twiceDerivable = true) (hlinear : f.tier ≠ .linear)
    (hi : 0 ≤ i ∧ i < f.outputSize) (h : f.rawHessian point.data i.toNat = .ok (.ofRows a.rows))
    (hheight : a.height = f.inputSize) (hwidth : a.width = f.inputSize) (hinputs : 0 < f.inputSize) :
    f.hessian false point i = .ok a := by
  have hrows : 0 < a.height := Nat.lt_of_lt_of_eq hinputs hheight.symm
  rw [hessian_of_shape htwice hlinear hpoint hi, (converts_rows h hrows).bind_numbers]
  exact matrixOf_tensor hheight hwidth

end Extremum.Function
