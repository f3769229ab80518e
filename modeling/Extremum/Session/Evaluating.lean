import Extremum.Function.Evaluation
import Extremum.Session.Basic

/-!
# Evaluating in a session

The operations on functions with arguments that still have to be read. What a function does not provide is
refused before its argument is looked at. Debug mode decides whether derivatives are checked.
-/

namespace Extremum.Session

/-- The point at which a function is to be differentiated, if its tier promises that. -/
def pointFor (f : Function Float) (t : Tier) (x : Reading Float (Tensor Float)) :
    Except (Error Float) (Tensor Float) := do
  f.provides t
  x

def evaluate (f : Function Float) (x : Reading Float (Tensor Float)) : Run (List Float) := do
  lift (f.evaluate (← lift x))

def gradient (f : Function Float) (x : Reading Float (Tensor Float)) (index : Int) : Run (List Float) := do
  lift (f.gradient (← lift (pointFor f .derivable x)) index)

def jacobian (f : Function Float) (x : Reading Float (Tensor Float)) : Run (Matrix Float) := do
  let x ← lift (pointFor f .derivable x)
  lift (f.jacobian (← get).debug x)

def hessian (f : Function Float) (x : Reading Float (Tensor Float)) (index : Int) : Run (Matrix Float) := do
  let x ← lift (pointFor f .twiceDerivable x)
  lift (f.hessian (← get).debug x index)

/-! ## Central differences -/

/-- The gradient of an output estimated by central differences. The step is looked at first, then the function,
the index and the point. -/
def differences (f : Reading Float (Function Float)) (x : Reading Float (Tensor Float)) (index : Int)
    (step : Reading Float Float) : Run (Tensor Float) := do
  let step ← lift step
  if step ≤ 0 then throw .stepNotPositive
  let f ← lift f
  match x with
  | .ok x => lift (f.differences x index step)
  | .error e =>
    let _ ← lift (f.differences (.vector []) index step)
    throw e

def gradientError (f : Function Float) (x : Reading Float (Tensor Float)) (index : Int)
    (step : Reading Float Float) : Run Float := do
  let x ← lift (pointFor f .derivable x)
  match step with
  | .ok step => lift (f.gradientError x index step)
  | .error e =>
    let _ ← lift (f.gradient x index)
    throw e

def checkGradient (f : Function Float) (x : Reading Float (Tensor Float)) (index : Int)
    (threshold step : Reading Float Float) : Run Bool := do
  let deviation ← gradientError f x index step
  return decide (deviation ≤ (← lift threshold))

def requireGradient (f : Function Float) (x : Reading Float (Tensor Float)) (index : Int)
    (threshold step : Reading Float Float) : Run Unit := do
  let _ ← gradientError f x index step
  lift (f.requireGradient (← lift x) index (← lift threshold) (← lift step))

/-! ## Checks on matrices -/

/-- Whether numbers form a square matrix that is symmetric within a tolerance; the tolerance is looked at for
square matrices only. -/
def isSymmetric (t : Reading Float (Tensor Float)) (tolerance : Reading Float Float) : Run Bool := do
  match Matrix.ofTensor? (← lift t) with
  | some matrix =>
    if matrix.height = matrix.width then return matrix.isSymmetric 0 (← lift tolerance) else return false
  | none => return false

/-- Refuses numbers that form no square matrix, or one that is not symmetric within a tolerance. -/
def assertSymmetric (t : Reading Float (Tensor Float)) (tolerance : Written Float Float) : Run Unit := do
  let t ← lift t
  match tolerance.value with
  | .ok value => lift (Function.assertSymmetric t value tolerance.shown)
  | .error e =>
    match Function.assertSymmetric t 0 "" with
    | .error (.squareExpected shape) => throw (.squareExpected shape)
    | _ => throw e

/-- Refuses a hessian that is not symmetric, in debug mode. -/
def checkHessian (t : Reading Float (Tensor Float)) : Run Unit := do
  if (← get).debug then lift (t >>= Function.checkHessian)

/-- The rows of a matrix; the entries of a vector are rows of one entry. -/
def rowsOf (t : Tensor Float) : Except (Error Float) (List (List Float)) :=
  match t.shape with
  | [] => .error (.unfit .index)
  | [_] => .ok (t.data.map ([·]))
  | n :: shape => .ok (Tensor.pieces (volume shape) n t.data)

/-- Refuses rows that are not the gradients of a function, in debug mode. -/
def checkRows (f : Function Float) (x t : Reading Float (Tensor Float)) : Run Unit := do
  if (← get).debug then
    let rows ← lift (rowsOf (← lift t))
    unless rows.isEmpty do
      lift (f.checkRows (← lift (pointFor f .derivable x)) rows)

end Extremum.Session
