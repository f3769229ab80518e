import Extremum.Function.Basic

/-!
# Evaluating and differentiating functions

Every function has parts that produce raw numbers: `compute`, `rawGradient`, `rawJacobian` and `rawHessian`.
The public operations `evaluate`, `gradient`, `jacobian` and `hessian` check the argument, call a part, and
check the shape of what came back. In debug mode they also check what the tier promises: a jacobian has the
gradients as its rows and a hessian is symmetric.
-/

namespace Extremum

/-- The tensor of numbers that came back nested; lists of different lengths do not fit. -/
def Nested.numbers {α : Type} (t : Nested α) : Except (Error α) (Tensor α) :=
  match t.tensor? with
  | some numbers => .ok numbers
  | none => .error (.unfit .value)

namespace Function

variable {α : Type}

/-! ## Checks -/

/-- The argument of a function as a vector of its input size. -/
def argument (f : Function α) (x : Tensor α) : Except (Error α) (List α) :=
  if x.shape = [f.inputSize] then .ok x.data
  else .error (.argumentShape x.shape f.inputSize f.label)

/-- The index of one of the outputs of a function. -/
def output (f : Function α) (index : Int) : Except (Error α) Nat :=
  if 0 ≤ index ∧ index < f.outputSize then .ok index.toNat
  else .error (.outputIndex index f.label f.outputSize)

/-- The numbers that a part of a function returned, if they have the expected shape. -/
def returned (f : Function α) (hook : String) (expected : List Nat) (t : Tensor α) :
    Except (Error α) (Tensor α) :=
  if t.shape = expected then .ok t else .error (.returnedShape f.className hook t.shape expected)

/-- Evaluation of a function with a given part for the values. -/
def evaluateWith (f : Function α) (compute : List α → Except (Error α) (Nested α)) (x : Tensor α) :
    Except (Error α) (List α) := do
  let x ← f.argument x
  let value ← (← compute x).numbers
  return (← f.returned "impl_compute" [f.outputSize] value.atLeastVector).data

variable [Scalar α]

/-! ## Values -/

def evalAll (x : List α) (expressions : List (Expr α)) : Except (Error α) (List α) :=
  expressions.mapM (Expr.eval x)

def expressions : Nested (Expr α) → List (Expr α)
  | .item e => [e]
  | .list items => items.flatMap fun
    | .item e => [e]
    | .list _ => []

def compute : Function α → List α → Except (Error α) (Nested α)
  | affine _ map, x => .ok (.ofList (Vec.add (map.matrix.apply x) map.offset))
  | quadratic _ form, x => .ok (.ofList
      [Scalar.dot (Matrix.applyLeft (Vec.scale 0.5 x) form.matrix) x + Scalar.dot form.slope x
        + form.level])
  | constant _ _ value, _ => .ok (.ofList value)
  | shift _ offset, x => .ok (.ofList (Vec.add x offset))
  | symbolic _ _ _ formula, x => (evalAll x (expressions formula)).map .ofList
  | custom own, x => own.compute x
  | finiteDifference base _, x => (base.evaluateWith base.compute (.vector x)).map .ofList

/-- The value of a function, a vector of its output size. -/
def evaluate (f : Function α) (x : Tensor α) : Except (Error α) (List α) :=
  f.evaluateWith f.compute x

theorem compute_finiteDifference (base : Function α) (step : α) (x : List α) :
    (finiteDifference base step).compute x = (base.evaluate (.vector x)).map .ofList := rfl

/-! ## Central differences -/

/-- The step that is taken when the caller gives none. -/
def defaultStep : α := 1e-6

/-- A point with `step` added to its entry at position `j`. -/
def stepUp (x : Tensor α) (j : Nat) (step : α) : Tensor α :=
  ⟨x.shape, Vec.add x.data (Vec.spike x.data.length j step), by simp [x.length_data]⟩

/-- A point with `step` taken from its entry at position `j`. -/
def stepDown (x : Tensor α) (j : Nat) (step : α) : Tensor α :=
  ⟨x.shape, Vec.sub x.data (Vec.spike x.data.length j step), by simp [x.length_data]⟩

def component (value : List α) (index : Nat) : Except (Error α) α :=
  match value[index]? with
  | some entry => .ok entry
  | none => .error (.unfit .index)

def positions (x : Tensor α) : Tensor Nat :=
  ⟨x.shape, List.range x.data.length, by simp [x.length_data]⟩

/-- The central difference of an output in direction `j`. A point without axes has no directions. -/
def difference (f : Function α) (x : Tensor α) (index : Nat) (step : α) (j : Nat) :
    Except (Error α) α := do
  if x.shape = [] then throw (.unfit .index)
  let up ← component (← f.evaluate (stepUp x j step)) index
  let down ← component (← f.evaluate (stepDown x j step)) index
  return (up - down) / (2.0 * step)

/-- The gradient of an output estimated by central differences. -/
def differences (f : Function α) (x : Tensor α) (index : Int) (step : α) :
    Except (Error α) (Tensor α) :=
  if step ≤ 0 then .error .stepNotPositive
  else if 0 ≤ index ∧ index < f.outputSize then
    (positions x).traverse (f.difference x index.toNat step)
  else .error (.differenceIndex index f.outputSize)

/-! ## Derivatives -/

def rawGradient : Function α → List α → Nat → Except (Error α) (Nested α)
  | affine _ map, _, index => .ok (.ofList (map.matrix.row index))
  | quadratic _ form, x, _ => .ok (.ofList (Vec.add (form.matrix.apply x) form.slope))
  | constant _ inputs _, _, _ => .ok (.ofList (Vec.zeros inputs))
  | shift _ offset, _, index => .ok (.ofList (Vec.unit offset.length index))
  | symbolic _ inputs _ formula, x, index => do
    let outputs := expressions formula
    let _ ← component (← evalAll x outputs) index
    return .ofList (← evalAll x (Expr.gradient inputs outputs index))
  | custom own, x, index => own.gradient x index
  | finiteDifference base step, x, index =>
    (base.differences (.vector x) index step).map fun t ↦ .ofList t.data

def stackedGradients (f : Function α) (x : List α) : Except (Error α) (Nested α) := do
  let rows ← (List.range f.outputSize).mapM fun index ↦ do
    return (← (← f.rawGradient x index).numbers).data
  return .ofRows rows

/-- The raw jacobian: the stacked gradients, unless there is a more direct form. -/
def rawJacobian : Function α → List α → Except (Error α) (Nested α)
  | affine _ map, _ => .ok (.ofRows map.matrix.rows)
  | constant _ inputs value, _ => .ok (.ofRows (Matrix.zeros value.length inputs).rows)
  | shift _ offset, _ => .ok (.ofRows (Matrix.identity offset.length).rows)
  | symbolic _ inputs outputs formula, x => do
    let exprs := expressions formula
    let _ ← evalAll x exprs
    let rows ← (List.range exprs.length).mapM fun index ↦ evalAll x (Expr.gradient inputs exprs index)
    if exprs.length * inputs = outputs * inputs then return .ofRows rows
    else throw (.unfit .value)
  | custom own, x => match own.jacobian with
    | some jacobian => jacobian x
    | none => (custom own).stackedGradients x
  | f, x => f.stackedGradients x

def rawHessian : Function α → List α → Nat → Except (Error α) (Nested α)
  | quadratic _ form, _, _ => .ok (.ofRows form.matrix.rows)
  | symbolic _ inputs _ formula, x, index => do
    let outputs := expressions formula
    let _ ← component (← evalAll x outputs) index
    return .ofRows (← (Expr.hessian inputs outputs index).mapM (evalAll x))
  | custom own, x, index => own.hessian x index
  | f, _, _ => .ok (.ofRows (Matrix.zeros f.inputSize f.inputSize).rows)

/-- Refuses derivatives that the tier of a function does not promise. -/
def provides (f : Function α) (t : Tier) : Except (Error α) Unit :=
  if f.tier.isSubtier t then .ok () else .error (.unfit .missing)

/-- The gradient of an output, a vector of the input size. -/
def gradient (f : Function α) (x : Tensor α) (index : Int) : Except (Error α) (List α) := do
  f.provides .derivable
  let x ← f.argument x
  let index ← f.output index
  let slope ← (← f.rawGradient x index).numbers
  return (← f.returned "impl_gradient" [f.inputSize] (.vector slope.data)).data

/-! ## Symmetry and rows -/

/-- How far from symmetric a matrix may be when the caller does not say. -/
def symmetryTolerance : α := 1e-8

/-- Whether numbers form a square matrix that is symmetric within an absolute tolerance. -/
def isSymmetric (t : Tensor α) (tolerance : α) : Bool :=
  match Matrix.ofTensor? t with
  | some matrix => matrix.height == matrix.width && matrix.isSymmetric 0 tolerance
  | none => false

/-- Refuses numbers that form no square matrix, or one that is not symmetric within an absolute tolerance;
`shown` is how the caller wrote the tolerance. -/
def assertSymmetric (t : Tensor α) (tolerance : α) (shown : String) : Except (Error α) Unit :=
  match Matrix.ofTensor? t with
  | some matrix =>
    if matrix.height ≠ matrix.width then .error (.squareExpected t.shape)
    else if isSymmetric t tolerance then .ok ()
    else .error (.asymmetric shown matrix.asymmetry)
  | none => .error (.squareExpected t.shape)

def checkHessian (t : Tensor α) : Except (Error α) Unit :=
  assertSymmetric t symmetryTolerance "1e-08"

/-- Refuses rows that are not close to the gradients of the outputs they stand for, the first one first. -/
def checkRows (f : Function α) (x : Tensor α) (rows : List (List α)) : Except (Error α) Unit :=
  rows.zipIdx.forM fun (row, i) ↦ do
    match Vec.isClose? 1e-5 1e-8 row (← f.gradient x i) with
    | some true => return ()
    | some false => throw (.rowMismatch i f.label)
    | none => throw (.unfit .value)

/-- The jacobian, one row per output. In debug mode its rows have to be the gradients. -/
def jacobian (debug : Bool) (f : Function α) (x : Tensor α) : Except (Error α) (Matrix α) := do
  f.provides .derivable
  let point ← f.argument x
  let raw ← (← f.rawJacobian point).numbers
  let raw := if raw.rank = 1 ∧ f.outputSize = 1 then asRow raw else raw
  let checked ← f.returned "impl_jacobian" [f.outputSize, f.inputSize] raw
  match Matrix.ofTensor? checked with
  | some matrix =>
    if debug then f.checkRows x matrix.rows
    return matrix
  | none => throw (.unfit .value)
where
  /-- A vector as a matrix of one row. -/
  asRow (t : Tensor α) : Tensor α :=
    ⟨[1, t.data.length], t.data, by simp⟩

/-- The hessian of an output, a square matrix of the input size. It is zero for every linear function, whatever
a user wrote. In debug mode it has to be symmetric. -/
def hessian (debug : Bool) (f : Function α) (x : Tensor α) (index : Int) :
    Except (Error α) (Matrix α) := do
  f.provides .twiceDerivable
  let point ← f.argument x
  let index ← f.output index
  if f.tier = .linear then return Matrix.zeros f.inputSize f.inputSize
  let raw ← (← f.rawHessian point index).numbers
  let checked ← f.returned "impl_hessian" [f.inputSize, f.inputSize] raw
  if debug then checkHessian checked
  match Matrix.ofTensor? checked with
  | some matrix => return matrix
  | none => throw (.unfit .value)

/-! ## Checking gradients

How far a function's gradient is from the one estimated by central differences, and a verdict on it: as an
answer, or as an error that carries the point, the output and the deviation. -/

/-- How far a gradient may be from its central differences when the caller does not say. -/
def defaultThreshold : α := 1e-4

/-- The largest absolute difference between the gradient of an output and its central differences. -/
def gradientError (f : Function α) (x : Tensor α) (index : Int) (step : α) : Except (Error α) α := do
  let slope ← f.gradient x index
  let estimate ← f.differences x index step
  return Vec.deviation slope estimate.data

/-- Whether the gradient of an output is within a threshold of its central differences. -/
def checkGradient (f : Function α) (x : Tensor α) (index : Int) (threshold step : α) :
    Except (Error α) Bool := do
  return decide ((← f.gradientError x index step) ≤ threshold)

def requireGradient (f : Function α) (x : Tensor α) (index : Int) (threshold step : α) :
    Except (Error α) Unit := do
  let deviation ← f.gradientError x index step
  if threshold < deviation then
    let label := Text.quoted (if f.name.isEmpty then f.className else f.name)
    throw (.badGradient label index deviation threshold x.shape x.data)

end Function

end Extremum
