import Extremum.Expr
import Extremum.Function.Class
import Extremum.Matrix
import Extremum.Tensor.Display

/-!
# Functions

A function maps vectors of its input size to vectors of its output size. This module says which functions
there are, what they are called and how large they are, how they are built from data that may not fit, and
how they are written: in a line of text, or with class, sizes and label.
Evaluation is in `Extremum.Function.Evaluation`.
-/

namespace Extremum

/-- The function `A x + b`. -/
structure Affine (α : Type) where
  /-- The coefficients, one row per output. -/
  matrix : Matrix α
  /-- What is added to the product. -/
  offset : List α
  length_offset : offset.length = matrix.height

/-- The function `x A x / 2 + b x + c`. -/
structure Quadratic (α : Type) where
  /-- The second order coefficients. -/
  matrix : Matrix α
  /-- The first order coefficients. -/
  slope : List α
  /-- The value at zero. -/
  level : α
  square : matrix.height = matrix.width
  length_slope : slope.length = matrix.width

/-- A function that a user wrote. Its parts return numbers in nested lists, which are checked only when they
are used; a part that the tier does not promise is never called. -/
structure Custom (α : Type) where
  /-- The name of the user's class. -/
  className : String
  /-- What the class promises. -/
  tier : Tier
  name : String
  inputs : Nat
  outputs : Nat
  /-- The value at a point. -/
  compute : List α → Except (Error α) (Nested α)
  /-- The gradient of an output at a point. -/
  gradient : List α → Nat → Except (Error α) (Nested α)
  /-- The jacobian at a point, if the user gave one. -/
  jacobian : Option (List α → Except (Error α) (Nested α))
  /-- The hessian of an output at a point. -/
  hessian : List α → Nat → Except (Error α) (Nested α)

/-- A function from vectors to vectors. -/
inductive Function (α : Type) where
  /-- A matrix and an offset. -/
  | affine (name : String) (map : Affine α)
  /-- A quadratic function with one output. -/
  | quadratic (name : String) (form : Quadratic α)
  /-- The same value everywhere. -/
  | constant (name : String) (inputs : Nat) (value : List α)
  /-- The argument with an offset added. -/
  | shift (name : String) (offset : List α)
  /-- One expression or a list of expressions, differentiated by the library. -/
  | symbolic (name : String) (inputs outputs : Nat) (formula : Nested (Expr α))
  /-- A user's function. -/
  | custom (own : Custom α)
  /-- The values of another function, differentiated by central differences. -/
  | finiteDifference (base : Function α) (step : α)

namespace Function

variable {α : Type}

/-- The label that a function was given. -/
def name : Function α → String
  | affine name _ | quadratic name _ | constant name _ _ | shift name _ | symbolic name _ _ _ => name
  | custom own => own.name
  | finiteDifference base _ => base.name

def inputSize : Function α → Nat
  | affine _ map => map.matrix.width
  | quadratic _ form => form.matrix.width
  | constant _ inputs _ => inputs
  | shift _ offset => offset.length
  | symbolic _ inputs _ _ => inputs
  | custom own => own.inputs
  | finiteDifference base _ => base.inputSize

def outputSize : Function α → Nat
  | affine _ map => map.matrix.height
  | quadratic _ _ => 1
  | constant _ _ value => value.length
  | shift _ offset => offset.length
  | symbolic _ _ outputs _ => outputs
  | custom own => own.outputs
  | finiteDifference base _ => base.outputSize

/-- The class of a function. The class of a user's function is derived from a tier directly, and no one can refer to
it: functions of classes that were derived in several steps, or from several classes, are not represented. -/
def functionClass : Function α → FunctionClass
  | affine .. => .kernel .affine
  | quadratic .. => .kernel .quadraticForm
  | constant .. => .kernel .constant
  | shift .. => .kernel .shift
  | symbolic .. => .kernel .symbolic
  | custom own => .derived 0 own.className (.tier own.tier)
  | finiteDifference .. => .kernel .finiteDifference

def className (f : Function α) : String :=
  f.functionClass.name

/-- The most specific tier that a function belongs to. -/
def tier (f : Function α) : Tier :=
  f.functionClass.leastTier

def isA (f : Function α) (c : FunctionClass) : Bool :=
  f.functionClass.isSubclass c

/-- What a function is called in an error: its label between quotes, or its class. -/
def label (f : Function α) : String :=
  if f.name.isEmpty then f.className else Text.quoted f.name

theorem isA_tier (f : Function α) (t : Tier) : f.isA (.tier t) = f.tier.isSubtier t :=
  FunctionClass.isSubclass_tier_iff _ _

/-! ## Construction

Data may turn out not to be numbers at all. A constructor is therefore given each part as the outcome of
reading it, and meets a failure only when it comes to look at that part.
-/

/-- Refuses sizes below one, the size of the arguments first. -/
def checkSizes (inputs outputs : Written α Int) : Except (Error α) (Nat × Nat) := do
  let n ← inputs.value
  if n < 1 then throw (.sizeTooSmall "input_size" inputs.shown)
  let m ← outputs.value
  if m < 1 then throw (.sizeTooSmall "output_size" outputs.shown)
  return (n.toNat, m.toNat)

/-- The linear function of a matrix and an offset. -/
def ofMatrix (a b : Reading α (Tensor α)) (name : String) : Except (Error α) (Function α) := do
  let a ← a
  match Matrix.ofTensor? a with
  | none => throw (.matrixExpected a.shape)
  | some matrix =>
    let b ← b
    if h : b.data.length = matrix.height then
      let _ ← checkSizes (.ofNat matrix.width) (.ofNat matrix.height)
      return .affine name ⟨matrix, b.data, h⟩
    else throw (.offsetLength b.data.length matrix.height)

/-- The quadratic function of a matrix, a slope and a level. The matrix has to be close to its transpose. -/
def ofQuadratic [Scalar α] (a b : Reading α (Tensor α)) (level : Reading α α)
    (name : String) : Except (Error α) (Function α) := do
  let a ← a
  match Matrix.ofTensor? a with
  | none => throw (.squareCoefficients a.shape)
  | some matrix =>
    if hsquare : matrix.height = matrix.width then
      if !matrix.isSymmetric 1e-5 1e-8 then throw .coefficientsNotSymmetric
      let b ← b
      if hslope : b.data.length = matrix.width then
        let _ ← checkSizes (.ofNat matrix.width) (.ofNat 1)
        return .quadratic name ⟨matrix, b.data, ← level, hsquare, hslope⟩
      else throw (.slopeLength b.data.length matrix.height)
    else throw (.squareCoefficients a.shape)

def ofConstant (inputs : Written α Int) (value : Reading α (Tensor α)) (name : String) :
    Except (Error α) (Function α) := do
  let value ← value
  let (inputs, _) ← checkSizes inputs (.ofNat value.data.length)
  return .constant name inputs value.data

def ofShift (offset : Reading α (Tensor α)) (name : String) :
    Except (Error α) (Function α) := do
  let offset ← offset
  let _ ← checkSizes (.ofNat offset.data.length) (.ofNat offset.data.length)
  return .shift name offset.data

/-- A function differentiated by central differences with a positive step. -/
def ofDifferences [Scalar α] (base : Reading α (Function α)) (step : Reading α α) :
    Except (Error α) (Function α) := do
  let step ← step
  if step ≤ 0 then throw .stepNotPositive
  return .finiteDifference (← base) step

def ofExpressions (inputs outputs : Written α Int) (formula : Nested (Expr α)) (name : String) :
    Except (Error α) (Function α) := do
  let (inputs, outputs) ← checkSizes inputs outputs
  return .symbolic name inputs outputs formula

end Function

/-! ## Written functions -/

def Matrix.text (a : Matrix Float) : String :=
  Tensor.text ⟨[a.height, a.width], a.entries, length_entries a⟩
where
  /-- A matrix has as many entries as its sides say. -/
  length_entries (a : Matrix Float) : a.entries.length = volume [a.height, a.width] := by
    simp only [Matrix.entries, Matrix.height, volume_cons, volume_nil, Nat.mul_one]
    obtain ⟨rows, width, h⟩ := a
    induction rows with
    | nil => simp
    | cons row rows ih =>
      simp only [List.flatten_cons, List.length_append, List.length_cons, Nat.succ_mul]
      rw [h row (by simp), ih fun r hr ↦ h r (by simp [hr]), Nat.add_comm]

namespace Function

/-- A function in a line: its label, and what it is. -/
def text : Function Float → String
  | affine name map =>
    (if name.isEmpty then "" else name ++ " ") ++ "(linear function: A = " ++ map.matrix.text ++ ", b = "
      ++ Tensor.vectorText map.offset ++ ")"
  | finiteDifference base step =>
    base.text ++ " (finite differences, epsilon = " ++ Decimal.general step ++ ")"
  | f =>
    if f.name.isEmpty then f.tier.description else f.name ++ " (" ++ f.tier.description ++ ")"

/-- A function with its class, its sizes and its label. -/
def fullText (f : Function Float) : String :=
  s!"{f.className}(input_size={f.inputSize}, output_size={f.outputSize}, name="
    ++ Text.quoted f.name ++ ")"

end Function

end Extremum
