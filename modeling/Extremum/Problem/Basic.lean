import Extremum.Function.Evaluation
import Extremum.Interval

/-!
# Problems

An objective, constraints with a bound and a scale for every output, and a bound and a scale for every
argument. A problem is declared at a class for its objective and at a list of classes for its constraints;
whoever solves it asks for no more derivatives than these classes promise. A frozen problem belongs to a
solver and is not to be changed.

The violation of a point is how far it is from satisfying the problem: the distances of the arguments and of all
outputs of constraints to their bounds, added up. A point is feasible when its violation is within a tolerance.
-/

namespace Extremum

/-- A function with a bound and a scale for each of its outputs. -/
structure Constraint (α : Type) [Unbounded α] where
  function : Function α
  /-- The bounds, one per output. -/
  bounds : List (Interval α)
  /-- The scales, one per output. -/
  scales : List α

structure Problem (α : Type) [Unbounded α] where
  /-- The function to be minimized. -/
  objective : Function α
  /-- The class that the objective is declared at. -/
  objectiveClass : FunctionClass
  /-- The classes that constraints may belong to. -/
  constraintClasses : List FunctionClass
  /-- The bounds of the arguments. -/
  bounds : List (Interval α)
  /-- The scales of the arguments. -/
  scales : List α
  /-- Where to start. -/
  start : Option (List α) := none
  /-- What the arguments are called. -/
  names : Option (List String) := none
  /-- The constraints in the order in which they were added. -/
  constraints : List (Constraint α) := []
  /-- Whether the problem must not be changed any more. -/
  frozen : Bool := false

variable {α : Type} [Unbounded α]

def Constraint.outputSize (c : Constraint α) : Nat :=
  c.function.outputSize

namespace Problem

def inputSize (p : Problem α) : Nat :=
  p.objective.inputSize

/-- How many outputs all constraints have together. -/
def constraintOutputs (p : Problem α) : Nat :=
  p.constraints.foldl (fun size c ↦ size + c.outputSize) 0

/-- Whether a function belongs to one of the classes that constraints may belong to. -/
def permits (p : Problem α) (f : Function α) : Bool :=
  p.constraintClasses.any f.isA

/-- The problem, not to be changed any more. -/
def freeze (p : Problem α) : Problem α :=
  { p with frozen := true }

/-- The problem, open to changes again. -/
def unfreeze (p : Problem α) : Problem α :=
  { p with frozen := false }

def copy (p : Problem α) : Problem α :=
  p.unfreeze

@[simp] theorem frozen_freeze (p : Problem α) : p.freeze.frozen = true := rfl

theorem freeze_of_frozen {p : Problem α} (h : p.frozen = true) : p.freeze = p := by
  rw [freeze, ← h]

theorem unfreeze_freeze {p : Problem α} (h : p.frozen = false) : p.freeze.unfreeze = p := by
  rw [freeze, unfreeze, ← h]

end Problem

/-! ## Feasibility -/

/-- The distances of values to their bounds, added up. -/
def Interval.totalDistance (bounds : List (Interval α)) (values : List α) : α :=
  Scalar.sum (bounds.zipWith (fun bound v ↦ bound.distance v) values)

/-- The values of a constraint at a point, and whether all of them are within their bounds. -/
structure Standing (α : Type) where
  value : List α
  satisfied : Bool

namespace Constraint

/-- How far the outputs at a point are from their bounds. -/
def violation (c : Constraint α) (x : Tensor α) : Except (Error α) α := do
  return Interval.totalDistance c.bounds (← c.function.evaluate x)

def standing (c : Constraint α) (x : Tensor α) : Except (Error α) (Standing α) := do
  let value ← c.function.evaluate x
  return ⟨value, (c.bounds.zip value).all fun (bound, v) ↦ bound.contains v 0⟩

end Constraint

namespace Problem

/-- The constraint at a position; a negative position counts from the end. -/
def constraintAt? (p : Problem α) (position : Int) : Option (Constraint α) :=
  (Vec.position? p.constraints.length position).bind (p.constraints[·]?)

/-- How far a point is from being feasible. -/
def violation (p : Problem α) (x : Tensor α) : Except (Error α) α := do
  unless x.shape = [p.inputSize] do
    throw (.pointShape x.shape p.inputSize)
  let violations ← p.constraints.mapM fun c ↦ c.violation x
  return Interval.totalDistance p.bounds x.data + Scalar.sum violations

/-- How large a violation may be when the caller does not say. -/
def feasibilityTolerance : α := 1e-8

/-- Whether the violation of a point is within a tolerance. -/
def isFeasible (p : Problem α) (x : Tensor α) (tolerance : Reading α α) : Except (Error α) Bool := do
  let violation ← p.violation x
  return decide (violation ≤ (← tolerance))

end Problem

end Extremum
