import Extremum.Function.Basic
import Extremum.Problem.Basic

/-!
# Written problems

A problem as a report of several lines, in one line, and as a summary that counts its parts.
-/

namespace Extremum

namespace Problem

def joined (items : List String) : String :=
  String.intercalate ", " items

def boundsText (bounds : List (Interval Float)) : String :=
  joined (bounds.map (·.text))

def scalesText (scales : List Float) : String :=
  joined (scales.map Decimal.general)

/-- How a constraint stands, in words. -/
def standingLine (s : Standing Float) : String :=
  "    Initial value: " ++ Tensor.vectorText s.value
    ++ (if s.satisfied then " (satisfied)" else " (not satisfied)")

/-- The lines about a constraint; with a starting point they say how it stands there. -/
def constraintLines (start : Option (List Float)) (c : Constraint Float) (i : Nat) :
    Except (Error Float) (List String) := do
  let standing ← match start with
    | none => pure []
    | some x => (fun s ↦ [standingLine s]) <$> c.standing (.vector x)
  return [s!"  Constraint {i}", "    " ++ c.function.text, "    Bounds: " ++ boundsText c.bounds,
    "    Scales: " ++ scalesText c.scales] ++ standing

/-- The lines about the starting point and the value of the objective there. -/
def startLines (p : Problem Float) : Except (Error Float) (List String) :=
  match p.start with
  | none => .ok []
  | some x => do
    let value ← p.objective.evaluate (.vector x)
    return ["  Starting point: " ++ Tensor.vectorText x, "  Starting value: " ++ Tensor.vectorText value]

/-- The report on a problem. It evaluates the functions at the starting point, which may fail. -/
def text (p : Problem Float) : Except (Error Float) String := do
  let constraints ← p.constraints.zipIdx.mapM fun (c, i) ↦ constraintLines p.start c i
  let start ← p.startLines
  let lines := ["Problem:", "  " ++ p.objective.text]
    ++ (p.names.map fun names ↦ "  Argument names: " ++ joined names).toList
    ++ ["  Argument bounds: " ++ boundsText p.bounds, "  Argument scales: " ++ scalesText p.scales]
    ++ (if p.constraints.isEmpty then [] else [s!"  Number of constraints: {p.constraints.length}"])
    ++ constraints.flatten ++ start
  return String.intercalate "\n" lines

def fullText (p : Problem Float) : String :=
  "Problem(function=" ++ p.objective.fullText
    ++ s!", constraints={p.constraints.length}, frozen="
    ++ (if p.frozen then "True)" else "False)")

end Problem

/-! ## Summaries -/

/-- The parts of a problem counted. -/
structure Summary where
  inputSize : Nat
  /-- The text of the objective. -/
  objective : String
  /-- The most specific tier that contains the class of the objective. -/
  objectiveTier : Tier
  /-- How many constraints there are. -/
  constraints : Nat
  /-- How many outputs all constraints have together. -/
  constraintOutputs : Nat
  /-- How many bounds on outputs of constraints leave one value. -/
  equalities : Nat
  /-- How many arguments are not free. -/
  boundedArguments : Nat
  hasStart : Bool
  frozen : Bool

def Problem.summary (p : Problem Float) : Summary where
  inputSize := p.inputSize
  objective := p.objective.text
  objectiveTier := p.objectiveClass.leastTier
  constraints := p.constraints.length
  constraintOutputs := p.constraintOutputs
  equalities := (p.constraints.flatMap (·.bounds)).countP (·.isEquality)
  boundedArguments := p.bounds.countP (!·.isFree)
  hasStart := p.start.isSome
  frozen := p.frozen

end Extremum
