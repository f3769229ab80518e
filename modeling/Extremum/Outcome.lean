import Extremum.Tensor.Display
import Extremum.Text.Character

/-!
# Outcomes

What a solver has to show: nothing yet, a solution, a solution with warnings, or a failure that may carry the
last state it reached. Vectors in a solution are flat, and warnings are never empty.
-/

namespace Extremum

/-- A point and what was found there. -/
structure Solution where
  /-- The point. -/
  x : List Float
  /-- The value of the objective. -/
  value : List Float
  /-- The values of all constraints, one after the other. -/
  constraints : List Float
  /-- The multipliers of the constraints. -/
  multipliers : List Float

/-- What a solver has stored. -/
inductive Outcome where
  | unsolved
  | solved (solution : Solution)
  | solvedWithWarnings (solution : Solution) (warnings : List String)
  | failed (message : String) (last : Option Outcome)

namespace Solution

/-- A solution of parts that still have to be read, first to last; parts of any shape are flattened. -/
def ofParts (x value constraints multipliers : Reading Float (Tensor Float)) :
    Reading Float Solution := do
  return ⟨(← x).data, (← value).data, (← constraints).data, (← multipliers).data⟩

/-- Whether two vectors are equal entry by entry. -/
def sameEntries (xs ys : List Float) : Bool :=
  xs.length == ys.length && (xs.zip ys).all fun (x, y) ↦ x == y

/-- Whether two solutions are equal entry by entry; undefined entries are equal to nothing. -/
def equal (s t : Solution) : Bool :=
  sameEntries s.x t.x && sameEntries s.value t.value && sameEntries s.constraints t.constraints
    && sameEntries s.multipliers t.multipliers

/-- The lines that describe a solution; empty vectors of constraints and multipliers are left out. -/
def lines (s : Solution) : List String :=
  ["  x: " ++ Tensor.vectorText s.x, "  Value: " ++ Tensor.vectorText s.value]
    ++ (if s.constraints.isEmpty then [] else
      ["  Constraints values: " ++ Tensor.vectorText s.constraints])
    ++ (if s.multipliers.isEmpty then [] else ["  Lambda: " ++ Tensor.vectorText s.multipliers])

end Solution

namespace Outcome

/-- A solution with warnings, of which there has to be one. -/
def withWarnings (solution : Reading Float Solution) (warnings : Reading Float (List String)) :
    Reading Float Outcome := do
  let solution ← solution
  let warnings ← warnings
  if warnings.isEmpty then throw .warningsRequired
  return .solvedWithWarnings solution warnings

/-- The word for a kind of outcome. -/
def tag : Outcome → String
  | unsolved => "no_solution"
  | solved _ => "result"
  | solvedWithWarnings .. => "result_with_warnings"
  | failed .. => "solver_error"

def kindName : Outcome → String
  | unsolved => "NoSolution"
  | solved _ => "Result"
  | solvedWithWarnings .. => "ResultWithWarnings"
  | failed .. => "SolverError"

def solution? : Outcome → Option Solution
  | solved s | solvedWithWarnings s _ => some s
  | unsolved | failed .. => none

def success (o : Outcome) : Bool :=
  o.solution?.isSome

/-- Whether something was stored. -/
def isFinal : Outcome → Bool
  | unsolved => false
  | _ => true

/-- Whether two outcomes are of one kind and hold equal things. -/
def equal : Outcome → Outcome → Bool
  | unsolved, unsolved => true
  | solved s, solved t => s.equal t
  | solvedWithWarnings s warnings, solvedWithWarnings t others => s.equal t && warnings == others
  | failed message none, failed other none => message == other
  | failed message (some last), failed other (some otherLast) => message == other && last.equal otherLast
  | _, _ => false

def text : Outcome → String
  | unsolved => "No solution"
  | solved s => String.intercalate "\n" ("Result:" :: s.lines)
  | solvedWithWarnings s warnings => String.intercalate "\n"
      ("Result with warnings:" :: s.lines ++ "  Warnings:" :: warnings.map ("    - " ++ ·))
  | failed message none => "Solver error: " ++ message
  | failed message (some last) => String.intercalate "\n"
      (("Solver error: " ++ message) :: "  Last state:" :: Text.indent "  " last.text)

/-- The fields of a solution written out in full. -/
def solutionFullText (s : Solution) : String :=
  "x=" ++ (Tensor.vector s.x).fullText ++ ", value=" ++ (Tensor.vector s.value).fullText ++ ", constraints="
    ++ (Tensor.vector s.constraints).fullText ++ ", lambda_=" ++ (Tensor.vector s.multipliers).fullText

def fullText : Outcome → String
  | unsolved => "NoSolution()"
  | solved s => "Result(" ++ solutionFullText s ++ ")"
  | solvedWithWarnings s warnings =>
    let shown := match warnings with
      | [only] => "(" ++ Text.quoted only ++ ",)"
      | _ => "(" ++ String.intercalate ", " (warnings.map Text.quoted) ++ ")"
    "ResultWithWarnings(" ++ solutionFullText s ++ ", warnings=" ++ shown ++ ")"
  | failed message none => "SolverError(message=" ++ Text.quoted message ++ ", last_state=None)"
  | failed message (some last) =>
    "SolverError(message=" ++ Text.quoted message ++ ", last_state=" ++ last.fullText ++ ")"

@[simp] theorem isFinal_unsolved : unsolved.isFinal = false := rfl

theorem eq_unsolved_of_isFinal_eq_false {o : Outcome} (h : o.isFinal = false) : o = unsolved := by
  cases o <;> simp_all [isFinal]

end Outcome

end Extremum
