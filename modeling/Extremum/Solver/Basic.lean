import Extremum.Problem.Building
import Extremum.Settings

/-!
# Solvers

An iterate is what a solver knows at one point of a solve attempt: the point, the objective and the violation of
the constraints there if they were computed, and named parameters.

A class of solvers says which problems it takes and how it goes about solving them; a solver belongs to such a
class, owns a problem, and keeps what it has stored last. A class may ask for less derivative information than
a problem promises, and then gets a widened copy of the problem.
-/

namespace Extremum

structure Iterate where
  /-- The point. -/
  x : List Float
  /-- The value of the objective. -/
  cost : Option Float := none
  /-- How far the point is from being feasible. -/
  violation : Option Float := none
  /-- What else is known. -/
  store : Store := {}

namespace Iterate

def zeros (size : Nat) : Iterate :=
  { x := Vec.zeros size }

/-- The iterate at another point, which needs as many entries. -/
def moveTo (i : Iterate) (x : Reading Float (Tensor Float)) : Reading Float Iterate := do
  let x ← x
  if x.data.length = i.x.length then return { i with x := x.data }
  else throw (.iterateLength x.data.length i.x.length)

/-- The text of an iterate, given the parameters that it refers to. -/
def text (i : Iterate) (parameters : Arena Parameter) : String :=
  String.intercalate "\n"
    (["Solver state:", "  x: " ++ Tensor.vectorText i.x]
      ++ (i.cost.map fun cost ↦ "  Cost: " ++ Decimal.general cost).toList
      ++ (i.violation.map fun v ↦ "  Constraint violation: " ++ Decimal.general v).toList
      ++ (if i.store.isEmpty then [] else
        "  Parameters:" :: Settings.lines "    " { parameters, store := i.store }))

end Iterate

/-- What a function of the caller's does when it is told about an iteration: it may change the iterate and the
parameters, or fail. What it did to the parameters before it failed stays done. -/
def Reaction :=
  ExceptT (Error Float) (StateM (Arena Parameter)) Iterate

def Reaction.error (e : Error Float) : Reaction :=
  fun parameters ↦ (.error e, parameters)

/-- What a caller wants to be told about iterations. -/
inductive Callback
  /-- Every iterate is noted down. -/
  | record
  /-- A function of the caller's is called with the problem and the iterate. -/
  | react (call : Problem Float → Iterate → Reaction)

/-- One step of a user's solve procedure. -/
inductive Action
  /-- Stores an outcome, or tries to store something else. -/
  | store (outcome : Given Outcome)
  /-- Stores the starting point and the value of the objective there. -/
  | storeStart
  /-- Tells about an iteration at a point, with a cost if there is one. -/
  | notify (x : Reading Float (Tensor Float)) (cost : Option (Reading Float (Option Float)))
  /-- Forgets what was stored. -/
  | reset
  /-- Fails. -/
  | fail (e : Error Float)
  /-- Does a step, and goes on whether it fails or not. -/
  | attempt (step : Action)

/-- What a program sees of its solver. -/
structure Look where
  /-- What was stored last. -/
  outcome : Outcome
  /-- The problem that the solver owns. -/
  problem : Option (Problem Float)
  /-- The parameters of the solver by key. -/
  parameters : List (String × Parameter)
  /-- How often the procedure was run, this time included. -/
  calls : Nat

/-- What a program does to its solver in one go. -/
inductive Deed
  | act (step : Action)
  /-- Adds a parameter and puts it under a key. -/
  | put (key : String) (content : Reading Float Content) (description : String)
  /-- Gives the parameter under a key another value of its type. -/
  | update (key : String) (content : Reading Float Content)
  /-- Replaces an entry of the vector under a key. -/
  | setEntry (key : String) (index : Int) (entry : Reading Float Float)

/-- A solve procedure that decides by what it sees of its solver, and by whether its deeds fail. -/
inductive Program
  | done
  | fail (e : Error Float)
  | look (next : Look → Program)
  /-- Goes on with the error that a deed fails with, or with none. -/
  | attempt (deed : Deed) (next : Option (Error Float) → Program)

/-- How a class of solvers goes about solving. -/
inductive Procedure
  /-- Stores a failure. -/
  | giveUp
  /-- Tells about one iteration at the starting point and stores a failure with that point. -/
  | recordStart
  /-- What a user wrote, step by step. -/
  | script (actions : List Action)
  /-- What a user wrote, with decisions. -/
  | program (body : Program)

structure SolverClass where
  name : String
  /-- Whether solvers of the class own a problem. -/
  ownsProblem : Bool := true
  /-- The class of objectives that the solvers need, if they need one. -/
  objectiveClass : Reading Float (Option FunctionClass) := .ok none
  /-- The classes of constraints that the solvers need, if they need some. -/
  constraintClasses : Reading Float (Option (Reading Float (List (Reading Float FunctionClass)))) := .ok none
  /-- The parameters of a new solver: key, value and description. -/
  defaults : List (String × Reading Float Content × String) := []
  /-- How the solvers solve; a class without a procedure has no solvers. -/
  procedure : Option Procedure := none

structure Solver where
  /-- The class of the solver. -/
  kind : SolverClass
  /-- The problem that the solver owns. -/
  problem : Option (Ref (Problem Float))
  /-- What was stored last. -/
  outcome : Outcome := .unsolved
  /-- The parameters of the solver. -/
  store : Store := {}
  /-- How often a user's procedure was run. -/
  calls : Nat := 0
  /-- What is to happen at every iteration. -/
  callback : Option Callback := none

namespace SolverClass

/-- Whether a list of readings gives exactly the listed classes. -/
def sameClasses : List (Reading Float FunctionClass) → List FunctionClass → Bool
  | [], [] => true
  | .ok c :: rest, d :: others => c == d && sameClasses rest others
  | _, _ => false

/-- The problem as the class needs it: nothing new when it is declared at the very classes needed, and
otherwise a copy that is declared there. -/
def adapt (c : SolverClass) (p : Problem Float) : Except (Error Float) (Option (Problem Float)) := do
  let objectiveClass := (← c.objectiveClass).getD p.objectiveClass
  let classes := (← c.constraintClasses).getD (.ok (p.constraintClasses.map .ok))
  if objectiveClass = p.objectiveClass then
    if sameClasses (← classes) p.constraintClasses then return none
  some <$> p.widen (.ok (some objectiveClass)) (some classes)

/-- The class at the top, of solvers in general. -/
def generic : SolverClass :=
  { name := "GenericSolver", ownsProblem := false }

/-- The class of all solvers that own a problem. -/
def owner : SolverClass :=
  { name := "Solver" }

def giveUp : SolverClass :=
  { name := "DummySolver", procedure := some .giveUp }

/-- The class of solvers that fail after telling about the starting point. -/
def recordStart : SolverClass :=
  { name := "DummyLastStateSolver", procedure := some .recordStart }

/-- The class that a user derives from another. What it does not say, it takes over; its parameters come after
those of the other. -/
def derive (base : SolverClass) (name : String)
    (objectiveClass : Option (Reading Float (Option FunctionClass)))
    (constraintClasses : Option (Reading Float (Option (Reading Float (List (Reading Float FunctionClass))))))
    (defaults : List (String × Reading Float Content × String)) (procedure : Option Procedure) :
    SolverClass where
  name
  ownsProblem := base.ownsProblem
  objectiveClass := objectiveClass.getD base.objectiveClass
  constraintClasses := constraintClasses.getD base.constraintClasses
  defaults := base.defaults ++ defaults
  procedure := procedure <|> base.procedure

end SolverClass

namespace Solver

/-- What both built-in procedures report. -/
def failureMessage : String := "The dummy solver always fails."

/-- The outcome that a solver is to keep; only a final outcome will do. -/
def accepted (given : Given Outcome) : Except (Error Float) Outcome :=
  match given with
  | .error name => .error (.outcomeExpected name)
  | .ok outcome => if outcome.isFinal then .ok outcome else .error (.outcomeExpected outcome.kindName)

theorem accepted_eq_ok_iff {given : Given Outcome} {outcome : Outcome} :
    accepted given = .ok outcome ↔ given = .ok outcome ∧ outcome.isFinal = true := by
  cases given with
  | error name => simp [accepted]
  | ok stored =>
    by_cases h : stored.isFinal = true
    · simp only [accepted, h, if_true, Except.ok.injEq]
      exact ⟨fun heq ↦ ⟨heq, heq ▸ h⟩, fun hs ↦ hs.1⟩
    · simp only [accepted, h, if_false, Except.ok.injEq, reduceCtorEq, false_iff, not_and]
      rintro rfl
      exact h

/-- The text of a solver, given that of its problem and the parameters that it refers to. -/
def text (s : Solver) (problemText : String) (parameters : Arena Parameter) : String :=
  String.intercalate "\n"
    ((s.kind.name ++ ":") :: Text.indent "  " problemText
      ++ (if s.store.isEmpty then [] else
        "  Parameters:" :: Settings.lines "    " { parameters, store := s.store })
      ++ Text.indent "  " s.outcome.text)

end Solver

end Extremum
