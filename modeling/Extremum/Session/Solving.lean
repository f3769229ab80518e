import Extremum.Problem.Display
import Extremum.Session.Basic

/-!
# Solving

Solvers in a session: how they are built around a problem, how they solve it, and how what they stored is
kept until it is forgotten. The problem that a solver is built around and the one it owns are frozen.
-/

namespace Extremum.Session

def solver (r : Ref Solver) : Run Solver := do
  found ((← get).solvers.get? r)

def setSolver (r : Ref Solver) (s : Solver) : Run Unit :=
  modify fun session ↦ { session with solvers := session.solvers.set r s }

/-! ## Construction -/

/-- Takes a problem over for a class of solvers: the problem, or the copy that the class needs. Both are
frozen. -/
def takeOver (c : SolverClass) (given : Given (Ref (Problem Float))) : Run (Ref (Problem Float)) := do
  match given with
  | .error name => throw (.problemExpected name)
  | .ok r =>
    let own ← match (← lift (c.adapt (← problem r))) with
      | none => pure r
      | some widened => addProblem widened
    freeze r
    freeze own
    return own

/-- The problem of a new solver of a class; a class that owns no problem cannot be given one, and any other
has to be. -/
def ownProblem (c : SolverClass) (given : Option (Given (Ref (Problem Float)))) :
    Run (Option (Ref (Problem Float))) :=
  match c.ownsProblem, given with
  | true, some given => some <$> takeOver c given
  | false, none => return none
  | _, _ => throw (.unfit .type)

/-- Adds a solver of a class that owns a problem, with the parameters that the class declares. -/
def assemble (c : SolverClass) (problem : Option (Ref (Problem Float))) : Run (Ref Solver) := do
  let (result, settings) := (Settings.putAll c.defaults).run { parameters := (← get).parameters, store := {} }
  lift result
  let (r, solvers) := (← get).solvers.add { kind := c, problem, store := settings.store }
  modify fun s ↦ { s with parameters := settings.parameters, solvers }
  return r

def build (c : SolverClass) (given : Option (Given (Ref (Problem Float)))) : Run (Ref Solver) := do
  if c.procedure.isNone then throw (.unfit .type)
  assemble c (← ownProblem c given)

/-! ## Outcomes -/

/-- Stores an outcome in a solver; only a final one will do. -/
def storeOutcome (r : Ref Solver) (given : Given Outcome) : Run Unit := do
  let s ← solver r
  let outcome ← lift (Solver.accepted given)
  setSolver r { s with outcome }

def reset (r : Ref Solver) : Run Unit := do
  let s ← solver r
  setSolver r { s with outcome := .unsolved }

/-! ## Iterations -/

/-- Refuses solvers that own no problem; they have no iterations. -/
def checkOwner (s : Solver) : Run Unit :=
  if s.problem.isNone then throw (.unfit .missing) else return ()

def ownedProblem (r : Ref Solver) : Run (Problem Float) := do
  problem (← found (← solver r).problem)

/-- Tells about an iteration, and answers the iterate as it is afterwards. -/
def notify (r : Ref Solver) (i : Iterate) : Run Iterate := do
  let s ← solver r
  checkOwner s
  let parameters := (← get).parameters
  match s.callback with
  | none => return i
  | some .record =>
    let notice : Notice :=
      ⟨← ownedProblem r, i, Settings.contents { parameters, store := i.store }, i.text parameters⟩
    modify fun s ↦ { s with notices := s.notices ++ [notice] }
    return i
  | some (.react call) =>
    let (answer, parameters) := (call (← ownedProblem r) i).run parameters
    modify fun s ↦ { s with parameters }
    lift answer

/-! ## Procedures -/

/-- Tells about an iteration at a point with a cost. -/
def notifyAt (r : Ref Solver) (x : Reading Float (Tensor Float))
    (cost : Option (Reading Float (Option Float))) : Run Unit := do
  let p ← ownedProblem r
  let i ← lift ((Iterate.zeros p.inputSize).moveTo x)
  let cost ← lift (cost.getD (.ok none))
  let _ ← notify r { i with cost }

/-- Stores the starting point and the value of the objective there. -/
def storeStart (r : Ref Solver) : Run Unit := do
  let p ← ownedProblem r
  let x := p.start.elim (Tensor.scalar (0.0 / 0.0)) Tensor.vector
  let value ← lift (p.objective.evaluate x)
  storeOutcome r (.ok (.solved ⟨x.data, value, [], []⟩))

/-- Does one step of a user's procedure. -/
def act (r : Ref Solver) : Action → Run Unit
  | .store given => storeOutcome r given
  | .storeStart => storeStart r
  | .notify x cost => notifyAt r x cost
  | .reset => reset r
  | .fail e => throw e
  | .attempt step => tryCatch (act r step) fun _ ↦ return ()

/-- What a solver shows of itself. -/
def look (r : Ref Solver) : Run Look := do
  let v ← solver r
  let s ← get
  return {
    outcome := v.outcome
    problem := v.problem.bind s.problems.get?
    parameters := Settings.contents { parameters := s.parameters, store := v.store }
    calls := v.calls }

/-- Does one deed of a program. -/
def carryOut (r : Ref Solver) : Deed → Run Unit
  | .act step => act r step
  | .put key content description => changeStore (.solver r) (Settings.put key content description)
  | .update key content => changeStore (.solver r) (Settings.update key content)
  | .setEntry key index entry => discard (changeStore (.solver r) (Settings.setEntry key (.ok .vector) index entry))

/-- The error that a run fails with, if it does. -/
def errorOf (run : Run Unit) : Run (Option (Error Float)) :=
  tryCatch (do run; return none) fun e ↦ return some e

/-- Runs a program for a solver. -/
def follow (r : Ref Solver) : Program → Run Unit
  | .done => return ()
  | .fail e => throw e
  | .look next => do follow r (next (← look r))
  | .attempt deed next => do follow r (next (← errorOf (carryOut r deed)))

/-- The parameters of the iterate that is told about at the starting point. -/
def startSettings : Settings.Change Unit := do
  Settings.put "dummy-parameter" (.ok (.float 42.0)) "dummy parameter"
  Settings.put "dummy-iteration" (.ok (.int 0)) "iteration counter"

/-- The iterate at the starting point, or at zero, with cost, violation and parameters. -/
def startIterate (p : Problem Float) (x value : List Float) : Run Iterate := do
  let violation ← lift (p.violation (.vector x))
  let (result, settings) := startSettings.run { parameters := (← get).parameters, store := {} }
  lift result
  modify fun s ↦ { s with parameters := settings.parameters }
  return { x, cost := value.head?, violation := some violation, store := settings.store }

/-- Tells about one iteration at the starting point and stores a failure with that point. -/
def recordStart (r : Ref Solver) : Run Unit := do
  let p ← ownedProblem r
  let x := p.start.getD (Vec.zeros p.inputSize)
  let value ← lift (p.objective.evaluate (.vector x))
  let i ← notify r (← startIterate p x value)
  logDebug ".solver.dummy" ("Dummy iteration:\n" ++ i.text (← get).parameters)
  let constraints ← lift (p.constraints.mapM fun c ↦ c.function.evaluate (.vector x))
  let last := Outcome.solved ⟨x, value, constraints.flatten, []⟩
  storeOutcome r (.ok (.failed Solver.failureMessage (some last)))

/-- Runs the procedure of a solver once. -/
def solve (r : Ref Solver) : Run Unit := do
  let s ← solver r
  match s.kind.procedure with
  | none => throw (.unfit .type)
  | some .giveUp => storeOutcome r (.ok (.failed Solver.failureMessage none))
  | some .recordStart => recordStart r
  | some (.script actions) =>
    setSolver r { s with calls := s.calls + 1 }
    actions.forM (act r)
  | some (.program body) =>
    setSolver r { s with calls := s.calls + 1 }
    follow r body

/-- The outcome of a solver, which solves unless it has stored something. A procedure has to store an outcome;
what it stored before it failed is kept. -/
def minimum (r : Ref Solver) : Run Outcome := do
  let s ← solver r
  if s.outcome.isFinal then return s.outcome
  else
    logDebug ".solver.core" ("Solving with " ++ s.kind.name)
    solve r
    let s ← solver r
    if s.outcome.isFinal then
      logDebug ".solver.core" (s.kind.name ++ " finished: " ++ s.outcome.tag)
      return s.outcome
    else throw (.nothingStored s.kind.name)

/-- Sets what is to happen at every iteration. -/
def setCallback (r : Ref Solver) (callback : Given (Option Callback)) : Run Unit := do
  let s ← solver r
  checkOwner s
  match callback with
  | .error _ => throw .callbackNotCallable
  | .ok callback => setSolver r { s with callback }

def solverText (r : Ref Solver) : Run String := do
  let s ← solver r
  let problemText ← lift (← ownedProblem r).text
  return s.text problemText (← get).parameters

end Extremum.Session
