import Extremum.Session.Solving

/-!
# The registry of solvers

Classes of solvers by name. Names are looked up in lower case, a name is taken by one class unless the caller
says that it may be overwritten, and only classes whose solvers own a problem can be registered. A solver that
is created by name gets the caller's parameters; when they do not fit, the problem is left as it was.
-/

namespace Extremum.Session

def solverClass (r : Ref SolverClass) : Run SolverClass := do
  found ((← get).classes.get? r)

def addSolverClass (c : SolverClass) : Run (Ref SolverClass) := do
  let (r, classes) := (← get).classes.add c
  modify fun s ↦ { s with classes }
  return r

def solverClassText (r : Ref SolverClass) (c : SolverClass) : String :=
  let declared := match r.index with
    | 0 | 1 => "optconduit.solver.core."
    | 2 | 3 => "optconduit.solver.dummy."
    | _ => "__main__."
  "<class '" ++ declared ++ c.name ++ "'>"

/-- Whether a class is registered under a key already, and not the given one. -/
def taken (s : Session) (key : String) (r : Ref SolverClass) : Bool :=
  match s.registry.get? key with
  | some other => other != r
  | none => false

/-- Registers a class under a name; `given` is the class, or how something else is shown. -/
def register (name : String) (given : Given (Ref SolverClass)) (overwrite : Bool) : Run Unit := do
  match given with
  | .error shown => throw (.notSolverClass shown)
  | .ok r =>
    let c ← solverClass r
    if c.ownsProblem then
      let key := Text.lower name
      if (← get).taken key r && !overwrite then throw (.nameTaken name)
      else modify fun s ↦ { s with registry := s.registry.insert key r }
    else throw (.notSolverClass (solverClassText r c))

def unregister (name : String) : Run Unit :=
  modify fun s ↦ { s with registry := s.registry.erase (Text.lower name) }

/-- The registered names in the order of their characters. -/
def available (s : Session) : List String :=
  s.registry.keys.mergeSort fun a b ↦ decide (a ≤ b)

def lookUp (name : String) : Run SolverClass := do
  let s ← get
  match s.registry.get? (Text.lower name) with
  | some r => solverClass r
  | none => throw (.unknownSolver name s.available)

/-- Gives a new solver a caller's parameters: those that its class declares get another value, and the others
are added. -/
def configure (r : Ref Solver) (parameters : List (String × Content)) : Run Unit :=
  changeStore (.solver r) (Settings.configure parameters)

/-- Opens a problem to changes again. -/
def unfreeze (r : Ref (Problem Float)) : Run Unit := do
  setProblem r (← problem r).unfreeze

/-- Gives a new solver around a problem a caller's parameters. When they do not fit the parameters that its
class declares, a problem that was open before is opened again. -/
def equip (r : Ref Solver) (p : Ref (Problem Float)) (wasFrozen : Bool) (parameters : List (String × Content)) :
    Run Unit := do
  try configure r parameters
  catch e =>
    unless wasFrozen do
      unfreeze p
    throw e

/-- The values of a caller's parameters by key, unless one of them is of no type that parameters have. -/
def readParameters (parameters : List (String × Reading Float Content)) :
    Except (Error Float) (List (String × Content)) :=
  (Table.ofPairs parameters).entries.mapM fun (key, content) ↦ (key, ·) <$> content

/-- Creates the solver with a name around a problem. Parameters under one key count as one, at the place of
the first and with the value of the last. All values are looked at before the problem is. -/
def create (name : String) (parameters : List (String × Reading Float Content))
    (given : Given (Ref (Problem Float))) : Run (Ref Solver) := do
  let c ← lookUp name
  let parameters ← lift (readParameters parameters)
  match given with
  | .error _ => throw (.unfit .missing)
  | .ok p =>
    let wasFrozen := (← problem p).frozen
    let r ← build c (some (.ok p))
    equip r p wasFrozen parameters
    logDebug ".solver.factory" ("Created solver " ++ Text.quoted name ++ " (" ++ c.name ++ ")")
    return r

end Extremum.Session
