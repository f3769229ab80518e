import Extremum.Logging.Basic
import Extremum.Solver.Basic

/-!
# Sessions

Everything that changes while the library is in use: the debug mode, the log, and all problems, parameters,
stores, iterates, classes of solvers and solvers that exist, together with the registry of solvers by name. A
run changes a session and may fail; what it did before it failed stays done.
-/

namespace Extremum

/-- An iteration that was noted down, as it was then. -/
structure Notice where
  /-- The problem that is solved. -/
  problem : Problem Float
  iterate : Iterate
  /-- The parameters of the iterate by key. -/
  parameters : List (String × Parameter)
  /-- The text of the iterate. -/
  text : String

/-- The classes of solvers at the beginning. -/
def builtinClasses : List SolverClass :=
  [.generic, .owner, .giveUp, .recordStart]

/-- The names that solvers are registered under at the beginning. -/
def builtinRegistry : Table (Ref SolverClass) :=
  Table.ofPairs [("dummy", ⟨2⟩), ("dummy-laststate", ⟨3⟩)]

/-- All that changes. -/
structure Session where
  /-- Whether derivatives are checked. -/
  debug : Bool := false
  log : Log := .start
  problems : Arena (Problem Float) := {}
  parameters : Arena Parameter := {}
  stores : Arena Store := {}
  iterates : Arena Iterate := {}
  classes : Arena SolverClass := ⟨builtinClasses⟩
  solvers : Arena Solver := {}
  /-- Classes of solvers by name in lower case. -/
  registry : Table (Ref SolverClass) := builtinRegistry
  /-- The iterations that were noted down. -/
  notices : List Notice := []

/-- A run changes a session, and answers or fails. -/
abbrev Run (β : Type) := ExceptT (Error Float) (StateM Session) β

namespace Session

/-- What a reference refers to; one that refers to nothing is an error. -/
def found {β : Type} (item : Option β) : Run β :=
  match item with
  | some b => return b
  | none => throw (.unfit .missing)

/-- A run that answers what a pure operation does. -/
def lift {β : Type} (result : Except (Error Float) β) : Run β :=
  match result with
  | .ok b => return b
  | .error e => throw e

/-- Writes a message for those who look for mistakes; `name` is that of the part of the library it comes
from. -/
def logDebug (name message : String) : Run Unit :=
  modify fun s ↦ { s with log := s.log.debug (Logging.rootName ++ name) message }

/-! ## Debug mode -/

/-- Turns the checks of derivatives on or off. -/
def setDebug (enabled : Bool) : Run Unit :=
  modify fun s ↦ { s with debug := enabled }

/-- Runs a body with the checks of derivatives on or off, and puts back what was before, whether the body
fails or not. -/
def withDebug {m : Type → Type} [Monad m] [MonadStateOf Session m] [MonadFinally m] {β : Type}
    (enabled : Bool) (body : m β) : m β := do
  let before := (← getThe Session).debug
  modifyThe Session fun s ↦ { s with debug := enabled }
  tryFinally body (modifyThe Session fun s ↦ { s with debug := before })

/-- The words that turn the checks on. -/
def enablingWords : List String := ["1", "true", "yes", "on"]

/-- Whether a setting given from outside turns the checks on; no setting does not. -/
def enables (setting : Option String) : Bool :=
  enablingWords.contains (Text.lower (Text.strip (setting.getD "0")))

/-! ## Problems -/

def problem (r : Ref (Problem Float)) : Run (Problem Float) := do
  found ((← get).problems.get? r)

def setProblem (r : Ref (Problem Float)) (p : Problem Float) : Run Unit :=
  modify fun s ↦ { s with problems := s.problems.set r p }

def addProblem (p : Problem Float) : Run (Ref (Problem Float)) := do
  let (r, problems) := (← get).problems.add p
  modify fun s ↦ { s with problems }
  return r

def declare (d : Declaration) : Run (Ref (Problem Float)) := do
  addProblem (← lift (Problem.declare d))

/-- Changes a problem, unless the change fails. -/
def change (r : Ref (Problem Float)) (step : Problem Float → Except (Error Float) (Problem Float)) :
    Run Unit := do
  setProblem r (← lift (step (← problem r)))

def addConstraint (r : Ref (Problem Float)) (f : Given (Function Float)) (bounds : BoundsPart Float)
    (scales : Option (ScalesPart Float)) : Run Unit := do
  let p ← lift ((← problem r).addConstraint f bounds scales)
  setProblem r p
  match p.constraints.getLast? with
  | some c =>
    logDebug ".problem.core" (s!"Added constraint {p.constraints.length - 1}: " ++ c.function.text)
  | none => return ()

def freeze (r : Ref (Problem Float)) : Run Unit := do
  setProblem r (← problem r).freeze

def copy (r : Ref (Problem Float)) : Run (Ref (Problem Float)) := do
  addProblem (← problem r).copy

/-- Declares a copy of a problem at more general classes. -/
def widen (r : Ref (Problem Float)) (objectiveClass : Reading Float (Option FunctionClass))
    (constraintClasses : Option (Reading Float (List (Reading Float FunctionClass)))) :
    Run (Ref (Problem Float)) := do
  addProblem (← lift ((← problem r).widen objectiveClass constraintClasses))

/-! ## Parameters and stores -/

/-- Where a store is: on its own, in an iterate, or in a solver. -/
inductive StorePlace
  | alone (r : Ref Store)
  | iterate (r : Ref Iterate)
  | solver (r : Ref Solver)

def store (place : StorePlace) : Run Store := do
  let s ← get
  match place with
  | .alone r => found (s.stores.get? r)
  | .iterate r => (·.store) <$> found (s.iterates.get? r)
  | .solver r => (·.store) <$> found (s.solvers.get? r)

def setStore (place : StorePlace) (t : Store) : Run Unit := do
  let s ← get
  match place with
  | .alone r => set { s with stores := s.stores.set r t }
  | .iterate r =>
    let i ← found (s.iterates.get? r)
    set { s with iterates := s.iterates.set r { i with store := t } }
  | .solver r =>
    let solver ← found (s.solvers.get? r)
    set { s with solvers := s.solvers.set r { solver with store := t } }

/-- Applies a change of settings to the parameters and the store at a place. -/
def changeStore {β : Type} (place : StorePlace) (c : Settings.Change β) : Run β := do
  let store ← store place
  let (result, settings) := c.run { parameters := (← get).parameters, store }
  modify fun s ↦ { s with parameters := settings.parameters }
  setStore place settings.store
  lift result

def addParameter (content : Reading Float Content) (description : String) : Run (Ref Parameter) := do
  let content ← lift content
  let (r, parameters) := (← get).parameters.add { content, description }
  modify fun s ↦ { s with parameters }
  return r

def parameter (r : Ref Parameter) : Run Parameter := do
  found ((← get).parameters.get? r)

/-- Gives a parameter another value of its type. -/
def setParameter (r : Ref Parameter) (content : Reading Float Content) : Run Unit := do
  let p ← lift ((← parameter r).set content)
  modify fun s ↦ { s with parameters := s.parameters.set r p }

def addStore (items : Reading Float (List (String × Given (Ref Parameter)))) : Run (Ref Store) := do
  let s ← get
  let (result, settings) := (Settings.assignAll items).run { parameters := s.parameters, store := {} }
  lift result
  let (r, stores) := s.stores.add settings.store
  set { s with stores }
  return r

/-! ## Iterates -/

def addIterate (size : Nat) : Run (Ref Iterate) := do
  let (r, iterates) := (← get).iterates.add (.zeros size)
  modify fun s ↦ { s with iterates }
  return r

def iterate (r : Ref Iterate) : Run Iterate := do
  found ((← get).iterates.get? r)

/-- Changes an iterate, unless the change fails. -/
def changeIterate (r : Ref Iterate) (step : Iterate → Except (Error Float) Iterate) : Run Unit := do
  let i ← lift (step (← iterate r))
  modify fun s ↦ { s with iterates := s.iterates.set r i }

end Session

end Extremum
