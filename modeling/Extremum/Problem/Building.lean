import Extremum.Function.Basic
import Extremum.Problem.Basic
import Extremum.Problem.Bound

/-!
# Building problems

A problem is declared with an objective and whatever else is known, and completed step by step: each step
replaces one field, and fails without a trace when it does not fit or when the problem is frozen.
-/

namespace Extremum

/-- What a caller knows about a problem to begin with. -/
structure Declaration where
  objective : Given (Function Float)
  /-- The class for the objective, if the caller named one. -/
  objectiveClass : Reading Float (Option FunctionClass) := .ok none
  /-- The classes for constraints. -/
  constraintClasses : Option (Reading Float (List (Reading Float FunctionClass))) := none
  /-- The bounds of the arguments. -/
  bounds : Option (Reading Float (List (BoundPart Float))) := none
  /-- The scales of the arguments. -/
  scales : Option (Reading Float (List (Written Float Float))) := none
  /-- Where to start. -/
  start : Option (Reading Float (Tensor Float)) := none
  /-- What the arguments are called. -/
  names : Option (Reading Float (List (Reading Float String))) := none

namespace Problem

/-- Refuses changes to a frozen problem. -/
def checkOpen (p : Problem Float) : Except (Error Float) Unit :=
  if p.frozen then .error .frozenProblem else .ok ()

/-- Refuses lists that have not one entry per argument. -/
def checkCount {β : Type} (what : String) (n : Nat) (items : List β) : Except (Error Float) Unit :=
  if items.length = n then .ok () else .error (.argumentCount what n items.length)

/-- The classes that constraints may belong to; there has to be one. -/
def readClasses (classes : Reading Float (List (Reading Float FunctionClass))) :
    Except (Error Float) (List FunctionClass) := do
  let classes ← classes
  if classes.isEmpty then throw .noConstraintClasses
  Reading.all classes

def readBounds (n : Nat) (bounds : Reading Float (List (BoundPart Float))) :
    Except (Error Float) (List (Interval Float)) := do
  let bounds ← (← bounds).mapM (BoundPart.read "argument bound")
  checkCount "argument bounds" n bounds
  return bounds

def readScales (n : Nat) (scales : Reading Float (List (Written Float Float))) :
    Except (Error Float) (List Float) := do
  let scales ← (← scales).mapM (readScale "argument scale")
  checkCount "argument scales" n scales
  return scales

def readNames (n : Nat) (names : Reading Float (List (Reading Float String))) :
    Except (Error Float) (List String) := do
  let names ← Reading.all (← names)
  checkCount "argument names" n names
  return names

/-- A starting point for `n` arguments, of any shape. -/
def readStart (n : Nat) (point : Reading Float (Tensor Float)) : Except (Error Float) (List Float) := do
  let point ← point
  if point.data.length = n then return point.data
  else throw (.startLength point.data.length n)

/-- Applies a reader to a part unless the caller left it out. -/
def readOr {β γ : Type} (absent : γ) (part : Option β) (read : β → Except (Error Float) γ) :
    Except (Error Float) γ :=
  match part with
  | none => .ok absent
  | some part => read part

/-! ## Declaration -/

/-- The problem that a caller declares. Unless the caller says otherwise, the objective is declared at its own
tier, constraints may belong to the class of the objective, arguments are free, and scales are one. -/
def declare (d : Declaration) : Except (Error Float) (Problem Float) :=
  match d.objective with
  | .error given => .error (.objectiveNotFunction given)
  | .ok objective => do
    let n := objective.inputSize
    let objectiveClass := (← d.objectiveClass).getD (.tier objective.tier)
    unless objective.isA objectiveClass do
      throw (.objectiveClass objective.text objectiveClass.name)
    let constraintClasses ← readOr [objectiveClass] d.constraintClasses readClasses
    let bounds ← readOr (List.replicate n Interval.free) d.bounds (readBounds n)
    let scales ← readOr (List.replicate n 1) d.scales (readScales n)
    let start ← readOr none d.start fun point ↦ some <$> readStart n point
    let names ← readOr none d.names fun names ↦ some <$> readNames n names
    return { objective, objectiveClass, constraintClasses, bounds, scales, start, names }

/-! ## Changes -/

/-- The problem with another starting point, or with none. -/
def setStart (p : Problem Float) (point : Option (Reading Float (Tensor Float))) :
    Except (Error Float) (Problem Float) := do
  p.checkOpen
  let start ← readOr none point fun point ↦ some <$> readStart p.inputSize point
  return { p with start }

def argument (p : Problem Float) (index : Int) : Except (Error Float) Nat :=
  if 0 ≤ index ∧ index < p.inputSize then .ok index.toNat
  else .error (.argumentIndex index p.inputSize)

def setBound (p : Problem Float) (index : Int) (bound : BoundPart Float) :
    Except (Error Float) (Problem Float) := do
  p.checkOpen
  let i ← p.argument index
  let bound ← bound.read "argument bound"
  return { p with bounds := p.bounds.set i bound }

def setBounds (p : Problem Float) (bounds : Reading Float (List (BoundPart Float))) :
    Except (Error Float) (Problem Float) := do
  p.checkOpen
  let bounds ← readBounds p.inputSize bounds
  return { p with bounds }

def setScale (p : Problem Float) (index : Int) (scale : Written Float Float) :
    Except (Error Float) (Problem Float) := do
  p.checkOpen
  let i ← p.argument index
  let scale ← readScale "argument scale" scale
  return { p with scales := p.scales.set i scale }

/-- The constraint of a function with bounds and scales, one for each output. -/
def readConstraint (f : Function Float) (bounds : BoundsPart Float) (scales : Option (ScalesPart Float)) :
    Except (Error Float) (Constraint Float) := do
  let m := f.outputSize
  let bounds ← (← bounds.items).mapM (BoundPart.read "constraint bound")
  unless bounds.length = m do
    throw (.constraintCount "bound" m bounds.length)
  let scales ← readOr (List.replicate m 1) scales fun scales ↦ do
    (← scales.items).mapM (readScale "constraint scale")
  unless scales.length = m do
    throw (.constraintCount "scale" m scales.length)
  return ⟨f, bounds, scales⟩

def addConstraint (p : Problem Float) (f : Given (Function Float)) (bounds : BoundsPart Float)
    (scales : Option (ScalesPart Float)) : Except (Error Float) (Problem Float) := do
  p.checkOpen
  match f with
  | .error given => throw (.constraintNotFunction given)
  | .ok f =>
    unless p.permits f do
      throw (.constraintClass f.text (p.constraintClasses.map (·.name)))
    unless f.inputSize = p.inputSize do
      throw (.constraintInputs f.inputSize p.inputSize)
    let constraint ← readConstraint f bounds scales
    return { p with constraints := p.constraints ++ [constraint] }

/-! ## Widening

A problem declared at specific classes is also a problem at more general ones: whoever needs fewer derivatives
may widen it. There is no way back, because a class once given up may have been the reason why a derivative
can be relied on. -/

/-- The class for the objective that a caller asks for, which must not be more specific than the declared
one. -/
def widerObjective (p : Problem Float) (wanted : Option FunctionClass) :
    Except (Error Float) FunctionClass :=
  match wanted with
  | none => .ok p.objectiveClass
  | some c =>
    if p.objectiveClass.isSubclass c then .ok c
    else .error (.narrowedObjective p.objectiveClass.name c.name)

/-- Refuses classes for constraints that leave a declared class without a more general one. -/
def checkCovered (declared wanted : List FunctionClass) : Except (Error Float) Unit :=
  match declared.find? fun c ↦ !wanted.any c.isSubclass with
  | none => .ok ()
  | some c => .error (.narrowedConstraints c.name)

/-- A copy of the problem that is declared at more general classes. -/
def widen (p : Problem Float) (objectiveClass : Reading Float (Option FunctionClass))
    (constraintClasses : Option (Reading Float (List (Reading Float FunctionClass)))) :
    Except (Error Float) (Problem Float) := do
  let objectiveClass ← p.widerObjective (← objectiveClass)
  let constraintClasses ← readOr p.constraintClasses constraintClasses readClasses
  checkCovered p.constraintClasses constraintClasses
  return { p.copy with objectiveClass, constraintClasses }

end Problem

end Extremum
