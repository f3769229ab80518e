import Extremum.Value.Display

/-!
# Values as parts of operations

How the operations of the library read what a caller hands over: functions and classes, bounds and scales,
sizes, outcomes, entries of stores and callbacks.
-/

namespace Extremum.Value

open Session

/-! ## Functions and classes -/

def functionPart (s : Session) : Value → Given (Function Float)
  | function f => .ok f
  | v => .error (v.typeName s)

/-- A value where any function will do that can be asked something. -/
def functionOf : Value → Reading Float (Function Float)
  | function f => .ok f
  | _ => .error (.unfit .missing)

/-- A value where a class of functions is expected; `what` says for what. -/
def classPart (s : Session) (what : String) : Value → Reading Float FunctionClass
  | cls (.function c) => .ok c
  | v => .error (.functionClassExpected what (v.fullText s))

/-- The class for an objective; a value that counts as nothing leaves it open. -/
def objectiveClassPart (s : Session) (v : Value) : Reading Float (Option FunctionClass) := do
  if (← v.truth s) then some <$> v.classPart s "objective_type" else return Option.none

def classItems (s : Session) (v : Value) : Reading Float (List (Reading Float FunctionClass)) :=
  (v.items s).map (·.map (classPart s "constraint_types"))

/-- The classes for constraints; nothing leaves them open. -/
def constraintClassesPart (s : Session) : Value →
    Option (Reading Float (List (Reading Float FunctionClass)))
  | none => Option.none
  | v => some (v.classItems s)

/-- The classes of constraints that solvers need; a value that counts as nothing leaves them open. -/
def neededClassesPart (s : Session) (v : Value) :
    Reading Float (Option (Reading Float (List (Reading Float FunctionClass)))) := do
  if (← v.truth s) then return some (v.classItems s) else return Option.none

/-- The most specific tier of a function or of a class of functions. -/
def tierOf (s : Session) : Value → Reading Float Tier
  | function f => .ok f.tier
  | cls (.function c) => .ok c.leastTier
  | cls c => .error (.notFunctionClass (className s c))
  | v => .error (.notFunctionClass (v.typeName s))

def solverClassPart (s : Session) : Value → Given (Ref SolverClass)
  | cls (.solver r) => .ok r
  | v => .error (v.fullText s)

/-! ## Problems -/

def problemPart (s : Session) : Value → Given (Ref (Problem Float))
  | problem r => .ok r
  | v => .error (v.typeName s)

/-- How many arguments a value has: functions, problems and solutions have a number of them. -/
def inputSize (s : Session) : Value → Reading Float Nat
  | function f => .ok f.inputSize
  | problem r => match s.problems.get? r with
    | some p => .ok p.inputSize
    | Option.none => .error (.unfit .missing)
  | outcome o => match o.solution? with
    | some solution => .ok solution.x.length
    | Option.none => .error (.unfit .missing)
  | cls (.function _) | cls (.plain .problem) => .error (.unfit .type)
  | _ => .error (.unfit .missing)

def boundPart : Value → BoundPart Float
  | interval i => .interval i
  | tuple [lower, upper] => .pair lower.toFloat upper.toFloat
  | tuple _ => .tuple
  | _ => .other

def argumentBoundsPart (s : Session) (v : Value) : Reading Float (List (BoundPart Float)) :=
  (v.items s).map (·.map boundPart)

def boundsPart (s : Session) : Value → BoundsPart Float
  | interval i => .interval i
  | tuple items => .tuple (items.map boundPart) (boundPart (tuple items))
  | v => .sequence (v.argumentBoundsPart s)

def scalePart (s : Session) (v : Value) : Written Float Float :=
  ⟨v.toFloat, v.fullText s⟩

def argumentScalesPart (s : Session) (v : Value) : Reading Float (List (Written Float Float)) :=
  (v.items s).map (·.map (scalePart s))

def scalesPart (s : Session) : Value → Option (ScalesPart Float)
  | none => Option.none
  | v => some (if v.isReal then .number (v.scalePart s) else .sequence (v.argumentScalesPart s))

def textsPart (s : Session) (v : Value) : Reading Float (List (Reading Float String)) :=
  (v.items s).map (·.map (textIn s))

def sizePart (s : Session) (v : Value) : Written Float Int :=
  ⟨v.toInt, match v.textIn s with
    | .ok shown => shown
    | .error _ => ""⟩

/-- Something that may be left out by giving nothing. -/
def unlessNone {β : Type} (read : Value → β) : Value → Option β
  | none => Option.none
  | v => some (read v)

/-! ## Outcomes -/

def outcomePart (s : Session) : Value → Given Outcome
  | outcome o => .ok o
  | v => .error (v.typeName s)

/-- Warnings: a text is one of them, and the items of anything else are written out. -/
def warningsPart (s : Session) : Value → Reading Float (List String)
  | text t | fixed (.text t) => .ok [t]
  | v => v.textsPart s >>= Reading.all

/-! ## Stores -/

def entryPart (s : Session) : Value → Given (Ref Parameter)
  | parameter r => .ok r
  | v => .error (v.typeName s)

/-- A pair of a key and an item. -/
def pairPart (s : Session) (v : Value) : Reading Float (String × Value) := do
  match (← v.items s) with
  | [text key, item] => return (key, item)
  | [_, _] => throw (.unfit .type)
  | _ => throw (.unfit .value)

/-- The entries that a value stands for: those of a mapping or of a store, or a list of pairs. -/
def entriesPart (s : Session) : Value → Reading Float (List (String × Value))
  | mapping entries => .ok entries
  | store r => .ok (((s.stores.get? r).getD {}).entries.map fun (key, p) ↦ (key, parameter p))
  | v => do (← v.items s).mapM (pairPart s)

/-- The entries of a mapping or of a store. -/
def mappingPart (s : Session) : Value → Reading Float (List (String × Value))
  | mapping entries => .ok entries
  | store r => entriesPart s (store r)
  | _ => .error (.unfit .type)

/-- Entries whose items are to be parameters. -/
def storeItems (s : Session) (entries : Reading Float (List (String × Value))) :
    Reading Float (List (String × Given (Ref Parameter))) :=
  entries.map (·.map fun (key, v) ↦ (key, v.entryPart s))

/-- Where the store is that a value stands for: itself, or that of an iterate or of a solver. -/
def storePlace : Value → Reading Float StorePlace
  | store r => .ok (.alone r)
  | iterate r => .ok (.iterate r)
  | solver r => .ok (.solver r)
  | _ => .error (.unfit .missing)

/-- A value where the value of a parameter is expected. -/
def contentPart (s : Session) (v : Value) : Reading Float Content :=
  v.content (v.typeName s)

def typePart (s : Session) (v : Value) : Reading Float ParameterType :=
  v.requestedType (match v with
    | cls c => .ok (className s c)
    | v => v.textIn s)

/-! ## Callbacks -/

/-- What comes of calling a value with a problem and an iterate: no function or class takes these two. -/
def callFailure : Value → Error Float
  | cls (.plain .parameter) => Content.refusal PlainClass.problem.name
  | _ => .unfit .type

def callbackPart (s : Session) : Value → Given (Option Callback)
  | none => .ok Option.none
  | function f => .ok (some (.react fun _ _ ↦ .error (callFailure (function f))))
  | cls c => .ok (some (.react fun _ _ ↦ .error (callFailure (cls c))))
  | v => .error (v.typeName s)

end Extremum.Value
