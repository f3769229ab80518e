import Extremum.Function.Hooks
import Extremum.Value.Parts

/-!
# Making values

How single values of an array library, intervals, outcomes and functions are made from what a caller hands
over, and which classes can be called to make a value.
-/

namespace Extremum.Value

open Session

/-! ## Single values of an array library -/

/-- A whole number within the limits of its type. -/
def boundedWhole (typeName : String) (least most : Int) (v : Value) : Reading Float FixedValue := do
  let n ← v.toInt
  if least ≤ n ∧ n ≤ most then return .whole typeName n else throw (.unfit .overflow)

/-- A floating point number rounded to its format; nothing is the undefined number. -/
def roundedReal (typeName : String) (format : Decimal.Format) (v : Value) : Reading Float FixedValue := do
  return .real typeName format (format.narrow (← v.leaf))

/-- A value of the type with a name. -/
def makeFixed (s : Session) (typeName : String) (v : Value) : Reading Float FixedValue :=
  match typeName with
  | "float64" => (FixedValue.real "float64" .double ·) <$> v.leaf
  | "float32" => roundedReal "float32" .single v
  | "float16" => roundedReal "float16" .half v
  | "int8" => boundedWhole "int8" (-128) 127 v
  | "int64" => boundedWhole "int64" (-9223372036854775808) 9223372036854775807 v
  | "uint64" => boundedWhole "uint64" 0 18446744073709551615 v
  | "bool_" => FixedValue.truth <$> v.truth s
  | "complex128" => FixedValue.complex <$> v.leaf
  | "str_" => FixedValue.text <$> v.textIn s
  | _ => .error (.unfit .missing)

/-! ## Intervals -/

/-- The interval between one or two limits; no limits leave it free. -/
def makeInterval : List Value → Reading Float (Interval Float)
  | [] => .ok .free
  | [lower] => lower.toFloat >>= Interval.atLeast
  | [lower, upper] => (boundPart (tuple [lower, upper])).read ""
  | _ => .error (.unfit .type)

def makeIntervalBy (way : String) (args : List Value) : Reading Float (Interval Float) :=
  match way, args with
  | "interval", [_, _] => makeInterval args
  | "lower_interval", [lower] => lower.toFloat >>= Interval.atLeast
  | "upper_interval", [upper] => upper.toFloat >>= Interval.atMost
  | "equality", [value] => value.toFloat >>= Interval.exactly
  | "infinite_interval", [] => .ok .free
  | _, _ => .error (.unfit .type)

/-- The lower limits of intervals, and the upper limits. -/
def intervalLimits (s : Session) (v : Value) : Reading Float (List Float × List Float) := do
  let intervals ← (← v.items s).mapM fun
    | interval i => pure i
    | _ => throw (.unfit .missing)
  return (intervals.map (·.lower), intervals.map (·.upper))

/-! ## Functions -/

/-- The functions that the library makes from data: the name of the class, and its arguments in order. Parts
that are left out have a default. -/
def makeFunction (s : Session) (kind : Kernel) (name : String) (args : List Value) :
    Reading Float (Function Float) :=
  match kind, args with
  | .affine, [a, b] => Function.ofMatrix a.toTensor b.toTensor name
  | .quadraticForm, [a, b] => Function.ofQuadratic a.toTensor b.toTensor (.ok 0) name
  | .quadraticForm, [a, b, c] => Function.ofQuadratic a.toTensor b.toTensor c.toFloat name
  | .constant, [n, offset] => Function.ofConstant (n.sizePart s) offset.toTensor name
  | .shift, [offset] => Function.ofShift offset.toTensor name
  | .finiteDifference, [base] => Function.ofDifferences base.functionOf (.ok Function.defaultStep)
  | .finiteDifference, [base, step] => Function.ofDifferences base.functionOf step.toNumber
  | _, _ => .error (.unfit .type)

/-- Whether a function could be made of a class: the tiers themselves promise parts that they do not have. -/
def makeInstance (s : Session) (args : List Value) : FunctionClass → Reading Float Unit
  | .tier _ => .error (.unfit .type)
  | .kernel kind => do
    let _ ← makeFunction s kind "" args
  | .derived _ _ (.tier .twiceDerivable) | .derived _ _ (.tier .quadratic) => .error (.unfit .type)
  | .derived _ _ (.tier _) => match args with
    | [n] => discard (Function.checkSizes (n.sizePart s) (.ofNat 1))
    | [n, m] => discard (Function.checkSizes (n.sizePart s) (m.sizePart s))
    | [n, m, _] => discard (Function.checkSizes (n.sizePart s) (m.sizePart s))
    | _ => .error (.unfit .type)
  | .derived _ _ base => makeInstance s args base

/-! ## Calling classes -/

/-- The classes that there are at the beginning, by name. -/
def classesByName : List (String × ClassValue) :=
  FunctionClass.builtin.map (fun c ↦ (c.name, .function c))
    ++ builtinClasses.zipIdx.map (fun (c, i) ↦ (c.name, .solver ⟨i⟩))
    ++ PlainClass.all.map (fun c ↦ (c.name, .plain c))

/-- Calls a class with arguments, and answers the name of the class of what comes out. -/
def callClass (c : ClassValue) (args : List Value) : Run String := do
  let s ← get
  let name := className s c
  match c, args with
  | .function f, _ => lift (makeInstance s args f)
  | .solver r, [] => discard (build (← solverClass r) Option.none)
  | .solver r, [p] => discard (build (← solverClass r) (some (p.problemPart s)))
  | .plain .interval, _ => discard (lift (makeInterval args))
  | .plain .problem, [f] => discard (declare { objective := f.functionPart s })
  | .plain .iterate, [p] => discard (addIterate (← lift (p.inputSize s)))
  | .plain .parameter, [v] => discard (addParameter (v.contentPart s) "")
  | .plain .float, [v] | .plain .fixedReal, [v] => discard (lift v.toFloat)
  | .plain .int, [v] => discard (lift v.toInt)
  | .plain .bool, [v] => discard (lift (v.truth s))
  | .plain .text, [v] => discard (lift (v.textIn s))
  | .plain .list, [v] | .plain .tuple, [v] => discard (lift (v.items s))
  | .plain .mapping, [v] => discard (lift (v.entriesPart s))
  | .plain .float, [] | .plain .fixedReal, [] | .plain .int, [] | .plain .bool, [] | .plain .text, []
  | .plain .list, [] | .plain .tuple, [] | .plain .mapping, [] | .plain .object, [] | .plain .none, [] =>
    pure ()
  | _, _ => throw (.unfit .type)
  return name

/-! ## Fields -/

/-- The fields of a function that can be looked at and not be set. -/
def functionFields : Function Float → List String
  | .affine .. => ["input_size", "output_size", "name", "a", "b"]
  | .quadratic .. => ["input_size", "output_size", "name", "a", "b", "c"]
  | .constant .. | .shift .. => ["input_size", "output_size", "name", "offset"]
  | .finiteDifference .. => ["input_size", "output_size", "name", "function", "epsilon"]
  | .symbolic .. | .custom _ => ["input_size", "output_size", "name"]

/-- The fields of a problem that can be looked at and not be set. -/
def problemFields : List String :=
  ["function", "input_size", "objective_type", "constraint_types", "constraints", "constraint_output_size",
    "argument_bounds", "argument_scales", "argument_names", "is_frozen"]

/-- The fields of a solver that can be looked at and not be set. -/
def solverFields : List String :=
  ["has_solution", "parameters", "problem", "iteration_callback"]

def describe (r : Ref Parameter) (description : String) : Run Unit := do
  let p ← Session.parameter r
  modify fun s ↦ { s with parameters := s.parameters.set r { p with description } }

/-- Refuses fields that can only be looked at; other names are free for the caller's own use. -/
def refuseFields (fields : List String) (field : String) : Run Unit :=
  if fields.contains field then throw (.unfit .missing) else return ()

def setField (target : Value) (field : String) (v : Value) : Run Unit := do
  let s ← get
  match target, field with
  | interval _, _ | outcome _, _ => throw (.unfit .frozenField)
  | function f, _ => refuseFields (functionFields f) field
  | parameter r, "value" => setParameter r (v.contentPart s)
  | parameter r, "description" => describe r (← lift (v.textIn s))
  | problem r, "starting_point" => change r (·.setStart v.toTensor?)
  | problem _, _ => refuseFields problemFields field
  | iterate r, "x" => changeIterate r (·.moveTo v.toTensor)
  | iterate r, "cost" => changeIterate r fun i ↦ do return { i with cost := (← v.toFloat?) }
  | iterate r, "constraint_violation" =>
    changeIterate r fun i ↦ do return { i with violation := (← v.toFloat?) }
  | iterate _, _ => refuseFields ["parameters"] field
  | solver r, "result" => storeOutcome r (v.outcomePart s)
  | solver _, _ => refuseFields solverFields field
  | store _, _ | cls (.function _), _ | cls (.solver _), _ => return ()
  | _, _ => throw (.unfit .missing)

end Extremum.Value
