import Extremum.Value.Basic

/-!
# Reading numbers out of values

How values are read as single numbers, whole numbers, tensors and flags. Lists of unequal lengths have no
shape, which counts before any of their items does.
-/

namespace Extremum.Value

/-! ## Single numbers -/

def floatOfInt (n : Int) : Reading Float Float :=
  match Decimal.ofInt? n with
  | some x => .ok x
  | Option.none => .error (.unfit .overflow)

def floatOfText (s : String) : Reading Float Float :=
  match Decimal.read? s with
  | some x => .ok x
  | Option.none => .error (.unfit .value)

def floatOfFixed : FixedValue → Reading Float Float
  | .real _ _ x | .complex x => .ok x
  | .whole _ n => floatOfInt n
  | .truth b => .ok (if b then 1 else 0)
  | .text s => floatOfText s

/-- The only entry of a tensor without axes. -/
def only {α : Type} (t : Tensor α) : Reading Float α :=
  match t.shape, t.data with
  | [], [x] => .ok x
  | _, _ => .error (.unfit .type)

/-- A value as a double. Texts are read, and flags are zero or one. -/
def toFloat : Value → Reading Float Float
  | bool b => .ok (if b then 1 else 0)
  | int n => floatOfInt n
  | float x => .ok x
  | text s => floatOfText s
  | numbers t => only t
  | wholeNumbers t => only t >>= floatOfInt
  | fixed v => floatOfFixed v
  | _ => .error (.unfit .type)

/-- A value that can be compared with a number, as a double: texts are no numbers here. -/
def toNumber : Value → Reading Float Float
  | text _ | fixed (.text _) | fixed (.complex _) => .error (.unfit .type)
  | v => v.toFloat

def wholePart (x : Float) : Reading Float Int :=
  match Decimal.truncate? x with
  | some n => .ok n
  | Option.none => .error (.unfit (if x.isNaN then .value else .overflow))

def intOfText (s : String) : Reading Float Int :=
  match Decimal.readInt? s with
  | some n => .ok n
  | Option.none => .error (.unfit .value)

/-- A value as a whole number; parts behind the point are dropped. -/
def toInt : Value → Reading Float Int
  | bool b => .ok (if b then 1 else 0)
  | int n => .ok n
  | float x => wholePart x
  | text s => intOfText s
  | numbers t => only t >>= wholePart
  | wholeNumbers t => only t
  | fixed (.real _ _ x) | fixed (.complex x) => wholePart x
  | fixed (.whole _ n) => .ok n
  | fixed (.truth b) => .ok (if b then 1 else 0)
  | fixed (.text s) => intOfText s
  | _ => .error (.unfit .type)

/-- Whether a value is a real number, flags included. -/
def isReal : Value → Bool
  | bool _ | int _ | float _ | fixed (.real ..) | fixed (.whole ..) => true
  | _ => false

/-! ## Tensors -/

/-- A tensor as nested leaves, given its shape and its entries in order. -/
def nestedTensor {α : Type} (item : α → Value) : List Nat → List α → Nested Value
  | [], a :: _ => .item (item a)
  | [], [] => .list []
  | n :: shape, entries => .list ((Tensor.pieces (volume shape) n entries).map (nestedTensor item shape))

mutual

def nested : Value → Nested Value
  | list items | tuple items => .list (nestedAll items)
  | numbers t => nestedTensor float t.shape t.data
  | wholeNumbers t => nestedTensor int t.shape t.data
  | v => .item v

def nestedAll : List Value → List (Nested Value)
  | [] => []
  | v :: rest => v.nested :: nestedAll rest

end

/-- A leaf as an entry of a tensor: nothing at all is the undefined number. -/
def leaf : Value → Reading Float Float
  | none => .ok (0.0 / 0.0)
  | v => v.toFloat

def toTensor (v : Value) : Reading Float (Tensor Float) :=
  match v.nested.tensor? with
  | some t => t.traverse leaf
  | Option.none => .error (.unfit .value)

def toTensor? : Value → Option (Reading Float (Tensor Float))
  | none => Option.none
  | v => some v.toTensor

def toFloat? : Value → Reading Float (Option Float)
  | none => .ok Option.none
  | v => some <$> v.toFloat

/-! ## Solutions -/

/-- An outcome as a value, or the type of another value. -/
def lastOutcome : Value → Reading Float (Option Outcome)
  | none => .ok Option.none
  | outcome o => .ok (some o)
  | _ => .error (.unfit .type)

/-! ## Parameters -/

/-- A value as the value of a parameter; single values of an array library count as the caller's own. -/
def content (typeName : String) : Value → Reading Float Content
  | bool b | fixed (.truth b) => .ok (.bool b)
  | int n | fixed (.whole _ n) => .ok (.int n)
  | float x | fixed (.real _ _ x) => .ok (.float x)
  | text s => .ok (.text s)
  | numbers t => .ok (.vector t.data)
  | wholeNumbers t => (t.data.mapM floatOfInt).map .vector
  | _ => .error (Content.refusal typeName)

/-- The type of parameter that a value is already of. -/
def parameterType (typeName : String) : Value → Reading Float ParameterType
  | fixed _ => .error (Content.refusal typeName)
  | v => (v.content typeName).map (·.type)

/-- The type of parameters that a class stands for. -/
def requestedType (shown : Reading Float String) : Value → Reading Float ParameterType
  | cls (.plain .float) => .ok .float
  | cls (.plain .int) => .ok .int
  | cls (.plain .bool) => .ok .bool
  | cls (.plain .text) => .ok .text
  | cls (.plain .array) => .ok .vector
  | _ => shown >>= fun s ↦ .error (.unsupportedType s)

end Extremum.Value
