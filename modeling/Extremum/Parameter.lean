import Extremum.Outcome

/-!
# Parameters

Named values of a solver or of one of its iterates. A parameter has one of five types, which never changes:
a new value has to be of the same type, and whoever asks for the value has to name that type.
-/

namespace Extremum

inductive ParameterType
  | float
  | int
  | bool
  | text
  | vector
deriving DecidableEq, Repr

/-- A value of one of the five types. -/
inductive Content where
  | float (x : Float)
  | int (n : Int)
  | bool (b : Bool)
  | text (s : String)
  | vector (entries : List Float)

/-- A value and what it is good for. -/
structure Parameter where
  content : Content
  /-- A note for readers of a report. -/
  description : String := ""

namespace ParameterType

def all : List ParameterType :=
  [float, int, bool, text, vector]

/-- The name of a type in an error. -/
def name : ParameterType → String
  | float => "float"
  | int => "int"
  | bool => "bool"
  | text => "str"
  | vector => "ndarray"

/-- The short name of a type. -/
def tag : ParameterType → String
  | vector => "vector"
  | t => t.name

end ParameterType

namespace Content

def type : Content → ParameterType
  | float _ => .float
  | int _ => .int
  | bool _ => .bool
  | text _ => .text
  | vector _ => .vector

def shown : Content → String
  | float x => Decimal.shortest x
  | int n => toString n
  | bool b => if b then "True" else "False"
  | text s => s
  | vector entries => Tensor.vectorText entries

/-- The refusal of a value that is of none of the five types, by the name of its own type. -/
def refusal (given : String) : Error Float :=
  .unsupportedParameter given (ParameterType.all.map (·.name))

end Content

namespace Parameter

def type (p : Parameter) : ParameterType :=
  p.content.type

/-- The value of a parameter, for those who ask for its type. -/
def get (p : Parameter) (requested : Reading Float ParameterType) : Reading Float Content := do
  let requested ← requested
  if requested = p.type then return p.content
  else throw (.parameterRequest p.type.name requested.name)

/-- The parameter with another value of its type. -/
def set (p : Parameter) (content : Reading Float Content) : Reading Float Parameter := do
  let content ← content
  if content.type = p.type then return { p with content }
  else throw (.parameterStore p.type.name content.type.name)

/-- The value of a parameter and its description. -/
def fullText (p : Parameter) : String :=
  "Parameter(" ++ p.content.shown ++ ", description=" ++ Text.quoted p.description ++ ")"

theorem set_eq_ok_iff (p q : Parameter) (content : Content) :
    p.set (.ok content) = .ok q ↔ content.type = p.type ∧ q = { p with content } := by
  by_cases h : content.type = p.type
  · simp [set, h, bind, Except.bind, pure, Except.pure, eq_comm]
  · simp [set, h, bind, Except.bind, throw, throwThe, MonadExceptOf.throw]

end Parameter

end Extremum
