import Extremum.Decimal.Reading
import Extremum.Solver.Basic

/-!
# Values

What a caller can hand over: numbers, texts, lists, arrays, and the things that the library itself made. Each
operation accepts some of them, and says what it was given when it refuses one.
-/

namespace Extremum

/-- Single numbers and texts of an array library, which are not the caller's own. -/
inductive FixedValue where
  /-- A binary floating point number of a format, with the name of its type. -/
  | real (typeName : String) (format : Decimal.Format) (x : Float)
  /-- A whole number, with the name of its type. -/
  | whole (typeName : String) (n : Int)
  | truth (b : Bool)
  /-- A complex number with no imaginary part. -/
  | complex (x : Float)
  | text (s : String)

/-- Classes other than those of functions and of solvers. -/
inductive PlainClass
  | interval
  | problem
  | iterate
  | parameter
  | array
  | fixedReal
  | float
  | int
  | bool
  | text
  | list
  | tuple
  | mapping
  | object
  | none
deriving DecidableEq, Repr

inductive ClassValue where
  | function (c : FunctionClass)
  | solver (r : Ref SolverClass)
  | plain (c : PlainClass)
deriving DecidableEq

/-- Anything that a caller can hand over. -/
inductive Value where
  | none
  | bool (b : Bool)
  | int (n : Int)
  | float (x : Float)
  | text (s : String)
  | list (items : List Value)
  | tuple (items : List Value)
  | mapping (entries : List (String × Value))
  | numbers (t : Tensor Float)
  | wholeNumbers (t : Tensor Int)
  | fixed (v : FixedValue)
  | interval (i : Interval Float)
  | function (f : Function Float)
  | cls (c : ClassValue)
  | outcome (o : Outcome)
  | parameter (r : Ref Parameter)
  | store (r : Ref Store)
  | problem (r : Ref (Problem Float))
  | iterate (r : Ref Iterate)
  | solver (r : Ref Solver)

namespace PlainClass

def name : PlainClass → String
  | interval => "Interval"
  | problem => "Problem"
  | iterate => "SolverState"
  | parameter => "Parameter"
  | array => "ndarray"
  | fixedReal => "float64"
  | float => "float"
  | int => "int"
  | bool => "bool"
  | text => "str"
  | list => "list"
  | tuple => "tuple"
  | mapping => "dict"
  | object => "object"
  | none => "NoneType"

/-- Where a class is declared, with a point at the end; classes that need no declaration have none. -/
def declaredIn : PlainClass → String
  | interval => "optconduit.core.interval."
  | problem => "optconduit.problem.core."
  | iterate => "optconduit.solver.state."
  | parameter => "optconduit.solver.parameter."
  | array | fixedReal => "numpy."
  | _ => ""

def shown (c : PlainClass) : String :=
  "<class '" ++ c.declaredIn ++ c.name ++ "'>"

def all : List PlainClass :=
  [interval, problem, iterate, parameter, array, fixedReal, float, int, bool, text, list, tuple, mapping,
    object, none]

end PlainClass

namespace FixedValue

def typeName : FixedValue → String
  | real name _ _ | whole name _ => name
  | truth _ => "bool"
  | complex _ => "complex128"
  | text _ => "str_"

/-- The text of a number of a binary format, with the fewest digits that read back in that format. -/
def realText (format : Decimal.Format) (x : Float) : String :=
  Decimal.textWith (fun b ↦ Decimal.magnitudeShortest ((format.round b).getD b)) x

/-- The text of a complex number with no imaginary part: a part that is whole has no point. -/
def complexText (x : Float) : String :=
  let real := Decimal.shortest x
  let short := if real.endsWith ".0" then String.ofList (real.toList.take (real.length - 2)) else real
  "(" ++ short ++ "+0j)"

def shown : FixedValue → String
  | real _ format x => realText format x
  | whole _ n => toString n
  | truth b => if b then "True" else "False"
  | complex x => complexText x
  | text s => s

def fullText : FixedValue → String
  | real name format x => "np." ++ name ++ "(" ++ realText format x ++ ")"
  | whole name n => "np." ++ name ++ "(" ++ toString n ++ ")"
  | truth b => if b then "np.True_" else "np.False_"
  | complex x => "np.complex128" ++ complexText x
  | text s => "np.str_(" ++ Text.quoted s ++ ")"

end FixedValue

end Extremum
