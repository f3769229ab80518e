import Extremum.Decimal.Layout
import Extremum.Text.Quoted

/-!
# Errors

Everything that can be wrong with a call, one constructor per cause. `Error.kind` sorts the causes into a
small hierarchy of kinds and `Error.message` words them.
-/

namespace Extremum

/-- The kinds of errors. The first eight are the library's own; each belongs to a more general kind that a
caller may look for instead. -/
inductive Kind
  | library
  | outOfRange
  | invalidProblem
  | invalidBound
  | keyNotFound
  | typeMismatch
  | solverContract
  | badGradient
  | index
  | lookup
  | value
  | key
  | type
  | runtime
  | assertion
  | overflow
  | missing
  | frozenField
deriving DecidableEq, Repr

namespace Kind

def name : Kind → String
  | library => "OptConduitError"
  | outOfRange => "OutOfRangeError"
  | invalidProblem => "InvalidProblemError"
  | invalidBound => "InvalidBoundError"
  | keyNotFound => "KeyNotFoundError"
  | typeMismatch => "TypeMismatchError"
  | solverContract => "SolverContractError"
  | badGradient => "BadGradientError"
  | index => "IndexError"
  | lookup => "LookupError"
  | value => "ValueError"
  | key => "KeyError"
  | type => "TypeError"
  | runtime => "RuntimeError"
  | assertion => "AssertionError"
  | overflow => "OverflowError"
  | missing => "AttributeError"
  | frozenField => "FrozenInstanceError"

def all : List Kind :=
  [library, outOfRange, invalidProblem, invalidBound, keyNotFound, typeMismatch, solverContract,
    badGradient, index, lookup, value, key, type, runtime, assertion, overflow, missing, frozenField]

def named? (text : String) : Option Kind :=
  all.find? (·.name == text)

/-- A kind and the more general kinds it belongs to. -/
def ancestors : Kind → List Kind
  | outOfRange => [outOfRange, library, index, lookup]
  | invalidProblem => [invalidProblem, library, value]
  | invalidBound => [invalidBound, library, value]
  | keyNotFound => [keyNotFound, library, lookup, key]
  | typeMismatch => [typeMismatch, library, type]
  | solverContract => [solverContract, library, runtime]
  | badGradient => [badGradient, library, assertion]
  | index => [index, lookup]
  | key => [key, lookup]
  | frozenField => [frozenField, missing]
  | kind => [kind]

/-- The text of an error of a kind, by name, that was made with texts: the only one as it is, or all of them as
a tuple. An error about a key quotes it, unless it is the library's own. -/
def textOf (kindName : String) : List String → String
  | [] => ""
  | [only] => if kindName == key.name then Text.quoted only else only
  | first :: rest =>
    if kindName == keyNotFound.name then first
    else "(" ++ String.intercalate ", " ((first :: rest).map Text.quoted) ++ ")"

/-- The general kinds that callers may look for. -/
def general : List Kind :=
  [library, index, lookup, value, key, type, runtime, assertion]

def generalAncestors (kind : Kind) : List Kind :=
  general.filter kind.ancestors.contains

theorem mem_all (kind : Kind) : kind ∈ all := by
  cases kind <;> simp [all]

end Kind

/-- A shape in round brackets; a single length is followed by a comma. -/
def shapeText : List Nat → String
  | [n] => s!"({n},)"
  | shape => "(" ++ String.intercalate ", " (shape.map toString) ++ ")"

/-- What is wrong with a call, over the scalars that the call computes with. -/
inductive Error (α : Type) where
  /-- A limit of an interval is undefined. -/
  | undefinedLimit
  /-- The lower limit of an interval is greater than the upper one. -/
  | invertedInterval (lower upper : α)
  /-- A function would have no arguments or no outputs. -/
  | sizeTooSmall (what shown : String)
  /-- An argument is not a vector of the function's input size. -/
  | argumentShape (shape : List Nat) (size : Nat) (label : String)
  /-- A function has no output with an index. -/
  | outputIndex (index : Int) (label : String) (outputs : Nat)
  /-- A user's function returned numbers of a wrong shape. -/
  | returnedShape (owner hook : String) (shape expected : List Nat)
  /-- A class of linear functions defines its own hessian. -/
  | hessianOverride (name defined : String)
  /-- A class of functions was expected. -/
  | notFunctionClass (name : String)
  /-- The step of a finite difference is not positive. -/
  | stepNotPositive
  /-- The coefficients of a linear function are no matrix. -/
  | matrixExpected (shape : List Nat)
  /-- The coefficients of a quadratic function are no square matrix. -/
  | squareCoefficients (shape : List Nat)
  /-- The coefficients of a quadratic function are not symmetric. -/
  | coefficientsNotSymmetric
  /-- The offset of a linear function has a wrong length. -/
  | offsetLength (entries rows : Nat)
  /-- The linear coefficients of a quadratic function have a wrong length. -/
  | slopeLength (entries size : Nat)
  /-- A square matrix was expected. -/
  | squareExpected (shape : List Nat)
  /-- A matrix is not symmetric within a tolerance. -/
  | asymmetric (tolerance : String) (deviation : α)
  /-- A row of a jacobian is not the gradient of that output. -/
  | rowMismatch (row : Nat) (label : String)
  /-- A finite difference was asked for an output that there is not. -/
  | differenceIndex (index : Int) (outputs : Nat)
  /-- A gradient is too far from its finite difference. -/
  | badGradient (label : String) (index : Int) (deviation threshold : α) (shape : List Nat) (x : List α)
  /-- A scale is not a positive finite number. -/
  | badScale (what shown : String)
  /-- A bound is neither an interval nor a pair of limits. -/
  | intervalExpected (what : String)
  /-- An objective is not a function. -/
  | objectiveNotFunction (given : String)
  /-- An objective does not belong to the class it is declared at. -/
  | objectiveClass (shown declared : String)
  /-- A problem permits no class of constraints. -/
  | noConstraintClasses
  /-- Something other than a class of functions was declared. -/
  | functionClassExpected (what shown : String)
  /-- A list has not one entry per argument. -/
  | argumentCount (what : String) (expected given : Nat)
  /-- A frozen problem was to be changed. -/
  | frozenProblem
  /-- A starting point has a wrong length. -/
  | startLength (given expected : Nat)
  /-- A problem has no argument with an index. -/
  | argumentIndex (index : Int) (size : Nat)
  /-- A constraint is not a function. -/
  | constraintNotFunction (given : String)
  /-- A constraint belongs to none of the permitted classes. -/
  | constraintClass (shown : String) (permitted : List String)
  /-- A constraint has another number of arguments than its problem. -/
  | constraintInputs (given expected : Nat)
  /-- A constraint has another number of bounds or scales than outputs. -/
  | constraintCount (what : String) (outputs given : Nat)
  /-- An objective was to be declared at a more specific class. -/
  | narrowedObjective (declared wanted : String)
  /-- A class of constraints has no counterpart among the wanted ones. -/
  | narrowedConstraints (declared : String)
  /-- A point is not a vector of the problem's input size. -/
  | pointShape (shape : List Nat) (size : Nat)
  /-- Something other than a final outcome was stored by a solver. -/
  | outcomeExpected (given : String)
  /-- A solver returned without storing an outcome. -/
  | nothingStored (solver : String)
  /-- A problem was expected. -/
  | problemExpected (given : String)
  /-- A callback cannot be called. -/
  | callbackNotCallable
  /-- Something other than a class of solvers was to be registered. -/
  | notSolverClass (shown : String)
  /-- A solver name is taken by another class. -/
  | nameTaken (name : String)
  /-- A solver name is not registered. -/
  | unknownSolver (name : String) (available : List String)
  /-- A value cannot be kept as a parameter. -/
  | unsupportedParameter (given : String) (supported : List String)
  /-- A type is not one that parameters have. -/
  | unsupportedType (shown : String)
  /-- A parameter was asked for another type than it has. -/
  | parameterRequest (held requested : String)
  /-- A parameter was to keep a value of another type. -/
  | parameterStore (held given : String)
  /-- An entry of a store is not a parameter. -/
  | entryExpected (key given : String)
  /-- A store has no entry with a key. -/
  | keyNotFound (key : String)
  /-- A result with warnings came without any. -/
  | warningsRequired
  /-- An iterate has a wrong length. -/
  | iterateLength (given expected : Nat)
  /-- An error that a user's code raised. -/
  | raised (kind message : String)
  /-- A value that does not fit an operation; such errors have a kind and no wording. -/
  | unfit (kind : Kind)
deriving Repr

namespace Error

variable {α : Type}

/-- The kind that an error belongs to, by name. -/
def kindName : Error α → String
  | undefinedLimit | invertedInterval .. => Kind.invalidBound.name
  | argumentShape .. | outputIndex .. | returnedShape .. | differenceIndex .. | pointShape ..
  | iterateLength .. => Kind.outOfRange.name
  | sizeTooSmall .. | stepNotPositive | matrixExpected .. | squareCoefficients ..
  | coefficientsNotSymmetric | offsetLength .. | slopeLength .. | squareExpected .. | asymmetric ..
  | rowMismatch .. | nameTaken .. | unknownSolver .. | warningsRequired => Kind.value.name
  | hessianOverride .. | notFunctionClass .. | outcomeExpected .. | problemExpected ..
  | callbackNotCallable | notSolverClass .. => Kind.type.name
  | badGradient .. => Kind.badGradient.name
  | badScale .. | intervalExpected .. | objectiveNotFunction .. | objectiveClass ..
  | noConstraintClasses | functionClassExpected .. | argumentCount .. | frozenProblem | startLength ..
  | argumentIndex .. | constraintNotFunction .. | constraintClass .. | constraintInputs ..
  | constraintCount .. | narrowedObjective .. | narrowedConstraints .. => Kind.invalidProblem.name
  | nothingStored .. => Kind.solverContract.name
  | unsupportedParameter .. | unsupportedType .. | parameterRequest .. | parameterStore ..
  | entryExpected .. => Kind.typeMismatch.name
  | keyNotFound .. => Kind.keyNotFound.name
  | raised kind _ => kind
  | unfit kind => kind.name

/-- The wording of an error; errors about values that do not fit an operation have none. -/
def message? : Error Float → Option String
  | undefinedLimit => some "Interval limits must not be NaN"
  | invertedInterval lower upper => some
      ("Invalid interval: lower bound " ++ Decimal.general lower ++ " is greater than upper bound "
        ++ Decimal.general upper)
  | sizeTooSmall what shown => some s!"{what} must be >= 1, got {shown}"
  | argumentShape shape size label => some
      ("Argument of shape " ++ shapeText shape ++ s!" does not match input size {size} of {label}")
  | outputIndex index label outputs =>
    some s!"Output index {index} out of range for {label} with {outputs} output(s)"
  | returnedShape owner hook shape expected => some
      (s!"{owner}.{hook}() returned shape " ++ shapeText shape ++ ", expected " ++ shapeText expected)
  | hessianOverride name defined =>
    some s!"{name} cannot override {defined}: the hessian of a linear function is always zero"
  | notFunctionClass name => some s!"{name} is not a Function"
  | stepNotPositive => some "epsilon must be positive"
  | matrixExpected shape => some ("A must be a 2D matrix, got shape " ++ shapeText shape)
  | squareCoefficients shape => some ("A must be a square matrix, got shape " ++ shapeText shape)
  | coefficientsNotSymmetric => some "A must be symmetric"
  | offsetLength entries rows => some s!"b has {entries} entries but A has {rows} rows"
  | slopeLength entries size => some s!"b has {entries} entries but A is {size}x{size}"
  | squareExpected shape => some ("Expected a square matrix, got shape " ++ shapeText shape)
  | asymmetric tolerance deviation => some
      (s!"Matrix is not symmetric within tolerance {tolerance}. Max deviation: "
        ++ Decimal.scientific deviation)
  | rowMismatch row label => some s!"Jacobian row {row} of {label} does not match its gradient"
  | differenceIndex index outputs =>
    some s!"Output index {index} out of range for function with {outputs} output(s)"
  | badGradient label index deviation threshold _ _ => some
      (s!"Gradient of {label} (output {index}) deviates from finite differences by "
        ++ Decimal.scientific deviation ++ " (threshold " ++ Decimal.general threshold ++ ")")
  | badScale what shown => some s!"{what} must be positive and finite, got {shown}"
  | intervalExpected what => some s!"{what} must be an Interval or a (lower, upper) pair"
  | objectiveNotFunction given => some s!"Objective must be a Function, got {given}"
  | objectiveClass shown declared => some s!"Objective {shown} is not a {declared}"
  | noConstraintClasses => some "constraint_types must not be empty"
  | functionClassExpected what shown =>
    some s!"{what} must contain Function subclasses, got {shown}"
  | argumentCount what expected given => some s!"Expected {expected} {what}, got {given}"
  | frozenProblem => some "Problem is frozen: it is owned by a solver and cannot be modified"
  | startLength given expected =>
    some s!"Starting point has {given} entries, expected {expected}"
  | argumentIndex index size => some s!"Argument index {index} out of range for input size {size}"
  | constraintNotFunction given => some s!"Constraint must be a Function, got {given}"
  | constraintClass shown permitted => some
      (s!"Constraint {shown} is not one of the permitted types (" ++ String.intercalate ", " permitted
        ++ ")")
  | constraintInputs given expected =>
    some s!"Constraint input size {given} does not match problem input size {expected}"
  | constraintCount what outputs given =>
    some s!"Constraint has {outputs} output(s) but {given} {what}(s) were given"
  | narrowedObjective declared wanted =>
    some s!"Cannot convert objective from {declared} to the more specific {wanted}"
  | narrowedConstraints declared => some
      s!"Cannot convert constraint type {declared}: no requested type is at least as general"
  | pointShape shape size => some
      ("Argument of shape " ++ shapeText shape ++ s!" does not match input size {size}")
  | outcomeExpected given => some
      (s!"solve() must store a Result, ResultWithWarnings or SolverError, got {given}; "
        ++ "use reset() to clear the outcome")
  | nothingStored solver => some s!"{solver}.solve() returned without storing an outcome"
  | problemExpected given => some s!"Expected a Problem, got {given}"
  | callbackNotCallable => some "Iteration callback must be callable"
  | notSolverClass shown => some s!"{shown} is not a Solver subclass"
  | nameTaken name => some ("A solver is already registered under " ++ Text.quoted name)
  | unknownSolver name available => some
      (s!"Unsupported solver name '{name}'. Supported names: " ++ Text.quotedList available)
  | unsupportedParameter given supported => some
      (s!"Unsupported parameter type {given}; expected one of " ++ String.intercalate ", " supported)
  | unsupportedType shown => some s!"Unsupported parameter type {shown}"
  | parameterRequest held requested => some s!"Parameter holds {held}, requested {requested}"
  | parameterStore held given => some s!"Parameter holds {held}, cannot store {given}"
  | entryExpected key given => some
      ("Entry " ++ Text.quoted key ++ s!" must be a Parameter, got {given}; "
        ++ "use set_parameter() to store a raw value")
  | keyNotFound key => some s!"key {key} not found"
  | warningsRequired => some "ResultWithWarnings requires at least one warning"
  | iterateLength given expected => some s!"Iterate has {given} entries, expected {expected}"
  | raised kind message => some (Kind.textOf kind [message])
  | unfit _ => none

end Error

/-! ## Readings

What a caller hands over need not be what an operation asks for. Operations are therefore given the outcome of
reading each part, and meet a failure only when they come to look at that part. -/

/-- The outcome of reading something that a caller handed over. -/
abbrev Reading (α β : Type) := Except (Error α) β

/-- A reading together with how the caller wrote it. -/
structure Written (α β : Type) where
  value : Reading α β
  shown : String

/-- What a caller gave where one kind of thing is accepted: that, or the name of what it is instead. -/
abbrev Given (β : Type) := Except String β

/-- A number that is known. -/
def Written.ofNat {α : Type} (n : Nat) : Written α Int :=
  ⟨.ok n, toString n⟩

/-- The items of a list of readings, up to the first that fails. -/
def Reading.all {α β : Type} (items : List (Reading α β)) : Reading α (List β) :=
  items.mapM id

end Extremum
