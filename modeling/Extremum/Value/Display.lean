import Extremum.Problem.Display
import Extremum.Session.Registry
import Extremum.Value.Reading

/-!
# Values in a session

What values are called, how they are written, what they hold one by one, and when they count as nothing. Some
of this depends on the session, because values may refer to things that change.
-/

namespace Extremum.Value

open Session

def className (s : Session) : ClassValue → String
  | .function c => c.name
  | .solver r => ((s.classes.get? r).map (·.name)).getD ""
  | .plain c => c.name

def classText (s : Session) : ClassValue → String
  | .function c => c.text
  | .solver r => ((s.classes.get? r).map (solverClassText r)).getD ""
  | .plain c => c.shown

def typeName (s : Session) : Value → String
  | none => "NoneType"
  | bool _ => "bool"
  | int _ => "int"
  | float _ => "float"
  | text _ => "str"
  | list _ => "list"
  | tuple _ => "tuple"
  | mapping _ => "dict"
  | numbers _ | wholeNumbers _ => "ndarray"
  | fixed v => v.typeName
  | interval _ => "Interval"
  | function f => f.className
  | cls (.plain _) => "type"
  | cls _ => "ABCMeta"
  | outcome o => o.kindName
  | parameter _ => "Parameter"
  | store _ => "ParameterStore"
  | problem _ => "Problem"
  | iterate _ => "SolverState"
  | solver r => ((s.solvers.get? r).map (·.kind.name)).getD ""

/-! ## Text -/

def entriesText (entries : List (String × String)) : String :=
  "\x7b" ++ String.intercalate ", " (entries.map fun (key, shown) ↦ Text.quoted key ++ ": " ++ shown) ++ "\x7d"

def storeContents (s : Session) (r : Ref Store) : List (String × Parameter) :=
  Settings.contents { parameters := s.parameters, store := (s.stores.get? r).getD {} }

mutual

def fullText (s : Session) : Value → String
  | none => "None"
  | bool b => if b then "True" else "False"
  | int n => toString n
  | float x => Decimal.shortest x
  | text t => Text.quoted t
  | list items => "[" ++ String.intercalate ", " (fullTexts s items) ++ "]"
  | tuple [only] => "(" ++ fullText s only ++ ",)"
  | tuple items => "(" ++ String.intercalate ", " (fullTexts s items) ++ ")"
  | mapping entries => entriesText (fullEntries s entries)
  | numbers t => t.fullText
  | wholeNumbers t => t.wholeFullText
  | fixed v => v.fullText
  | interval i => i.fullText
  | function f => f.fullText
  | cls c => classText s c
  | outcome o => o.fullText
  | parameter r => ((s.parameters.get? r).map (·.fullText)).getD ""
  | store r => entriesText ((storeContents s r).map fun (key, p) ↦ (key, p.fullText))
  | problem r => ((s.problems.get? r).map (·.fullText)).getD ""
  | iterate _ => "<optconduit.solver.state.SolverState object>"
  | solver r => "<" ++ ((s.solvers.get? r).map (·.kind.name)).getD "" ++ " object>"

def fullTexts (s : Session) : List Value → List String
  | [] => []
  | v :: rest => fullText s v :: fullTexts s rest

def fullEntries (s : Session) : List (String × Value) → List (String × String)
  | [] => []
  | (key, v) :: rest => (key, fullText s v) :: fullEntries s rest

end

/-- The text of a value. That of a problem or of a solver evaluates functions, which may fail. -/
def textIn (s : Session) : Value → Reading Float String
  | text t => .ok t
  | numbers t => .ok t.text
  | wholeNumbers t => .ok t.wholeText
  | fixed v => .ok v.shown
  | interval i => .ok i.text
  | function f => .ok f.text
  | outcome o => .ok o.text
  | problem r => match s.problems.get? r with
    | some p => p.text
    | Option.none => .error (.unfit .missing)
  | iterate r => match s.iterates.get? r with
    | some i => .ok (i.text s.parameters)
    | Option.none => .error (.unfit .missing)
  | solver r => match s.solvers.get? r with
    | some own =>
      if own.problem.isSome then ((solverText r).run s).1 else .ok (fullText s (.solver r))
    | Option.none => .error (.unfit .missing)
  | v => .ok (fullText s v)

/-- The text of a value as it is printed, on lines of its own. -/
def printed (s : Session) (v : Value) : Reading Float String :=
  (v.textIn s).map (· ++ "\n")

/-! ## Flags and items -/

/-- The only entry of a tensor, whatever its axes are. -/
def onlyEntry? {α : Type} (t : Tensor α) : Option α :=
  match t.data with
  | [x] => some x
  | _ => Option.none

/-- Whether a value counts as something: zero and everything empty do not, and an array of several numbers
cannot be judged. -/
def truth (s : Session) : Value → Reading Float Bool
  | none => .ok false
  | bool b => .ok b
  | int n => .ok (n ≠ 0)
  | float x => .ok (x != 0)
  | text t => .ok (!t.isEmpty)
  | list items | tuple items => .ok (!items.isEmpty)
  | mapping entries => .ok (!entries.isEmpty)
  | numbers t => match onlyEntry? t with
    | some x => .ok (x != 0)
    | Option.none => .error (.unfit .value)
  | wholeNumbers t => match onlyEntry? t with
    | some n => .ok (n ≠ 0)
    | Option.none => .error (.unfit .value)
  | fixed (.real _ _ x) | fixed (.complex x) => .ok (x != 0)
  | fixed (.whole _ n) => .ok (n ≠ 0)
  | fixed (.truth b) => .ok b
  | fixed (.text t) => .ok (!t.isEmpty)
  | store r => .ok !((s.stores.get? r).getD {}).isEmpty
  | _ => .ok true

def characters (t : String) : List Value :=
  t.toList.map fun c ↦ text (String.singleton c)

/-- The items along the first axis of a tensor. -/
def slices {α : Type} (item : α → Value) (whole : Tensor α → Value) (t : Tensor α) :
    Reading Float (List Value) :=
  match h : t.shape with
  | [] => .error (.unfit .type)
  | [_] => .ok (t.data.map item)
  | n :: shape => .ok ((Tensor.pieces (volume shape) n t.data).attach.map fun ⟨piece, hpiece⟩ ↦
      whole ⟨shape, piece, Tensor.length_of_mem_pieces (by simp [t.length_data, h]) piece hpiece⟩)

/-- What a value holds one by one. -/
def items (s : Session) : Value → Reading Float (List Value)
  | list items | tuple items => .ok items
  | text t | fixed (.text t) => .ok (characters t)
  | mapping entries => .ok (entries.map fun (key, _) ↦ text key)
  | store r => .ok (((s.stores.get? r).getD {}).keys.map text)
  | numbers t => slices (fun x ↦ fixed (.real "float64" .double x)) numbers t
  | wholeNumbers t => slices (fun n ↦ fixed (.whole "int64" n)) wholeNumbers t
  | _ => .error (.unfit .type)

end Extremum.Value
