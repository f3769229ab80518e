import Extremum.Function.Basic

/-!
# Classes and functions of users

Users derive classes from the ones there are, and write functions part by part. A part that the tier promises
has to be there, and a linear function has no say in its hessian, which is always zero.
-/

namespace Extremum

def Nested.part {α : Type} [Scalar α] (e : Nested (Expr α)) (x : List α) : Except (Error α) (Nested α) :=
  e.traverse (Expr.eval x)

/-- A part of a function that is given by expressions for each of its outputs. -/
def Nested.partOf {α : Type} [Scalar α] (es : List (Nested (Expr α))) (x : List α) (i : Nat) :
    Except (Error α) (Nested α) :=
  match es[i]? with
  | some e => e.part x
  | none => .error (.unfit .index)

/-- The parts of a function that a user wrote; some may be missing. -/
structure Hooks (α : Type) where
  /-- The name of the user's class. -/
  className : String
  /-- What the class promises. -/
  tier : Tier
  name : String
  inputs : Written α Int
  outputs : Written α Int
  compute : Option (List α → Except (Error α) (Nested α))
  gradient : Option (List α → Nat → Except (Error α) (Nested α))
  jacobian : Option (List α → Except (Error α) (Nested α))
  hessian : Option (List α → Nat → Except (Error α) (Nested α))

/-- The parts that a user's class may define to say what its hessians are, in the order in which they are
looked at. -/
inductive HessianPart
  /-- The hessian that callers ask for. -/
  | checked
  /-- The raw hessian. -/
  | raw
deriving DecidableEq, Repr

namespace HessianPart

def name : HessianPart → String
  | checked => "hessian"
  | raw => "impl_hessian"

def all : List HessianPart :=
  [checked, raw]

end HessianPart

namespace FunctionClass

/-- The class that a user derives from another. It may define parts of the hessian, unless the other is a class
of linear functions. -/
def derive {α : Type} (declaration : Nat) (name : String) (base : FunctionClass)
    (defined : List HessianPart) : Except (Error α) FunctionClass :=
  match HessianPart.all.find? defined.contains with
  | some part =>
    if base.leastTier = .linear then .error (.hessianOverride name part.name)
    else .ok (.derived declaration name base)
  | none => .ok (.derived declaration name base)

end FunctionClass

namespace Function

variable {α : Type}

/-- The function that a user wrote. -/
def ofHooks (h : Hooks α) : Except (Error α) (Function α) := do
  let defined := if h.hessian.isSome then [HessianPart.raw] else []
  let _ ← FunctionClass.derive (α := α) 0 h.className (.tier h.tier) defined
  let none : List α → Nat → Except (Error α) (Nested α) := fun _ _ ↦ .error (.unfit .missing)
  let promised (tier : Tier) (part : Bool) : Except (Error α) Unit :=
    if h.tier.isSubtier tier && !part then .error (.unfit .type) else .ok ()
  match h.compute with
  | .none => throw (.unfit .type)
  | some compute =>
    promised .derivable h.gradient.isSome
    unless h.tier = .linear do
      promised .twiceDerivable h.hessian.isSome
    let (inputs, outputs) ← checkSizes h.inputs h.outputs
    return .custom {
      className := h.className, tier := h.tier, name := h.name, inputs, outputs, compute
      gradient := h.gradient.getD none, jacobian := h.jacobian, hessian := h.hessian.getD none }

end Function

end Extremum
