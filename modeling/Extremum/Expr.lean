import Extremum.Error
import Extremum.Scalar

/-!
# Expressions

Scalar expressions in the components of an argument, and their derivatives. `derivative` differentiates an
expression formally by one component. `gradient` goes the other way round: it walks several expressions once
with a seed for each, collects what every occurrence of a component contributes, and adds the contributions up
per component.
-/

namespace Extremum

/-- An expression in the components of an argument. -/
inductive Expr (α : Type) where
  | const (c : α)
  | arg (i : Nat)
  | neg (e : Expr α)
  | abs (e : Expr α)
  | sign (e : Expr α)
  | sqrt (e : Expr α)
  | add (a b : Expr α)
  | sub (a b : Expr α)
  | mul (a b : Expr α)
  | div (a b : Expr α)
deriving Repr

namespace Expr

variable {α : Type} [Scalar α]

/-- The value of an expression at an argument; a component that the argument does not have is an error. -/
def eval (x : List α) : Expr α → Except (Error α) α
  | const c => .ok c
  | arg i => match x[i]? with
    | some value => .ok value
    | none => .error (.unfit .index)
  | neg e => (eval x e).map (- ·)
  | abs e => (eval x e).map Scalar.abs
  | sign e => (eval x e).map Scalar.sign
  | sqrt e => (eval x e).map Scalar.sqrt
  | add a b => do return (← eval x a) + (← eval x b)
  | sub a b => do return (← eval x a) - (← eval x b)
  | mul a b => do return (← eval x a) * (← eval x b)
  | div a b => do return (← eval x a) / (← eval x b)

def derivative (k : Nat) : Expr α → Expr α
  | const _ => .const 0
  | arg i => .const (if i = k then 1 else 0)
  | neg e => .neg (derivative k e)
  | abs e => .mul (derivative k e) (.sign e)
  | sign _ => .const 0
  | sqrt e => .div (derivative k e) (.mul (.const 2.0) (.sqrt e))
  | add a b => .add (derivative k a) (derivative k b)
  | sub a b => .sub (derivative k a) (derivative k b)
  | mul a b => .add (.mul (derivative k a) b) (.mul a (derivative k b))
  | div a b => .div (.sub (.mul (derivative k a) b) (.mul a (derivative k b))) (.mul b b)

/-- What each occurrence of a component contributes to the derivative of an expression, times a seed. -/
def contributions : Expr α → Expr α → List (Nat × Expr α)
  | const _, _ => []
  | arg i, seed => [(i, seed)]
  | neg e, seed => e.contributions (.neg seed)
  | abs e, seed => e.contributions (.mul seed (.sign e))
  | sign e, _ => e.contributions (.const 0)
  | sqrt e, seed => e.contributions (.div seed (.mul (.const 2.0) (.sqrt e)))
  | add a b, seed => a.contributions seed ++ b.contributions seed
  | sub a b, seed => a.contributions seed ++ b.contributions (.neg seed)
  | mul a b, seed => a.contributions (.mul seed b) ++ b.contributions (.mul seed a)
  | div a b, seed =>
    a.contributions (.div seed b) ++ b.contributions (.mul (.neg seed) (.div (.div a b) b))

/-- The sum of expressions, from the left; nothing sums up to zero. -/
def total : List (Expr α) → Expr α
  | [] => .const 0
  | e :: rest => rest.foldl .add e

/-- The seeds that pick output `index` out of `count` outputs. -/
def seeds (count index : Nat) : List (Expr α) :=
  (List.range count).map fun i ↦ .const (if i = index then 1 else 0)

/-- The gradient of output `index` of several expressions in `n` components. Every occurrence of a component
contributes to its own entry and zero to all others. This and `hessian` stand for the differentiation that a library
of arrays provides; which expressions it builds is its own affair, and proofs use only that their values are exact
derivatives. -/
def gradient (n : Nat) (outputs : List (Expr α)) (index : Nat) : List (Expr α) :=
  let parts := (outputs.zipWith contributions (seeds outputs.length index)).flatten
  (List.range n).map fun k ↦ total (parts.map fun (i, part) ↦ if i = k then part else .const 0)

/-- The hessian of output `index` of several expressions in `n` components: the gradient of each entry of the
gradient. -/
def hessian (n : Nat) (outputs : List (Expr α)) (index : Nat) : List (List (Expr α)) :=
  let slopes := gradient n outputs index
  (List.range n).map (gradient n slopes)

end Expr

end Extremum
