/-!
# Scalars

The arithmetic of this library is written once, over a type of scalars that has the operations below.
Running programs use the double precision numbers; statements about exact arithmetic use the rationals.
A scalar type that also has an infinite element is `Unbounded`: limits of intervals and distances to them
live there.
-/

namespace Extremum

/-- The operations that evaluation, differentiation and comparison are written in. -/
class Scalar (α : Type) extends Zero α, One α, Add α, Sub α, Mul α, Div α, Neg α,
    OfScientific α, LT α, LE α, BEq α where
  /-- Comparisons are decided. -/
  decidableLT : DecidableLT α
  /-- Comparisons are decided. -/
  decidableLE : DecidableLE α
  /-- The absolute value. -/
  abs : α → α
  /-- The square root. -/
  sqrt : α → α
  /-- Whether a scalar is the result of an undefined operation. -/
  isNaN : α → Bool
  /-- Whether a scalar is neither infinite nor undefined. -/
  isFinite : α → Bool

attribute [reducible, instance] Scalar.decidableLT Scalar.decidableLE

/-- Scalars with an infinite element that is a proper value and lies above its own negation. -/
class Unbounded (α : Type) extends Scalar α where
  /-- The element above all others. -/
  infinity : α
  isNaN_infinity : isNaN infinity = false
  isNaN_neg_infinity : isNaN (-infinity) = false
  not_infinity_lt_neg : ¬ infinity < -infinity

namespace Scalar

variable {α : Type} [Scalar α]

/-- The sign of a scalar as a scalar: zero, and anything that cannot be compared, has sign zero. -/
def sign (x : α) : α :=
  if 0 < x then 1 else if x < 0 then -1 else 0

/-- The larger of two scalars; an undefined scalar wins over any other. -/
def max (x y : α) : α :=
  if isNaN x then x else if isNaN y then y else if x < y then y else x

/-- The largest of a list of scalars, and `start` when the list is empty. -/
def maximum (start : α) (xs : List α) : α :=
  match xs with
  | [] => start
  | x :: rest => rest.foldl max x

/-- The sum of a list, taken from the left and begun with zero. Every addition is rounded by itself, and what is lost
is not made up for: over doubles this is no compensated sum, and nothing proved of it is about one. -/
def sum (xs : List α) : α :=
  xs.foldl (· + ·) 0

/-- The sum of the products of corresponding entries, taken from the left and begun with zero. -/
def dot (xs ys : List α) : α :=
  sum (xs.zipWith (· * ·) ys)

/-- Whether `x` is within `atol + rtol * |y|` of a finite `y`, or equal to `y`. -/
def isClose (rtol atol x y : α) : Bool :=
  x == y || (isFinite y && decide (abs (x - y) ≤ atol + rtol * abs y))

end Scalar

namespace Unbounded

/-- Whether a scalar is one of the two infinite ones. -/
def isInfinite {α : Type} [Unbounded α] (x : α) : Bool :=
  x == infinity || x == -infinity

end Unbounded

/-- The largest natural number whose square is at most `n`. -/
def rootBelow (n : Nat) : Nat :=
  ((List.range (n + 1)).filter fun k ↦ k * k ≤ n).getLastD 0

instance : Scalar Float where
  zero := 0
  one := 1
  decidableLT := inferInstance
  decidableLE := inferInstance
  abs := Float.abs
  sqrt := Float.sqrt
  isNaN := Float.isNaN
  isFinite := Float.isFinite

instance : Unbounded Float where
  infinity := 1.0 / 0.0
  isNaN_infinity := by decide
  isNaN_neg_infinity := by decide
  not_infinity_lt_neg := by decide

/-- Exact arithmetic: every rational is finite, and a square root is that of numerator and denominator,
each rounded down. -/
instance : Scalar Rat where
  zero := 0
  one := 1
  decidableLT := inferInstance
  decidableLE := inferInstance
  abs q := if q < 0 then -q else q
  sqrt q := (rootBelow q.num.toNat : Rat) / (rootBelow q.den : Rat)
  isNaN _ := false
  isFinite _ := true

end Extremum
