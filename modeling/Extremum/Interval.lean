import Extremum.Error
import Extremum.Scalar

/-!
# Intervals

A closed range of scalars, possibly open to either side, which stands for a bound on an argument or on an
output of a constraint. `contains` and `distance` describe the same set: a value inside is at distance zero,
and the undefined scalar is infinitely far from every interval.
-/

namespace Extremum

/-- A closed range of scalars. -/
structure Interval (α : Type) [Unbounded α] where
  /-- The lower limit. -/
  lower : α
  /-- The upper limit. -/
  upper : α
  lower_defined : Scalar.isNaN lower = false
  upper_defined : Scalar.isNaN upper = false
  not_inverted : ¬ upper < lower

namespace Interval

variable {α : Type} [Unbounded α]

@[ext] theorem ext {i j : Interval α} (hlower : i.lower = j.lower) (hupper : i.upper = j.upper) :
    i = j := by
  cases i; cases j; simp_all

/-- The interval between two limits; undefined limits and limits in the wrong order are refused. -/
def ofLimits (lower upper : α) : Except (Error α) (Interval α) :=
  if hundefined : Scalar.isNaN lower ∨ Scalar.isNaN upper then .error .undefinedLimit
  else if hinverted : upper < lower then .error (.invertedInterval lower upper)
  else .ok ⟨lower, upper, by simp_all, by simp_all, hinverted⟩

/-- The interval that holds every value. -/
def free : Interval α :=
  ⟨-Unbounded.infinity, Unbounded.infinity, Unbounded.isNaN_neg_infinity, Unbounded.isNaN_infinity,
    Unbounded.not_infinity_lt_neg⟩

def atLeast (lower : α) : Except (Error α) (Interval α) :=
  ofLimits lower Unbounded.infinity

def atMost (upper : α) : Except (Error α) (Interval α) :=
  ofLimits (-Unbounded.infinity) upper

def exactly (value : α) : Except (Error α) (Interval α) :=
  ofLimits value value

/-- Whether both limits are infinite. -/
def isFree (i : Interval α) : Bool :=
  Unbounded.isInfinite i.lower && Unbounded.isInfinite i.upper

def isEquality (i : Interval α) : Bool :=
  i.lower == i.upper

/-- Whether the lower limit is a proper one. -/
def isLowerBounded (i : Interval α) : Bool :=
  !Unbounded.isInfinite i.lower

/-- Whether the upper limit is a proper one. -/
def isUpperBounded (i : Interval α) : Bool :=
  !Unbounded.isInfinite i.upper

/-- Whether a value lies in the interval widened by a tolerance; an undefined value never does. -/
def contains (i : Interval α) (value tolerance : α) : Bool :=
  i.lower - tolerance ≤ value && value ≤ i.upper + tolerance

/-- How far a value is from the interval: nothing inside, and infinitely far for an undefined value. -/
def distance (i : Interval α) (value : α) : α :=
  if Scalar.isNaN value then Unbounded.infinity
  else if value < i.lower then i.lower - value
  else if i.upper < value then value - i.upper
  else 0

theorem ofLimits_eq_ok_iff {lower upper : α} {i : Interval α} :
    ofLimits lower upper = .ok i ↔ i.lower = lower ∧ i.upper = upper := by
  constructor
  · intro h
    unfold ofLimits at h
    split at h
    · exact absurd h (by simp)
    · split at h
      · exact absurd h (by simp)
      · cases h
        exact ⟨rfl, rfl⟩
  · rintro ⟨rfl, rfl⟩
    have hdefined : ¬ (Scalar.isNaN i.lower = true ∨ Scalar.isNaN i.upper = true) := by
      simp [i.lower_defined, i.upper_defined]
    simp [ofLimits, hdefined, i.not_inverted]

def text (i : Interval Float) : String :=
  "(" ++ Decimal.general i.lower ++ ", " ++ Decimal.general i.upper ++ ")"

/-- The interval with its limits named and in full. -/
def fullText (i : Interval Float) : String :=
  "Interval(lower=" ++ Decimal.shortest i.lower ++ ", upper=" ++ Decimal.shortest i.upper ++ ")"

end Interval

end Extremum
