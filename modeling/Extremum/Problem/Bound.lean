import Extremum.Interval

/-!
# Bounds and scales as callers give them

A bound is an interval or a pair of limits, and several bounds are a list of those. A pair of numbers is one
bound and not a list of two. A scale is a positive finite number.
-/

namespace Extremum

/-- What a caller gave where a bound is expected. -/
inductive BoundPart (α : Type) [Unbounded α] where
  | interval (i : Interval α)
  /-- A pair whose items have to be read as limits. -/
  | pair (lower upper : Reading α α)
  /-- A tuple that is no pair. -/
  | tuple
  /-- Anything else. -/
  | other

/-- What a caller gave where bounds of several outputs are expected. -/
inductive BoundsPart (α : Type) [Unbounded α] where
  | interval (i : Interval α)
  /-- A tuple: its items, and the tuple as a single bound. -/
  | tuple (items : List (BoundPart α)) (whole : BoundPart α)
  /-- The outcome of listing anything else. -/
  | sequence (items : Reading α (List (BoundPart α)))

/-- What a caller gave where scales of several outputs are expected. -/
inductive ScalesPart (α : Type) where
  | number (scale : Written α α)
  | sequence (items : Reading α (List (Written α α)))

variable {α : Type} [Unbounded α]

namespace BoundPart

/-- The interval that a bound stands for; `what` says what it is a bound of. -/
def read (what : String) : BoundPart α → Except (Error α) (Interval α)
  | interval i => .ok i
  | pair lower upper => do
    let lower ← lower
    let upper ← upper
    Interval.ofLimits lower upper
  | tuple | other => .error (.intervalExpected what)

/-- Whether this is an interval or a tuple of any length. -/
def isBoundLike : BoundPart α → Bool
  | interval _ | pair .. | tuple => true
  | other => false

end BoundPart

namespace BoundsPart

/-- The single bounds; a tuple that holds anything but intervals and tuples is itself one bound. -/
def items : BoundsPart α → Reading α (List (BoundPart α))
  | interval i => .ok [.interval i]
  | tuple items whole => .ok (if items.all (·.isBoundLike) then items else [whole])
  | sequence items => items

end BoundsPart

def ScalesPart.items : ScalesPart α → Reading α (List (Written α α))
  | number scale => .ok [scale]
  | sequence items => items

/-- Reads a scale, which has to be positive and finite; `what` says what it is a scale of. -/
def readScale (what : String) (scale : Written α α) : Except (Error α) α := do
  let value ← scale.value
  if Scalar.isFinite value && !(value ≤ 0 : Bool) then return value
  else throw (.badScale what scale.shown)

end Extremum
