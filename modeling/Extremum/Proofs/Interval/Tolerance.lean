import Extremum.Proofs.Binary64.Exact
import Extremum.Proofs.Interval.Containment

/-!
# Intervals and tolerances

That a value is within a tolerance of an interval is said in two ways: it lies in the interval widened by the
tolerance, or its distance to the interval is at most the tolerance. One of them computes with the limits, the other
with the value, and they come to the same if neither computation is rounded (`contains_iff_distance_le`). Without a
tolerance nothing is rounded in any case, so that the values at distance zero are those that the interval contains.
-/

namespace Extremum.Interval

open Binary64

variable {i : Interval Float} {v tolerance : Float}

/-- Nothing is rounded when an interval is widened by a tolerance and the distance of a value is taken. -/
structure Unrounded (i : Interval Float) (v tolerance : Float) : Prop where
  /-- The lower limit is moved exactly. -/
  lower : ExactSub i.lower tolerance
  /-- The upper limit is moved exactly. -/
  upper : ExactAdd i.upper tolerance
  /-- The distance of a value below is exact. -/
  below : v < i.lower → ExactSub i.lower v
  /-- The distance of a value above is exact. -/
  above : i.upper < v → ExactSub v i.upper

section Finite

variable (ht : tolerance.isFinite = true) (hnonneg : 0 ≤ tolerance)

include ht hnonneg

/-- A value in the interval is in the widened one, also if its limits are rounded. -/
theorem contains_of_contains_zero (h : i.contains v 0 = true) : i.contains v tolerance = true := by
  obtain ⟨hlower, hupper⟩ := contains_zero_iff_le.1 h
  exact contains_iff_le.2 ⟨Binary64.le_trans (sub_le_of_nonneg i.lower_defined ht hnonneg) hlower,
    Binary64.le_trans hupper (le_add_of_nonneg i.upper_defined ht hnonneg)⟩

/-- A value below the interval is not above the widened one. -/
theorem contains_iff_of_lt_lower (hbelow : v < i.lower) : i.contains v tolerance = true ↔ i.lower - tolerance ≤ v := by
  have hupper : v ≤ i.upper + tolerance :=
    Binary64.le_trans (Binary64.le_of_lt hbelow)
      (Binary64.le_trans i.lower_le_upper (le_add_of_nonneg i.upper_defined ht hnonneg))
  rw [contains_iff_le, and_iff_left hupper]

/-- A value above the interval is not below the widened one. -/
theorem contains_iff_of_upper_lt (habove : i.upper < v) : i.contains v tolerance = true ↔ v ≤ i.upper + tolerance := by
  have hlower : i.lower - tolerance ≤ v :=
    Binary64.le_trans (sub_le_of_nonneg i.lower_defined ht hnonneg)
      (Binary64.le_trans i.lower_le_upper (Binary64.le_of_lt habove))
  rw [contains_iff_le, and_iff_right hlower]

/-- An interval widened by a tolerance contains the values whose distance is at most the tolerance. -/
theorem contains_iff_distance_le (hexact : i.Unrounded v tolerance) :
    i.contains v tolerance = true ↔ i.distance v ≤ tolerance := by
  cases hv : v.isNaN with
  | true =>
    have hfar : ¬i.distance v ≤ tolerance := by
      rw [distance_of_isNaN hv]
      exact not_le_of_unpack_infinity unpack_infinity ht
    exact iff_of_false (not_contains_of_isNaN hv) hfar
  | false =>
    by_cases hbelow : v < i.lower
    · calc i.contains v tolerance = true ↔ i.lower - tolerance ≤ v := contains_iff_of_lt_lower ht hnonneg hbelow
        _ ↔ i.lower - v ≤ tolerance := (sub_le_iff_sub_le hbelow ht (hexact.below hbelow) hexact.lower).symm
        _ ↔ i.distance v ≤ tolerance := by rw [distance_of_lt_lower hbelow]
    · by_cases habove : i.upper < v
      · calc i.contains v tolerance = true ↔ v ≤ i.upper + tolerance := contains_iff_of_upper_lt ht hnonneg habove
          _ ↔ v - i.upper ≤ tolerance := (sub_le_iff_le_add habove ht (hexact.above habove) hexact.upper).symm
          _ ↔ i.distance v ≤ tolerance := by rw [distance_of_upper_lt habove]
      · have hinside : i.contains v 0 = true := (contains_zero_iff hv).2 ⟨hbelow, habove⟩
        exact iff_of_true (contains_of_contains_zero ht hnonneg hinside)
          (Binary64.le_trans (distance_le_zero_iff.2 hinside) hnonneg)

end Finite

/-! ## Main statement -/

/-- What the distance of a value to an interval says of whether the interval contains it. -/
structure Measured (i : Interval Float) (v : Float) : Prop where
  /-- A distance is defined. -/
  defined : (i.distance v).isNaN = false
  /-- A distance is not negative. -/
  nonneg : ¬i.distance v < 0
  /-- An undefined value is infinitely far away. -/
  undefined : v.isNaN = true → i.distance v = Unbounded.infinity
  /-- The values at distance zero are those that the interval contains. -/
  zero_iff : (i.distance v == 0) = true ↔ i.contains v 0 = true
  /-- The values at a distance of at most a tolerance are those that the widened interval contains. -/
  within_iff : ∀ tolerance, tolerance.isFinite = true → 0 ≤ tolerance → i.Unrounded v tolerance →
    (i.contains v tolerance = true ↔ i.distance v ≤ tolerance)

/-- The distances to an interval and the values that it contains describe the same set. -/
theorem measured (i : Interval Float) (v : Float) : i.Measured v := by
  have hnonneg := distance_nonneg i v
  constructor
  case defined => exact (defined_of_le hnonneg).2
  case nonneg => exact fun hnegative ↦ not_le_of_lt hnegative hnonneg
  case undefined => exact distance_of_isNaN
  case zero_iff => rw [beq_distance_zero_iff, contains_zero_iff_le]
  case within_iff => exact fun _ hfinite htolerance ↦ contains_iff_distance_le hfinite htolerance

def oneToFive : Interval Float :=
  ⟨1, 5, by decide, by decide, by decide⟩

/-- A value half above it is in it if it is widened by a half, an infinite one is not. -/
theorem measured_oneToFive : oneToFive.Unrounded 5.5 0.5 ∧ oneToFive.contains 5.5 0.5 = true ∧
    oneToFive.distance 5.5 ≤ 0.5 ∧ oneToFive.Unrounded Unbounded.infinity 0.5 ∧
    oneToFive.contains Unbounded.infinity 0.5 = false ∧ ¬oneToFive.distance Unbounded.infinity ≤ 0.5 := by
  have hfinite : (0.5 : Float).isFinite = true := by decide
  have hnonneg : (0 : Float) ≤ 0.5 := by decide
  have hlower : ExactSub 1 0.5 := fun _ _ ↦ ⟨by decide, by decide +kernel⟩
  have hupper : ExactAdd 5 0.5 := fun _ _ ↦ ⟨by decide, by decide +kernel⟩
  have hvalue : oneToFive.Unrounded 5.5 0.5 :=
    ⟨hlower, hupper, fun h ↦ absurd h (by decide), fun _ _ _ ↦ ⟨by decide, by decide +kernel⟩⟩
  have hinfinite : oneToFive.Unrounded Unbounded.infinity 0.5 :=
    ⟨hlower, hupper, fun h ↦ absurd h (by decide), fun _ h ↦ absurd h (by decide)⟩
  have hcontains : oneToFive.contains 5.5 0.5 = true := by decide
  have houtside : oneToFive.contains Unbounded.infinity 0.5 = false := by decide
  have hwithin := (measured oneToFive 5.5).within_iff 0.5 hfinite hnonneg hvalue
  have hbeyond := (measured oneToFive Unbounded.infinity).within_iff 0.5 hfinite hnonneg hinfinite
  refine ⟨hvalue, hcontains, hwithin.1 hcontains, hinfinite, houtside, fun hle ↦ ?_⟩
  rw [hbeyond.2 hle] at houtside
  cases houtside

end Extremum.Interval
