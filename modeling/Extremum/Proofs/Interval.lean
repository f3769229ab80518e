import Extremum.Interval
import Extremum.Problem.Basic
import Extremum.Proofs.Binary64.Arithmetic
import Mathlib.Data.List.Forall2

/-!
# Distances to intervals

A distance is defined and not negative, whatever the limits and the value are, also if some of them are infinite.
It is infinite for an undefined value and zero exactly for the values that the interval contains. Distances of
many values can be added up without losing any of this: the sum is infinite if one of them is, and zero exactly
if all of them are (`totalDistance_le_zero_iff`).
-/

namespace Extremum

open Binary64

/-! ## One value -/

namespace Interval

variable {i : Interval Float} {v tolerance : Float}

/-- A distance is defined and not negative, also that of an undefined value. -/
theorem distance_nonneg (i : Interval Float) (v : Float) : 0 ≤ i.distance v := by
  unfold distance
  split
  · exact infinity_nonneg
  · split
    · exact Binary64.le_of_lt (Binary64.sub_pos ‹_›)
    · split
      · exact Binary64.le_of_lt (Binary64.sub_pos ‹_›)
      · exact zero_le_zero

/-- The undefined scalar is infinitely far from every interval. -/
theorem distance_of_isNaN (hv : v.isNaN = true) : i.distance v = Unbounded.infinity := by
  unfold distance
  exact if_pos hv

/-- With a tolerance, both limits are moved by it, and the results are rounded. -/
theorem contains_iff_le : i.contains v tolerance = true ↔ i.lower - tolerance ≤ v ∧ v ≤ i.upper + tolerance := by
  unfold contains
  rw [Bool.and_eq_true, decide_eq_true_iff, decide_eq_true_iff]

/-- Widening by nothing leaves the limits where they are. -/
theorem contains_zero_iff (hv : v.isNaN = false) :
    i.contains v 0 = true ↔ ¬v < i.lower ∧ ¬i.upper < v := by
  obtain ⟨hlower, hlowest⟩ := integer_sub_zero i.lower_defined
  obtain ⟨hupper, huppest⟩ := integer_add_zero i.upper_defined
  have hleft : i.lower - 0 ≤ v ↔ ¬v < i.lower := by
    rw [le_iff_integer hlower hv, hlowest, ← le_iff_integer i.lower_defined hv,
      le_iff_not_lt i.lower_defined hv]
  have hright : v ≤ i.upper + 0 ↔ ¬i.upper < v := by
    rw [le_iff_integer hv hupper, huppest, ← le_iff_integer hv i.upper_defined,
      le_iff_not_lt hv i.upper_defined]
  rw [contains_iff_le, hleft, hright]

/-- No tolerance is enough for an undefined value. -/
theorem not_contains_of_isNaN (hv : v.isNaN = true) : ¬i.contains v tolerance = true := by
  intro h
  have hdefined := (defined_of_le (contains_iff_le.1 h).1).2
  rw [hv] at hdefined
  cases hdefined

/-- Exactly the values inside are at distance zero. -/
theorem distance_le_zero_iff : i.distance v ≤ 0 ↔ i.contains v 0 = true := by
  cases hv : v.isNaN with
  | true =>
    rw [distance_of_isNaN hv]
    exact ⟨fun h ↦ absurd h not_infinity_le_zero, fun h ↦ absurd h (not_contains_of_isNaN hv)⟩
  | false =>
    have hdefined : ¬Scalar.isNaN v = true := by
      change ¬v.isNaN = true
      rw [hv]
      exact Bool.false_ne_true
    rw [contains_zero_iff hv]
    unfold distance
    rw [if_neg hdefined]
    by_cases hlower : v < i.lower
    · rw [if_pos hlower]
      exact ⟨fun h ↦ absurd h (Binary64.not_le_of_lt (Binary64.sub_pos hlower)), fun h ↦ absurd hlower h.1⟩
    · rw [if_neg hlower]
      by_cases hupper : i.upper < v
      · rw [if_pos hupper]
        exact ⟨fun h ↦ absurd h (Binary64.not_le_of_lt (Binary64.sub_pos hupper)), fun h ↦ absurd hupper h.2⟩
      · rw [if_neg hupper]
        exact ⟨fun _ ↦ ⟨hlower, hupper⟩, fun _ ↦ zero_le_zero⟩

/-! ## Many values -/

section Many

variable {bounds : List (Interval Float)} {values : List Float}

theorem zipWith_distance_nonneg (bounds : List (Interval Float)) (values : List Float) :
    ∀ x ∈ bounds.zipWith (fun bound v ↦ bound.distance v) values, 0 ≤ x := by
  intro x hx
  rw [← List.map_uncurry_zip_eq_zipWith, List.mem_map] at hx
  obtain ⟨⟨bound, v⟩, -, rfl⟩ := hx
  exact distance_nonneg bound v

/-- Distances add up to something that is defined and not negative. -/
theorem totalDistance_nonneg (bounds : List (Interval Float)) (values : List Float) :
    0 ≤ totalDistance bounds values :=
  sum_nonneg (zipWith_distance_nonneg bounds values)

/-- Each value lies in the interval at its position, and there are as many values as intervals. -/
def AllContain (bounds : List (Interval Float)) (values : List Float) : Prop :=
  List.Forall₂ (fun bound v ↦ bound.contains v 0 = true) bounds values

/-- Values are at distance zero exactly if each of them is in its interval. -/
theorem totalDistance_le_zero_iff (hlength : bounds.length = values.length) :
    totalDistance bounds values ≤ 0 ↔ AllContain bounds values := by
  calc totalDistance bounds values ≤ 0
      ↔ ∀ x ∈ bounds.zipWith (fun bound v ↦ bound.distance v) values, x ≤ 0 := by
        unfold totalDistance
        exact sum_le_zero_iff (zipWith_distance_nonneg bounds values)
    _ ↔ ∀ pair ∈ bounds.zip values, pair.1.distance pair.2 ≤ 0 := by
        rw [← List.map_uncurry_zip_eq_zipWith]
        exact List.forall_mem_map
    _ ↔ AllContain bounds values := by
        unfold AllContain
        rw [List.forall₂_iff_zip, and_iff_right hlength]
        exact ⟨fun h bound v hpair ↦ distance_le_zero_iff.1 (h (bound, v) hpair),
          fun h pair hpair ↦ distance_le_zero_iff.2 (h hpair)⟩

/-- Testing each value comes out as adding up distances does. -/
theorem all_contains_eq (hlength : bounds.length = values.length) :
    ((bounds.zip values).all fun pair ↦ pair.1.contains pair.2 0) = (totalDistance bounds values == 0) := by
  have hall : ((bounds.zip values).all fun pair ↦ pair.1.contains pair.2 0) = true ↔ AllContain bounds values := by
    unfold AllContain
    rw [List.forall₂_iff_zip, and_iff_right hlength, List.all_eq_true]
    exact ⟨fun h bound v hpair ↦ h (bound, v) hpair, fun h pair hpair ↦ h hpair⟩
  rw [Bool.eq_iff_iff, hall, beq_zero_iff (totalDistance_nonneg bounds values), totalDistance_le_zero_iff hlength]

/-- One undefined value is infinitely far from any intervals. -/
theorem totalDistance_of_isNaN (hlength : bounds.length = values.length)
    (h : ∃ v ∈ values, v.isNaN = true) : totalDistance bounds values = Unbounded.infinity := by
  obtain ⟨v, hv, hundefined⟩ := h
  obtain ⟨position, hposition, rfl⟩ := List.mem_iff_getElem.1 hv
  refine sum_of_mem_infinity (zipWith_distance_nonneg bounds values) ?_
  rw [List.mem_iff_getElem]
  refine ⟨position, ?_, ?_⟩
  · rw [List.length_zipWith]
    omega
  · rw [List.getElem_zipWith]
    exact distance_of_isNaN hundefined

end Many

end Interval

end Extremum
