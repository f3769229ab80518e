import Extremum.Proofs.Binary64.Monotone
import Extremum.Proofs.Interval

/-!
# Intervals inside others

An interval holds the values from its lower limit to its upper one, and lies inside another one exactly if its limits
do (`subset_iff`). Nothing is further from a wider interval (`distance_le_of_subset`), and neither are many values
together from wider intervals (`totalDistance_le_of_subset`).
-/

namespace Extremum

open Binary64

namespace Interval

/-! ## Values and distances -/

variable {i j : Interval Float} {v : Float}

theorem lower_le_upper (i : Interval Float) : i.lower ≤ i.upper :=
  (le_iff_not_lt i.lower_defined i.upper_defined).2 i.not_inverted

/-- Without a tolerance, membership is a matter of the limits alone. -/
theorem contains_zero_iff_le : i.contains v 0 = true ↔ i.lower ≤ v ∧ v ≤ i.upper := by
  cases hv : v.isNaN with
  | true =>
    refine iff_of_false (not_contains_of_isNaN hv) fun h ↦ ?_
    have hdefined := (defined_of_le h.1).2
    rw [hv] at hdefined
    cases hdefined
  | false =>
    rw [contains_zero_iff hv, le_iff_not_lt i.lower_defined hv, le_iff_not_lt hv i.upper_defined]

/-- Exactly the values of an interval are at no distance from it. -/
theorem beq_distance_zero_iff : (i.distance v == 0) = true ↔ i.lower ≤ v ∧ v ≤ i.upper := by
  rw [beq_zero_iff (distance_nonneg i v), distance_le_zero_iff, contains_zero_iff_le]

/-- Below an interval the distance is the one to its lower limit. -/
theorem distance_of_lt_lower (h : v < i.lower) : i.distance v = i.lower - v := by
  have hdefined : ¬Scalar.isNaN v = true := by
    change ¬v.isNaN = true
    rw [(defined_of_le (Binary64.le_of_lt h)).1]
    exact Bool.false_ne_true
  unfold distance
  rw [if_neg hdefined, if_pos h]

/-- Above an interval the distance is the one to its upper limit. -/
theorem distance_of_upper_lt (h : i.upper < v) : i.distance v = v - i.upper := by
  have hdefined : ¬Scalar.isNaN v = true := by
    change ¬v.isNaN = true
    rw [(defined_of_le (Binary64.le_of_lt h)).2]
    exact Bool.false_ne_true
  have habove : ¬v < i.lower := fun hbelow ↦
    Binary64.not_le_of_lt hbelow (Binary64.le_trans i.lower_le_upper (Binary64.le_of_lt h))
  unfold distance
  rw [if_neg hdefined, if_neg habove, if_pos h]

/-! ## Wider intervals -/

/-- Every value of an interval is one of another. -/
instance : HasSubset (Interval Float) where
  Subset i j := ∀ v, i.contains v 0 = true → j.contains v 0 = true

/-- The limits themselves are values, so that the limits of a wider interval lie outside. -/
theorem subset_iff : i ⊆ j ↔ j.lower ≤ i.lower ∧ i.upper ≤ j.upper := by
  constructor
  · intro h
    have hlower := h i.lower (contains_zero_iff_le.2 ⟨Binary64.le_refl i.lower_defined, i.lower_le_upper⟩)
    have hupper := h i.upper (contains_zero_iff_le.2 ⟨i.lower_le_upper, Binary64.le_refl i.upper_defined⟩)
    exact ⟨(contains_zero_iff_le.1 hlower).1, (contains_zero_iff_le.1 hupper).2⟩
  · rintro ⟨hlower, hupper⟩ v hv
    obtain ⟨hleft, hright⟩ := contains_zero_iff_le.1 hv
    exact contains_zero_iff_le.2 ⟨Binary64.le_trans hlower hleft, Binary64.le_trans hright hupper⟩

theorem subset_refl (i : Interval Float) : i ⊆ i :=
  fun _ h ↦ h

/-- Nothing is further from a wider interval. -/
theorem distance_le_of_subset (h : i ⊆ j) (v : Float) : j.distance v ≤ i.distance v := by
  obtain ⟨hlower, hupper⟩ := subset_iff.1 h
  cases hv : v.isNaN with
  | true =>
    rw [distance_of_isNaN hv, distance_of_isNaN hv]
    exact Binary64.le_refl (by decide)
  | false =>
    by_cases hbelow : v < j.lower
    · have hbelow' : v < i.lower := Binary64.lt_of_lt_of_le hbelow hlower
      rw [distance_of_lt_lower hbelow, distance_of_lt_lower hbelow']
      exact sub_le_sub hbelow hlower (Binary64.le_refl hv)
    · by_cases habove : j.upper < v
      · have habove' : i.upper < v := Binary64.lt_of_le_of_lt hupper habove
        rw [distance_of_upper_lt habove, distance_of_upper_lt habove']
        exact sub_le_sub habove (Binary64.le_refl hv) hupper
      · have hinside : j.distance v ≤ 0 :=
          distance_le_zero_iff.2 ((contains_zero_iff hv).2 ⟨hbelow, habove⟩)
        exact Binary64.le_trans hinside (distance_nonneg i v)

/-- Wider intervals are nearer to all values, and so are all of them together. -/
theorem totalDistance_le_of_subset {bounds wider : List (Interval Float)}
    (h : List.Forall₂ (· ⊆ ·) bounds wider) (values : List Float) :
    totalDistance wider values ≤ totalDistance bounds values := by
  refine sum_le_sum ?_ (zipWith_distance_nonneg wider values) (zipWith_distance_nonneg bounds values)
  induction h generalizing values with
  | nil => exact .nil
  | cons hij _ ih =>
    cases values with
    | nil => exact .nil
    | cons v rest => exact .cons (distance_le_of_subset hij v) (ih rest)

end Interval

end Extremum
