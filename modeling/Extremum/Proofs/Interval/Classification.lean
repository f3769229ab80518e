import Extremum.Proofs.Interval.Containment

/-!
# The flags of an interval

Each flag of an interval is computed from its limits alone, and is to say something about the values at distance zero
and about those outside. Three of the four look for infinite limits whatever their sign is, so that an interval that
holds nothing but an infinite value is taken for one without limits. All other intervals have the right flags
(`classified_iff`), and the flag of equalities is always right.
-/

namespace Extremum

namespace Binary64

variable {x : Float}

theorem unpack_neg_infinity : (-Unbounded.infinity : Float).toModel.unpack = .infinity .negative := by rfl

theorem integer_infinity : integer Unbounded.infinity = limit :=
  integer_of_infinity unpack_infinity

theorem integer_neg_infinity : integer (-Unbounded.infinity) = -limit :=
  integer_of_infinity unpack_neg_infinity

theorem beq_infinity_iff (hx : x.isNaN = false) : (x == Unbounded.infinity) = true ↔ integer x = limit := by
  rw [beq_iff_integer hx (by decide), integer_infinity]

theorem beq_neg_infinity_iff (hx : x.isNaN = false) :
    (x == -Unbounded.infinity) = true ↔ integer x = -limit := by
  rw [beq_iff_integer hx (by decide), integer_neg_infinity]

/-- A defined number is infinite if it stands for the limit. -/
theorem isInfinite_iff (hx : x.isNaN = false) :
    Unbounded.isInfinite x = true ↔ integer x = limit ∨ integer x = -limit := by
  unfold Unbounded.isInfinite
  rw [Bool.or_eq_true, ← beq_infinity_iff hx, ← beq_neg_infinity_iff hx]

end Binary64

open Binary64

namespace Interval

/-- What the flags of an interval are to say. -/
structure Classified (i : Interval Float) : Prop where
  /-- A free interval has all defined values at distance zero. -/
  free : i.isFree = true ↔ ∀ v, v.isNaN = false → (i.distance v == 0) = true
  /-- An interval is bounded from below if some defined value lies strictly below it. -/
  lower : i.isLowerBounded = true ↔ ∃ v, v.isNaN = false ∧ v < i.lower ∧ 0 < i.distance v
  /-- An interval is bounded from above if some defined value lies strictly above it. -/
  upper : i.isUpperBounded = true ↔ ∃ v, v.isNaN = false ∧ i.upper < v ∧ 0 < i.distance v
  /-- An equality has no two different values at distance zero. -/
  equality : i.isEquality = true ↔
    ∀ v w, (i.distance v == 0) = true → (i.distance w == 0) = true → (v == w) = true

/-- An interval that holds one value only, which is infinite. -/
def AtInfinity (i : Interval Float) : Prop :=
  (i.lower == Unbounded.infinity) = true ∨ (i.upper == -Unbounded.infinity) = true

variable {i : Interval Float}

/-! ## Values inside and outside -/

/-- Below an interval there is something just if its lower limit is not the least number. -/
theorem exists_below_iff : (∃ v, v.isNaN = false ∧ v < i.lower ∧ 0 < i.distance v) ↔ integer i.lower ≠ -limit := by
  have hbounds := integer_bounds i.lower
  constructor
  · rintro ⟨v, hv, hbelow, -⟩
    rw [lt_iff_integer hv i.lower_defined] at hbelow
    have hleast := (integer_bounds v).1
    omega
  · intro hlower
    have hbelow : -Unbounded.infinity < i.lower := by
      rw [lt_iff_integer (by decide) i.lower_defined, integer_neg_infinity]
      omega
    refine ⟨_, by decide, hbelow, ?_⟩
    rw [distance_of_lt_lower hbelow]
    exact sub_pos hbelow

/-- Above an interval there is something just if its upper limit is not the largest number. -/
theorem exists_above_iff : (∃ v, v.isNaN = false ∧ i.upper < v ∧ 0 < i.distance v) ↔ integer i.upper ≠ limit := by
  have hbounds := integer_bounds i.upper
  constructor
  · rintro ⟨v, hv, habove, -⟩
    rw [lt_iff_integer i.upper_defined hv] at habove
    have hgreatest := (integer_bounds v).2
    omega
  · intro hupper
    have habove : i.upper < Unbounded.infinity := by
      rw [lt_iff_integer i.upper_defined (by decide), integer_infinity]
      omega
    refine ⟨_, by decide, habove, ?_⟩
    rw [distance_of_upper_lt habove]
    exact sub_pos habove

/-- Nothing is outside an interval just if both limits are infinite, each on its side. -/
theorem forall_distance_iff : (∀ v, v.isNaN = false → (i.distance v == 0) = true) ↔
    integer i.lower = -limit ∧ integer i.upper = limit := by
  simp only [beq_distance_zero_iff]
  constructor
  · intro h
    have hleast := (h _ (by decide : (-Unbounded.infinity : Float).isNaN = false)).1
    have hgreatest := (h _ (by decide : (Unbounded.infinity : Float).isNaN = false)).2
    rw [le_iff_integer i.lower_defined (by decide), integer_neg_infinity] at hleast
    rw [le_iff_integer (by decide) i.upper_defined, integer_infinity] at hgreatest
    have hlower := (integer_bounds i.lower).1
    have hupper := (integer_bounds i.upper).2
    omega
  · rintro ⟨hlower, hupper⟩ v hv
    rw [le_iff_integer i.lower_defined hv, le_iff_integer hv i.upper_defined, hlower, hupper]
    exact integer_bounds v

/-! ## The flags -/

/-- The flag for equalities tells whether all values of the interval are equal. -/
theorem isEquality_iff : i.isEquality = true ↔
    ∀ v w, (i.distance v == 0) = true → (i.distance w == 0) = true → (v == w) = true := by
  have hflag : i.isEquality = true ↔ integer i.lower = integer i.upper :=
    beq_iff_integer i.lower_defined i.upper_defined
  simp only [beq_distance_zero_iff]
  rw [hflag]
  constructor
  · rintro hsame v w ⟨hv, hv'⟩ ⟨hw, hw'⟩
    have hdv := (defined_of_le hv).2
    have hdw := (defined_of_le hw).2
    rw [le_iff_integer i.lower_defined hdv] at hv
    rw [le_iff_integer hdv i.upper_defined] at hv'
    rw [le_iff_integer i.lower_defined hdw] at hw
    rw [le_iff_integer hdw i.upper_defined] at hw'
    rw [beq_iff_integer hdv hdw]
    omega
  · intro h
    have hlimits := h i.lower i.upper ⟨Binary64.le_refl i.lower_defined, i.lower_le_upper⟩
      ⟨i.lower_le_upper, Binary64.le_refl i.upper_defined⟩
    exact (beq_iff_integer i.lower_defined i.upper_defined).1 hlimits

/-- The flag tells whether the lower limit is finite, whatever infinity it is otherwise. -/
theorem isLowerBounded_iff : i.isLowerBounded = true ↔ integer i.lower ≠ limit ∧ integer i.lower ≠ -limit := by
  unfold isLowerBounded
  rw [Bool.not_eq_true', ← Bool.not_eq_true, isInfinite_iff i.lower_defined, not_or]

theorem isUpperBounded_iff : i.isUpperBounded = true ↔ integer i.upper ≠ limit ∧ integer i.upper ≠ -limit := by
  unfold isUpperBounded
  rw [Bool.not_eq_true', ← Bool.not_eq_true, isInfinite_iff i.upper_defined, not_or]

/-- The flag for free intervals does not look at which infinity the limits are. -/
theorem isFree_iff : i.isFree = true ↔
    (integer i.lower = limit ∨ integer i.lower = -limit) ∧ (integer i.upper = limit ∨ integer i.upper = -limit) := by
  unfold isFree
  rw [Bool.and_eq_true, isInfinite_iff i.lower_defined, isInfinite_iff i.upper_defined]

/-- An interval holds one infinite value only if a limit is infinite on the wrong side. -/
theorem atInfinity_iff : i.AtInfinity ↔ integer i.lower = limit ∨ integer i.upper = -limit := by
  unfold AtInfinity
  rw [beq_infinity_iff i.lower_defined, beq_neg_infinity_iff i.upper_defined]

/-- The flags are right for exactly those intervals that hold a finite value or more than one; whether an interval is
an equality is flagged right in any case. -/
theorem classified_iff (i : Interval Float) : (i.Classified ↔ ¬i.AtInfinity) ∧
    (i.isEquality = true ↔
      ∀ v w, (i.distance v == 0) = true → (i.distance w == 0) = true → (v == w) = true) := by
  refine ⟨?_, isEquality_iff⟩
  have hlimit := limit_pos
  have hordered : integer i.lower ≤ integer i.upper :=
    (le_iff_integer i.lower_defined i.upper_defined).1 i.lower_le_upper
  rw [atInfinity_iff]
  constructor
  · rintro h hinfinite
    have hlower := h.lower
    have hupper := h.upper
    rw [isLowerBounded_iff, exists_below_iff] at hlower
    rw [isUpperBounded_iff, exists_above_iff] at hupper
    omega
  · intro hproper
    constructor
    case free => rw [isFree_iff, forall_distance_iff]; omega
    case lower => rw [isLowerBounded_iff, exists_below_iff]; omega
    case upper => rw [isUpperBounded_iff, exists_above_iff]; omega
    case equality => exact isEquality_iff

def infinitePoint : Interval Float :=
  ⟨Unbounded.infinity, Unbounded.infinity, by decide, by decide, by decide⟩

/-- It is not true that every interval has the right flags: one that begins at the infinite value is not flagged as
bounded from below, although zero lies strictly below it. -/
theorem not_classified_of_atLeast : ¬∀ (lower : Float) (i : Interval Float), atLeast lower = .ok i → i.Classified := by
  intro hall
  have hbuilt : atLeast Unbounded.infinity = .ok infinitePoint := ofLimits_eq_ok_iff.2 ⟨rfl, rfl⟩
  have hbelow : ∃ v, v.isNaN = false ∧ v < infinitePoint.lower ∧ 0 < infinitePoint.distance v :=
    ⟨0, by decide, by decide, by decide⟩
  have hflag : infinitePoint.isLowerBounded = false := by decide
  rw [(hall _ _ hbuilt).lower.2 hbelow] at hflag
  cases hflag

end Interval

end Extremum
