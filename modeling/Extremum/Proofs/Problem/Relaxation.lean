import Extremum.Proofs.Interval.Containment
import Extremum.Proofs.Problem.Feasibility

/-!
# Relaxing a problem

A problem relaxes another one over as many arguments if it has wider bounds and fewer constraints: each bound of an
argument contains the other's, and each constraint is one of the other's, in the same order, with bounds that
contain the other's. No point violates it more than the other problem (`violation_le_of_relaxes`), however the
violation is rounded, and whatever is infinite or undefined: the distance to a wider interval is smaller, and a sum
shrinks when summands shrink or are left out. Adding a constraint to a problem is the reverse of relaxing it.
-/

namespace Extremum

open Binary64

/-! ## Looser constraints -/

/-- A constraint on the same function, with a wider bound for each output. -/
structure Constraint.Loosens (d c : Constraint Float) : Prop where
  function : d.function = c.function
  bounds : List.Forall₂ (· ⊆ ·) c.bounds d.bounds

namespace Constraint

variable {c d : Constraint Float} {x : Tensor Float} {v : Float}

/-- A looser constraint is violated no more. -/
theorem Loosens.exists_violation (h : d.Loosens c) (hv : c.violation x = .ok v) :
    ∃ w, d.violation x = .ok w ∧ w ≤ v := by
  obtain ⟨value, hvalue, rfl⟩ := violation_eq_ok_iff.1 hv
  rw [← h.function] at hvalue
  exact ⟨_, violation_of_evaluate hvalue, Interval.totalDistance_le_of_subset h.bounds value⟩

end Constraint

/-! ## Relaxed problems -/

namespace Problem

variable {p q : Problem Float} {x : List Float}

/-- A problem over as many arguments as another one, with wider bounds for them, and with some of its constraints,
each of them looser than there. -/
structure Relaxes (q p : Problem Float) : Prop where
  inputSize : q.inputSize = p.inputSize
  bounds : List.Forall₂ (· ⊆ ·) p.bounds q.bounds
  constraints : List.SublistForall₂ Constraint.Loosens q.constraints p.constraints

/-- Wherever all constraints of the one problem have violations, those of the relaxed one have smaller ones. -/
theorem exists_violations {cs ds : List (Constraint Float)} {point : Tensor Float} {violations : List Float}
    (h : List.SublistForall₂ Constraint.Loosens ds cs)
    (hviolations : (cs.mapM fun c ↦ c.violation point) = .ok violations) :
    ∃ smaller, (ds.mapM fun d ↦ d.violation point) = .ok smaller ∧
      List.SublistForall₂ (· ≤ ·) smaller violations := by
  simp only [Reading.mapM_eq_ok_iff] at hviolations ⊢
  induction h generalizing violations with
  | nil => exact ⟨[], .nil, .nil⟩
  | cons hloosens _ ih =>
    cases hviolations with
    | cons hv hrest =>
      obtain ⟨w, hw, hle⟩ := hloosens.exists_violation hv
      obtain ⟨smaller, hsmaller, hall⟩ := ih hrest
      exact ⟨w :: smaller, .cons hw hsmaller, .cons hle hall⟩
  | cons_right _ ih =>
    cases hviolations with
    | cons hv hrest =>
      obtain ⟨smaller, hsmaller, hall⟩ := ih hrest
      exact ⟨smaller, hsmaller, .cons_right hall⟩

/-- The violation of a point is the distance of its entries and the violations of the constraints, in this order. -/
theorem violation_eq_ok_iff {v : Float} (hx : x.length = p.inputSize) : p.violation (.vector x) = .ok v ↔
    ∃ violations, (p.constraints.mapM fun c ↦ c.violation (.vector x)) = .ok violations ∧
      Interval.totalDistance p.bounds x + Scalar.sum violations = v := by
  unfold violation
  rw [Tensor.shape_vector, hx, if_pos rfl]
  exact Reading.map_eq_ok_iff

/-- A problem that relaxes another one has a violation wherever the other one has, and no larger one. -/
theorem Relaxes.exists_violation {v : Float} (h : q.Relaxes p) (hx : x.length = p.inputSize)
    (hv : p.violation (.vector x) = .ok v) : ∃ w, q.violation (.vector x) = .ok w ∧ w ≤ v := by
  obtain ⟨violations, hviolations, rfl⟩ := (violation_eq_ok_iff hx).1 hv
  obtain ⟨smaller, hsmaller, hall⟩ := exists_violations h.constraints hviolations
  have hnonneg := nonneg_of_mem_violations hsmaller
  refine ⟨_, violation_of_mapM (hx.trans h.inputSize.symm) hsmaller, ?_⟩
  exact add_le_add (Interval.totalDistance_nonneg q.bounds x) (sum_nonneg hnonneg)
    (Interval.totalDistance_le_of_subset h.bounds x)
    (sum_le_sum hall hnonneg (nonneg_of_mem_violations hviolations))

/-- What is feasible stays so when a problem is relaxed. -/
theorem Relaxes.isFeasible {tolerance : Reading Float Float} (h : q.Relaxes p) (hx : x.length = p.inputSize)
    (hfeasible : p.isFeasible (.vector x) tolerance = .ok true) :
    q.isFeasible (.vector x) tolerance = .ok true := by
  unfold Problem.isFeasible at hfeasible ⊢
  obtain ⟨v, hv, hfeasible⟩ := Reading.bind_eq_ok_iff.1 hfeasible
  obtain ⟨bound, hbound, hfeasible⟩ := Reading.bind_eq_ok_iff.1 hfeasible
  obtain ⟨w, hw, hle⟩ := h.exists_violation hx hv
  have hwithin : v ≤ bound := of_decide_eq_true (Except.ok.inj hfeasible)
  rw [hw, hbound]
  exact congrArg Except.ok (decide_eq_true (Binary64.le_trans hle hwithin))

/-- At every point at which all constraints of a problem have values, a problem that relaxes it is violated no
more, and is feasible within any tolerance within which the other one is. -/
theorem violation_le_of_relaxes (h : q.Relaxes p) (hx : x.length = p.inputSize)
    (hevaluate : ∀ c ∈ p.constraints, ∃ value, c.function.evaluate (.vector x) = .ok value) :
    ∃ v w, p.violation (.vector x) = .ok v ∧ q.violation (.vector x) = .ok w ∧ w ≤ v ∧
      ∀ tolerance, p.isFeasible (.vector x) tolerance = .ok true →
        q.isFeasible (.vector x) tolerance = .ok true := by
  have hmeasured : ∀ c ∈ p.constraints, ∃ v, c.violation (.vector x) = .ok v ∧ True := by
    intro c hc
    obtain ⟨value, hvalue⟩ := hevaluate c hc
    exact ⟨_, Constraint.violation_of_evaluate hvalue, trivial⟩
  obtain ⟨violations, hviolations, -⟩ := Reading.exists_mapM hmeasured
  have hv := violation_of_mapM hx hviolations
  obtain ⟨w, hw, hle⟩ := h.exists_violation hx hv
  exact ⟨_, w, hv, hw, hle, fun _ hfeasible ↦ h.isFeasible hx hfeasible⟩

def fromZero : Interval Float :=
  ⟨0, Unbounded.infinity, fromZeroToTwo.lower_defined, Unbounded.isNaN_infinity, by decide⟩

/-- A problem with two constraints over two arguments. -/
def strict : Problem Float where
  objective := .constant "level" 2 [0]
  objectiveClass := .tier .linear
  constraintClasses := [.tier .linear]
  bounds := [fromZeroToTwo, fromZero]
  scales := [1, 1]
  constraints := [⟨.constant "high" 2 [5], [fromZeroToTwo], [1]⟩,
    ⟨.shift "step" [1, 0], [fromZeroToTwo, fromZero], [1, 1]⟩]

/-- The problem without the first constraint, without a bound for the second argument, and with one bound less for
the constraint that is left. -/
def relaxed : Problem Float :=
  { strict with
    bounds := [fromZero, Interval.free]
    constraints := [⟨.shift "step" [1, 0], [fromZeroToTwo, Interval.free], [1, 1]⟩] }

theorem violation_le_of_relaxes_strict :
    relaxed.Relaxes strict ∧ ∃ v w, strict.violation (.vector [3, -Unbounded.infinity]) = .ok v ∧
      relaxed.violation (.vector [3, -Unbounded.infinity]) = .ok w ∧ w ≤ v := by
  have hwider : fromZeroToTwo ⊆ fromZero := Interval.subset_iff.2 (by decide)
  have hfree : fromZero ⊆ Interval.free := Interval.subset_iff.2 (by decide)
  have hloosens : Constraint.Loosens ⟨.shift "step" [1, 0], [fromZeroToTwo, Interval.free], [1, 1]⟩
      ⟨.shift "step" [1, 0], [fromZeroToTwo, fromZero], [1, 1]⟩ :=
    ⟨rfl, .cons fromZeroToTwo.subset_refl (.cons hfree .nil)⟩
  have hrelaxes : relaxed.Relaxes strict :=
    ⟨rfl, .cons hwider (.cons hfree .nil), .cons_right (.cons hloosens .nil)⟩
  have hevaluate : ∀ c ∈ strict.constraints, ∃ value,
      c.function.evaluate (.vector [3, -Unbounded.infinity]) = .ok value := by
    intro c hc
    rcases List.mem_cons.1 hc with rfl | hc
    · exact ⟨_, rfl⟩
    · rw [List.mem_singleton.1 hc]
      exact ⟨_, rfl⟩
  obtain ⟨v, w, hv, hw, hle, -⟩ := violation_le_of_relaxes hrelaxes rfl hevaluate
  exact ⟨hrelaxes, v, w, hv, hw, hle⟩

end Problem

end Extremum
