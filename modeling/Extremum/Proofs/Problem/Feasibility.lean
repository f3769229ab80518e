import Extremum.Problem.Display
import Extremum.Proofs.Interval
import Extremum.Proofs.Session.Call

/-!
# Agreement on feasibility

There are three ways to ask whether a point satisfies a problem: its violation, which adds up distances, the
test whether that is within a tolerance, and the report, which tests each output of a constraint against its
interval. They agree at every point at which the constraints have values, also if arguments or values are infinite
or undefined and limits are infinite (`exists_verdict`). That no output is left out rests on the lengths that a
well-formed problem has and on the check of what functions return.
-/

namespace Extremum

open Binary64

/-- The number of entries of a value is checked. -/
theorem Function.length_of_evaluate {f : Function Float} {x : Tensor Float} {value : List Float}
    (h : f.evaluate x = .ok value) : value.length = f.outputSize := by
  unfold Function.evaluate Function.evaluateWith at h
  obtain ⟨point, -, h⟩ := Reading.bind_eq_ok_iff.1 h
  obtain ⟨raw, -, h⟩ := Reading.bind_eq_ok_iff.1 h
  obtain ⟨numbers, -, h⟩ := Reading.bind_eq_ok_iff.1 h
  obtain ⟨checked, hchecked, h⟩ := Reading.bind_eq_ok_iff.1 h
  cases h
  unfold Function.returned at hchecked
  split at hchecked
  · rename_i hshape
    cases hchecked
    rw [Tensor.length_data, hshape, volume_cons, volume_nil, Nat.mul_one]
  · cases hchecked

/-! ## One constraint -/

namespace Constraint

variable {c : Constraint Float} {x : Tensor Float} {value : List Float} {v : Float}

theorem violation_eq_ok_iff : c.violation x = .ok v ↔
    ∃ value, c.function.evaluate x = .ok value ∧ Interval.totalDistance c.bounds value = v :=
  Reading.map_eq_ok_iff

theorem violation_of_evaluate (hvalue : c.function.evaluate x = .ok value) :
    c.violation x = .ok (Interval.totalDistance c.bounds value) :=
  violation_eq_ok_iff.2 ⟨value, hvalue, rfl⟩

/-- A violation is defined and not negative. -/
theorem violation_nonneg (h : c.violation x = .ok v) : 0 ≤ v := by
  obtain ⟨value, -, rfl⟩ := violation_eq_ok_iff.1 h
  exact Interval.totalDistance_nonneg c.bounds value

section Fits

variable {classes : List FunctionClass} {n : Nat}

/-- No output and no bound is left without the other. -/
theorem Fits.length_value (hc : c.Fits classes n) (hvalue : c.function.evaluate x = .ok value) :
    c.bounds.length = value.length :=
  hc.length_bounds.trans (Function.length_of_evaluate hvalue).symm

/-- The violation of a constraint is zero exactly if all outputs are within their bounds. -/
theorem violation_le_zero_iff (hc : c.Fits classes n) (hvalue : c.function.evaluate x = .ok value)
    (h : c.violation x = .ok v) : v ≤ 0 ↔ Interval.AllContain c.bounds value := by
  rw [violation_of_evaluate hvalue] at h
  cases h
  exact Interval.totalDistance_le_zero_iff (hc.length_value hvalue)

/-- An undefined output makes the violation infinite. -/
theorem violation_of_isNaN (hc : c.Fits classes n) (hvalue : c.function.evaluate x = .ok value)
    (hundefined : ∃ a ∈ value, a.isNaN = true) (h : c.violation x = .ok v) : v = Unbounded.infinity := by
  rw [violation_of_evaluate hvalue] at h
  cases h
  exact Interval.totalDistance_of_isNaN (hc.length_value hvalue) hundefined

/-- The test of each output comes out as the violation does. -/
theorem standing_of_evaluate (hc : c.Fits classes n) (hvalue : c.function.evaluate x = .ok value) :
    c.standing x = .ok ⟨value, Interval.totalDistance c.bounds value == 0⟩ := by
  have hsatisfied := Interval.all_contains_eq (hc.length_value hvalue)
  unfold standing
  rw [hvalue]
  exact congrArg (fun satisfied ↦ Except.ok (Standing.mk value satisfied)) hsatisfied

end Fits

/-- The lines of a report about the constraint with a number. The last one calls the constraint satisfied exactly
if the violation is zero. -/
def Reported (c : Constraint Float) (x : List Float) (number : Nat) (lines : List String) : Prop :=
  ∃ value v, c.function.evaluate (.vector x) = .ok value ∧ c.violation (.vector x) = .ok v ∧
    lines = [s!"  Constraint {number}", "    " ++ c.function.text, "    Bounds: " ++ Problem.boundsText c.bounds,
      "    Scales: " ++ Problem.scalesText c.scales,
      "    Initial value: " ++ Tensor.vectorText value ++ if v == 0 then " (satisfied)" else " (not satisfied)"]

/-- The report on a constraint calls it satisfied exactly if its violation is zero. -/
theorem reported_constraintLines {classes : List FunctionClass} {n : Nat} (hc : c.Fits classes n) {x : List Float}
    (hevaluate : ∃ value, c.function.evaluate (.vector x) = .ok value) (number : Nat) :
    ∃ lines, Problem.constraintLines (some x) c number = .ok lines ∧ c.Reported x number lines := by
  obtain ⟨value, hvalue⟩ := hevaluate
  refine ⟨_, ?_, value, _, hvalue, violation_of_evaluate hvalue, rfl⟩
  have hstanding := standing_of_evaluate hc hvalue
  unfold Problem.constraintLines
  simp only
  rw [hstanding]
  rfl

end Constraint

namespace Problem

variable {p : Problem Float} {x : List Float}

/-- All constraints together have the outputs of each. -/
theorem constraintOutputs_eq_sum (p : Problem Float) :
    p.constraintOutputs = (p.constraints.map Constraint.outputSize).sum := by
  unfold constraintOutputs
  rw [List.sum_eq_foldl, List.foldl_map]

/-! ## What is to agree -/

/-- Every argument and every output of a constraint is in its interval. -/
structure Within (p : Problem Float) (x : List Float) : Prop where
  arguments : Interval.AllContain p.bounds x
  outputs : ∀ c ∈ p.constraints, ∀ value, c.function.evaluate (.vector x) = .ok value →
    Interval.AllContain c.bounds value

/-- Some argument or some output of a constraint is undefined. -/
def HasUndefined (p : Problem Float) (x : List Float) : Prop :=
  (∃ a ∈ x, a.isNaN = true) ∨
    ∃ c ∈ p.constraints, ∃ value, c.function.evaluate (.vector x) = .ok value ∧ ∃ a ∈ value, a.isNaN = true

/-- The lines of a report in front of those about constraints. -/
def headLines (p : Problem Float) : List String :=
  ["Problem:", "  " ++ p.objective.text]
    ++ (p.names.map fun names ↦ "  Argument names: " ++ joined names).toList
    ++ ["  Argument bounds: " ++ boundsText p.bounds, "  Argument scales: " ++ scalesText p.scales]
    ++ (if p.constraints.isEmpty then [] else [s!"  Number of constraints: {p.constraints.length}"])

/-- What a violation says about a point, and that the other notions of feasibility say the same. -/
structure Verdict (p : Problem Float) (x : List Float) (v : Float) : Prop where
  defined : v.isNaN = false
  nonneg : 0 ≤ v
  infinite : p.HasUndefined x → v = Unbounded.infinity
  zero : (v == 0) = true ↔ p.Within x
  feasible : ∃ b, p.isFeasible (.vector x) (.ok 0) = .ok b ∧ (b = true ↔ p.Within x)
  /-- At a starting point the report has one block for each constraint. It may still fail at the objective. -/
  report : p.start = some x → ∃ blocks,
    List.Forall₂ (fun (c, number) lines ↦ c.Reported x number lines) p.constraints.zipIdx blocks ∧
    p.text = (fun tail ↦ String.intercalate "\n" (p.headLines ++ blocks.flatten ++ tail)) <$> p.startLines

/-! ## Violations -/

section Violation

variable {violations : List Float}

/-- The violation of a point is that of its entries and those of the constraints. -/
theorem violation_of_mapM (hx : x.length = p.inputSize)
    (hviolations : (p.constraints.mapM fun c ↦ c.violation (.vector x)) = .ok violations) :
    p.violation (.vector x) = .ok (Interval.totalDistance p.bounds x + Scalar.sum violations) := by
  unfold violation
  rw [Tensor.shape_vector, hx, if_pos rfl, hviolations]
  rfl

theorem nonneg_of_mem_violations
    (hviolations : (p.constraints.mapM fun c ↦ c.violation (.vector x)) = .ok violations) :
    ∀ v ∈ violations, 0 ≤ v :=
  Reading.forall_of_mapM (fun _ _ h ↦ Constraint.violation_nonneg h) hviolations

/-- The violation is zero exactly if the point and all outputs are within their bounds. -/
theorem le_zero_iff_within (hp : p.WellFormed) (hx : x.length = p.inputSize)
    (hevaluate : ∀ c ∈ p.constraints, ∃ value, c.function.evaluate (.vector x) = .ok value)
    (hviolations : (p.constraints.mapM fun c ↦ c.violation (.vector x)) = .ok violations) :
    Interval.totalDistance p.bounds x + Scalar.sum violations ≤ 0 ↔ p.Within x := by
  have hnonneg := nonneg_of_mem_violations hviolations
  rw [add_le_zero_iff (Interval.totalDistance_nonneg p.bounds x) (sum_nonneg hnonneg),
    Interval.totalDistance_le_zero_iff (hp.length_bounds.trans hx.symm), sum_le_zero_iff hnonneg]
  constructor
  · rintro ⟨harguments, hzero⟩
    refine ⟨harguments, fun c hc value hvalue ↦ ?_⟩
    have hviolation := Constraint.violation_of_evaluate hvalue
    have hmem := (Reading.mem_iff_of_mapM hviolations).2 ⟨c, hc, hviolation⟩
    exact (Constraint.violation_le_zero_iff (hp.constraints c hc) hvalue hviolation).1 (hzero _ hmem)
  · intro hwithin
    refine ⟨hwithin.arguments, fun v hv ↦ ?_⟩
    obtain ⟨c, hc, hviolation⟩ := (Reading.mem_iff_of_mapM hviolations).1 hv
    obtain ⟨value, hvalue⟩ := hevaluate c hc
    exact (Constraint.violation_le_zero_iff (hp.constraints c hc) hvalue hviolation).2
      (hwithin.outputs c hc value hvalue)

/-- Whatever is undefined makes the violation of the point infinite. -/
theorem infinite_of_hasUndefined (hp : p.WellFormed) (hx : x.length = p.inputSize)
    (hviolations : (p.constraints.mapM fun c ↦ c.violation (.vector x)) = .ok violations)
    (hundefined : p.HasUndefined x) :
    Interval.totalDistance p.bounds x + Scalar.sum violations = Unbounded.infinity := by
  have hnonneg := nonneg_of_mem_violations hviolations
  rcases hundefined with harguments | ⟨c, hc, value, hvalue, houtputs⟩
  · rw [Interval.totalDistance_of_isNaN (hp.length_bounds.trans hx.symm) harguments]
    exact infinity_add (sum_nonneg hnonneg)
  · have hviolation := Constraint.violation_of_evaluate hvalue
    have hinfinite := Constraint.violation_of_isNaN (hp.constraints c hc) hvalue houtputs hviolation
    have hmem := (Reading.mem_iff_of_mapM hviolations).2 ⟨c, hc, hviolation⟩
    rw [hinfinite] at hmem
    rw [sum_of_mem_infinity hnonneg hmem]
    exact add_infinity (Interval.totalDistance_nonneg p.bounds x)

end Violation

/-! ## Reports -/

theorem text_eq (p : Problem Float) :
    p.text = do
      let constraints ← p.constraints.zipIdx.mapM fun (c, i) ↦ constraintLines p.start c i
      let start ← p.startLines
      return String.intercalate "\n" (p.headLines ++ constraints.flatten ++ start) := rfl

/-- Every constraint has its block. -/
theorem exists_blocks (hp : p.WellFormed)
    (hevaluate : ∀ c ∈ p.constraints, ∃ value, c.function.evaluate (.vector x) = .ok value) :
    ∃ blocks, (p.constraints.zipIdx.mapM fun (c, i) ↦ constraintLines (some x) c i) = .ok blocks ∧
      List.Forall₂ (fun (c, number) lines ↦ c.Reported x number lines) p.constraints.zipIdx blocks := by
  apply Reading.exists_mapM
  rintro ⟨c, number⟩ hmem
  have hc : c ∈ p.constraints := List.fst_mem_of_mem_zipIdx hmem
  exact Constraint.reported_constraintLines (hp.constraints c hc) (hevaluate c hc) number

/-- The three notions agree at every point at which the constraints have values. -/
theorem exists_verdict (hp : p.WellFormed) (hx : x.length = p.inputSize)
    (hevaluate : ∀ c ∈ p.constraints, ∃ value, c.function.evaluate (.vector x) = .ok value) :
    ∃ v, p.violation (.vector x) = .ok v ∧ p.Verdict x v := by
  have hmeasured : ∀ c ∈ p.constraints, ∃ v, c.violation (.vector x) = .ok v ∧ 0 ≤ v := by
    intro c hc
    obtain ⟨value, hvalue⟩ := hevaluate c hc
    have hviolation := Constraint.violation_of_evaluate hvalue
    exact ⟨_, hviolation, Constraint.violation_nonneg hviolation⟩
  obtain ⟨violations, hviolations, -⟩ := Reading.exists_mapM hmeasured
  have hviolation := violation_of_mapM hx hviolations
  have hzero := le_zero_iff_within hp hx hevaluate hviolations
  have hinfinite := infinite_of_hasUndefined hp hx hviolations
  have hnonneg := nonneg_add (Interval.totalDistance_nonneg p.bounds x)
    (sum_nonneg (nonneg_of_mem_violations hviolations))
  -- How the violation is added up does not matter any more.
  generalize Interval.totalDistance p.bounds x + Scalar.sum violations = v at hviolation hzero hinfinite hnonneg
  refine ⟨v, hviolation, ?_⟩
  constructor
  case defined => exact (defined_of_le hnonneg).2
  case nonneg => exact hnonneg
  case infinite => exact hinfinite
  case zero => exact (beq_zero_iff hnonneg).trans hzero
  case feasible =>
    refine ⟨decide (v ≤ 0), ?_, decide_eq_true_iff.trans hzero⟩
    unfold isFeasible
    rw [hviolation]
    rfl
  case report =>
    intro hstart
    obtain ⟨blocks, hblocks, hreported⟩ := exists_blocks hp hevaluate
    refine ⟨blocks, hreported, ?_⟩
    rw [text_eq, hstart, hblocks]
    rfl

/-- Bounds that a starting point is to violate. -/
def fromZeroToTwo : Interval Float :=
  ⟨0, 2, by decide, by decide, by decide⟩

/-- A problem is declared with a starting point and gets a constraint that is violated there. -/
def startedOutside : List Call :=
  [.declare { objective := .ok (.constant "level" 1 [2]), start := some (.ok (.vector [1])) },
    .addConstraint ⟨0⟩ (.ok (.shift "step" [3])) (.interval fromZeroToTwo) none]

/-- What the run leaves behind. -/
def outside : Problem Float where
  objective := .constant "level" 1 [2]
  objectiveClass := .tier .linear
  constraintClasses := [.tier .linear]
  bounds := [Interval.free]
  scales := [1]
  start := some [1]
  constraints := [⟨.shift "step" [3], [fromZeroToTwo], [1]⟩]

theorem exists_verdict_outside :
    (({} : Session).after startedOutside).problems.get? ⟨0⟩ = some outside ∧
      outside.start = some [1] ∧ ∃ v, outside.violation (.vector [1]) = .ok v ∧ outside.Verdict [1] v := by
  have hreached : (({} : Session).after startedOutside).problems.get? ⟨0⟩ = some outside := by rfl
  have hp : outside.WellFormed := Session.wellFormed_of_reached rfl startedOutside hreached
  have hevaluate : ∀ c ∈ outside.constraints, ∃ value, c.function.evaluate (.vector [1]) = .ok value := by
    intro c hc
    rw [List.mem_singleton.1 hc]
    exact ⟨_, rfl⟩
  exact ⟨hreached, rfl, exists_verdict hp rfl hevaluate⟩

end Problem

end Extremum
