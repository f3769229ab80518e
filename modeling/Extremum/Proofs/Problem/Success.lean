import Extremum.Problem.Building
import Extremum.Proofs.Reading

/-!
# Operations on problems that succeed

An operation on a problem checks the problem and reads what a caller gave, part by part; it succeeds if every check
passes and every part can be read, and then answers one problem. For each operation it is said here when it succeeds
and what it answers, so that nothing else has to look into the operations again.
-/

namespace Extremum.Problem

variable {p q : Problem Float}

/-! ## Checks -/

/-- Only open problems may be changed. -/
theorem checkOpen_eq_ok_iff {u : Unit} : p.checkOpen = .ok u ↔ p.frozen = false := by
  unfold checkOpen
  cases p.frozen <;> simp

/-- The position of an argument is its index. -/
theorem argument_eq_ok_iff {index : Int} {i : Nat} :
    p.argument index = .ok i ↔ index = i ∧ i < p.inputSize := by
  unfold argument
  split
  · rw [Except.ok.injEq]
    omega
  · simp only [reduceCtorEq, false_iff]
    omega

/-! ## Declaration -/

/-- A problem has what a declaration says, part by part, and nothing else. -/
structure Declares (d : Declaration) (p : Problem Float) : Prop where
  objective : d.objective = .ok p.objective
  objectiveClass : ∃ wanted, d.objectiveClass = .ok wanted ∧ p.objectiveClass = wanted.getD (.tier p.objective.tier)
  permitted : p.objective.isA p.objectiveClass = true
  classes : readOr [p.objectiveClass] d.constraintClasses readClasses = .ok p.constraintClasses
  bounds : readOr (List.replicate p.inputSize Interval.free) d.bounds (readBounds p.inputSize) = .ok p.bounds
  scales : readOr (List.replicate p.inputSize 1) d.scales (readScales p.inputSize) = .ok p.scales
  start : readOr none d.start (fun point ↦ some <$> readStart p.inputSize point) = .ok p.start
  names : readOr none d.names (fun names ↦ some <$> readNames p.inputSize names) = .ok p.names
  constraints : p.constraints = []
  opened : p.frozen = false

/-- What is declared has what the declaration says. -/
theorem declares_of_declare {d : Declaration} (h : declare d = .ok p) : Declares d p := by
  unfold declare at h
  split at h
  · cases h
  · rename_i objective hobjective
    obtain ⟨wanted, hwanted, h⟩ := Reading.bind_eq_ok_iff.1 h
    dsimp only at h
    obtain ⟨hpermitted, h⟩ := Reading.ite_throw_eq_ok_iff.1 h
    obtain ⟨classes, hclasses, h⟩ := Reading.bind_eq_ok_iff.1 h
    obtain ⟨bounds, hbounds, h⟩ := Reading.bind_eq_ok_iff.1 h
    obtain ⟨scales, hscales, h⟩ := Reading.bind_eq_ok_iff.1 h
    obtain ⟨start, hstart, h⟩ := Reading.bind_eq_ok_iff.1 h
    obtain ⟨names, hnames, h⟩ := Reading.bind_eq_ok_iff.1 h
    cases h
    exact ⟨hobjective, ⟨wanted, hwanted, rfl⟩, hpermitted, hclasses, hbounds, hscales, hstart, hnames, rfl, rfl⟩

/-! ## Changes -/

theorem setStart_eq_ok_iff {point : Option (Reading Float (Tensor Float))} :
    p.setStart point = .ok q ↔ p.frozen = false ∧
      ∃ start, readOr none point (fun point ↦ some <$> readStart p.inputSize point) = .ok start ∧
        { p with start } = q := by
  simp only [setStart, Reading.bind_eq_ok_iff, checkOpen_eq_ok_iff, exists_and_left, exists_const,
    Reading.pure_eq_ok_iff]

/-- One bound is replaced, if there is an argument at the index and the bound can be read. -/
theorem setBound_eq_ok_iff {index : Int} {bound : BoundPart Float} :
    p.setBound index bound = .ok q ↔ p.frozen = false ∧ ∃ i : Nat, (index = i ∧ i < p.inputSize) ∧
      ∃ interval, bound.read "argument bound" = .ok interval ∧
        { p with bounds := p.bounds.set i interval } = q := by
  simp only [setBound, Reading.bind_eq_ok_iff, checkOpen_eq_ok_iff, argument_eq_ok_iff, exists_and_left,
    exists_const, Reading.pure_eq_ok_iff]

theorem setBounds_eq_ok_iff {given : Reading Float (List (BoundPart Float))} :
    p.setBounds given = .ok q ↔ p.frozen = false ∧
      ∃ bounds, readBounds p.inputSize given = .ok bounds ∧ { p with bounds } = q := by
  simp only [setBounds, Reading.bind_eq_ok_iff, checkOpen_eq_ok_iff, exists_and_left, exists_const,
    Reading.pure_eq_ok_iff]

/-- One scale is replaced, if there is an argument at the index and the scale can be read. -/
theorem setScale_eq_ok_iff {index : Int} {scale : Written Float Float} :
    p.setScale index scale = .ok q ↔ p.frozen = false ∧ ∃ i : Nat, (index = i ∧ i < p.inputSize) ∧
      ∃ x, readScale "argument scale" scale = .ok x ∧ { p with scales := p.scales.set i x } = q := by
  simp only [setScale, Reading.bind_eq_ok_iff, checkOpen_eq_ok_iff, argument_eq_ok_iff, exists_and_left,
    exists_const, Reading.pure_eq_ok_iff]

/-- A constraint is added at the end, if its function is permitted and takes the arguments of the problem, and if its
bounds and scales can be read. -/
theorem addConstraint_eq_ok_iff {given : Given (Function Float)} {bounds : BoundsPart Float}
    {scales : Option (ScalesPart Float)} :
    p.addConstraint given bounds scales = .ok q ↔ p.frozen = false ∧
      ∃ f, given = .ok f ∧ p.permits f = true ∧ f.inputSize = p.inputSize ∧
        ∃ c, readConstraint f bounds scales = .ok c ∧ { p with constraints := p.constraints ++ [c] } = q := by
  unfold addConstraint
  rw [Reading.bind_eq_ok_iff]
  simp only [checkOpen_eq_ok_iff, exists_and_left, exists_const]
  refine and_congr_right fun _ ↦ ?_
  cases given with
  | error kind => simp [throw, throwThe, MonadExceptOf.throw]
  | ok f =>
    dsimp only
    rw [Reading.ite_throw_eq_ok_iff, Reading.ite_throw_eq_ok_iff, Reading.bind_eq_ok_iff]
    simp only [Reading.pure_eq_ok_iff, Except.ok.injEq, exists_eq_left']

/-! ## Widening -/

/-- A class for the objective is accepted exactly if it is above the declared one. -/
theorem widerObjective_eq_ok_iff {o c : FunctionClass} :
    p.widerObjective (some o) = .ok c ↔ p.objectiveClass.isSubclass o = true ∧ o = c := by
  unfold widerObjective
  by_cases h : p.objectiveClass.isSubclass o = true
  · simp [h]
  · simp [h]

/-- Classes for constraints are accepted exactly if they cover the declared ones. -/
theorem checkCovered_eq_ok_iff {declared wanted : List FunctionClass} {u : Unit} :
    checkCovered declared wanted = .ok u ↔ ∀ d ∈ declared, ∃ e ∈ wanted, d.isSubclass e = true := by
  have hcovered : declared.find? (fun c ↦ !wanted.any c.isSubclass) = none ↔
      ∀ d ∈ declared, ∃ e ∈ wanted, d.isSubclass e = true := by
    simp only [List.find?_eq_none, Bool.not_eq_true', Bool.not_eq_false, List.any_eq_true]
  rw [← hcovered]
  unfold checkCovered
  split <;> simp [*]

/-- A problem is widened to the classes that are read, if they are above the declared ones. -/
theorem widen_eq_ok_iff {objectiveClass : Reading Float (Option FunctionClass)}
    {constraintClasses : Option (Reading Float (List (Reading Float FunctionClass)))} :
    p.widen objectiveClass constraintClasses = .ok q ↔
      ∃ wanted, objectiveClass = .ok wanted ∧ ∃ c, p.widerObjective wanted = .ok c ∧
        ∃ classes, readOr p.constraintClasses constraintClasses readClasses = .ok classes ∧
          (∀ d ∈ p.constraintClasses, ∃ e ∈ classes, d.isSubclass e = true) ∧
          { p.copy with objectiveClass := c, constraintClasses := classes } = q := by
  simp only [widen, Reading.bind_eq_ok_iff, checkCovered_eq_ok_iff, exists_and_left, exists_const,
    Reading.pure_eq_ok_iff]

end Extremum.Problem
