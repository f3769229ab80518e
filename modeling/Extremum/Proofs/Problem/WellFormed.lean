import Extremum.Proofs.Binary64.Order
import Extremum.Proofs.Problem.Success

/-!
# Well-formed problems

A problem is well-formed when its objective and its constraints belong to the classes that it is declared at,
every list has one entry per argument or per output, scales are positive and finite, and bounds have defined
limits in the right order. Whatever the parts of a declaration are, the declared problem is well-formed; and
every change of a well-formed problem that succeeds leaves it well-formed. Widening is the one operation that
does not look at the functions again: there the classes are compared, and the order of classes is transitive.
-/

namespace Extremum

/-- Both limits are defined, and they are in the right order. -/
def Interval.Proper (i : Interval Float) : Prop :=
  i.lower.isNaN = false ∧ i.upper.isNaN = false ∧ i.lower ≤ i.upper

def IsScale (x : Float) : Prop :=
  x.isFinite = true ∧ 0 < x

/-- A constraint belongs to one of the given classes, takes `n` arguments, and has a bound and a scale for
each of its outputs. -/
structure Constraint.Fits (c : Constraint Float) (classes : List FunctionClass) (n : Nat) : Prop where
  permitted : ∃ d ∈ classes, c.function.isA d = true
  inputs : c.function.inputSize = n
  length_bounds : c.bounds.length = c.outputSize
  length_scales : c.scales.length = c.outputSize
  bounds : ∀ i ∈ c.bounds, i.Proper
  scales : ∀ x ∈ c.scales, IsScale x

/-- What holds of every problem that callers can get hold of. -/
structure Problem.WellFormed (p : Problem Float) : Prop where
  objective : p.objective.isA p.objectiveClass = true
  classes : p.constraintClasses ≠ []
  constraints : ∀ c ∈ p.constraints, c.Fits p.constraintClasses p.inputSize
  length_bounds : p.bounds.length = p.inputSize
  length_scales : p.scales.length = p.inputSize
  bounds : ∀ i ∈ p.bounds, i.Proper
  scales : ∀ x ∈ p.scales, IsScale x
  start : ∀ x, p.start = some x → x.length = p.inputSize
  names : ∀ names, p.names = some names → names.length = p.inputSize

/-- An interval can only be made of limits in the right order. -/
theorem Interval.proper (i : Interval Float) : i.Proper :=
  ⟨i.lower_defined, i.upper_defined,
    (Binary64.le_iff_not_lt i.lower_defined i.upper_defined).2 i.not_inverted⟩

theorem isScale_one : IsScale 1 := by
  constructor <;> decide

/-- A number that was read as a scale is one: it is finite, hence defined, and not at most zero. -/
theorem isScale_of_readScale {what : String} {scale : Written Float Float} {x : Float}
    (h : readScale what scale = .ok x) : IsScale x := by
  unfold readScale at h
  obtain ⟨value, -, h⟩ := Reading.bind_eq_ok_iff.1 h
  split at h
  · rename_i hcheck
    cases h
    rw [Bool.and_eq_true, Bool.not_eq_true', decide_eq_false_iff_not] at hcheck
    have hdefined : x.isNaN = false := Binary64.isNaN_of_isFinite hcheck.1
    exact ⟨hcheck.1, (Binary64.lt_iff_not_le (by decide) hdefined).2 hcheck.2⟩
  · cases h

namespace Constraint.Fits

variable {c : Constraint Float} {classes others : List FunctionClass} {n : Nat}

/-- A constraint fits wherever the classes it fits have more general ones. -/
theorem widen (h : c.Fits classes n)
    (hcovered : ∀ d ∈ classes, ∃ e ∈ others, d.isSubclass e = true) : c.Fits others n where
  permitted := by
    obtain ⟨d, hd, hfunction⟩ := h.permitted
    obtain ⟨e, he, hsub⟩ := hcovered d hd
    exact ⟨e, he, FunctionClass.isSubclass_trans hfunction hsub⟩
  inputs := h.inputs
  length_bounds := h.length_bounds
  length_scales := h.length_scales
  bounds := h.bounds
  scales := h.scales

end Constraint.Fits

namespace Problem

variable {p q : Problem Float}

/-! ## Readers -/

theorem length_of_checkCount {β : Type} {what : String} {n : Nat} {items : List β} {u : Unit}
    (h : checkCount what n items = .ok u) : items.length = n := by
  unfold checkCount at h
  split at h
  · assumption
  · cases h

theorem readClasses_ne_nil {classes : Reading Float (List (Reading Float FunctionClass))}
    {read : List FunctionClass} (h : readClasses classes = .ok read) : read ≠ [] := by
  unfold readClasses at h
  obtain ⟨items, -, h⟩ := Reading.bind_eq_ok_iff.1 h
  split at h
  · cases h
  · rename_i hitems
    have hlength : read.length = items.length := Reading.length_of_mapM h
    intro hnil
    rw [hnil, List.length_nil] at hlength
    exact hitems (List.isEmpty_iff.2 (List.eq_nil_of_length_eq_zero hlength.symm))

theorem length_of_readBounds {n : Nat} {bounds : Reading Float (List (BoundPart Float))}
    {read : List (Interval Float)} (h : readBounds n bounds = .ok read) : read.length = n := by
  unfold readBounds at h
  obtain ⟨items, -, h⟩ := Reading.bind_eq_ok_iff.1 h
  obtain ⟨intervals, -, h⟩ := Reading.bind_eq_ok_iff.1 h
  obtain ⟨u, hcount, h⟩ := Reading.bind_eq_ok_iff.1 h
  cases h
  exact length_of_checkCount hcount

/-- Scales that were read are as many as the arguments, positive and finite. -/
theorem readScales_eq_ok {n : Nat} {scales : Reading Float (List (Written Float Float))}
    {read : List Float} (h : readScales n scales = .ok read) :
    read.length = n ∧ ∀ x ∈ read, IsScale x := by
  unfold readScales at h
  obtain ⟨items, -, h⟩ := Reading.bind_eq_ok_iff.1 h
  obtain ⟨values, hvalues, h⟩ := Reading.bind_eq_ok_iff.1 h
  obtain ⟨u, hcount, h⟩ := Reading.bind_eq_ok_iff.1 h
  cases h
  exact ⟨length_of_checkCount hcount,
    Reading.forall_of_mapM (fun _ _ hread ↦ isScale_of_readScale hread) hvalues⟩

theorem length_of_readNames {n : Nat} {names : Reading Float (List (Reading Float String))}
    {read : List String} (h : readNames n names = .ok read) : read.length = n := by
  unfold readNames at h
  obtain ⟨items, -, h⟩ := Reading.bind_eq_ok_iff.1 h
  obtain ⟨texts, -, h⟩ := Reading.bind_eq_ok_iff.1 h
  obtain ⟨u, hcount, h⟩ := Reading.bind_eq_ok_iff.1 h
  cases h
  exact length_of_checkCount hcount

theorem length_of_readStart {n : Nat} {point : Reading Float (Tensor Float)} {read : List Float}
    (h : readStart n point = .ok read) : read.length = n := by
  unfold readStart at h
  obtain ⟨t, -, h⟩ := Reading.bind_eq_ok_iff.1 h
  split at h
  · cases h
    assumption
  · cases h

/-- What a part is read as has a property if the default has it and all successes of the reader do. -/
theorem forall_of_readOr {β γ : Type} {absent read : γ} {part : Option β}
    {reader : β → Except (Error Float) γ} {P : γ → Prop} (h : readOr absent part reader = .ok read)
    (habsent : P absent) (hreader : ∀ b c, reader b = .ok c → P c) : P read := by
  cases part with
  | none =>
    cases h
    exact habsent
  | some b => exact hreader b read h

/-- A part that may be absent, and otherwise is read with a given length. -/
theorem length_of_readOr_some {β γ : Type} {n : Nat} {part : Option β}
    {reader : β → Except (Error Float) (List γ)} {read : Option (List γ)}
    (h : readOr none part (fun b ↦ some <$> reader b) = .ok read)
    (hreader : ∀ b c, reader b = .ok c → c.length = n) : ∀ x, read = some x → x.length = n := by
  apply forall_of_readOr h
  · simp
  · intro b c hc x hx
    obtain ⟨y, hy, rfl⟩ := Reading.map_eq_ok_iff.1 hc
    cases hx
    exact hreader b x hy

/-! ## Declaration -/

theorem interval_proper_of_mem {bounds : List (Interval Float)} : ∀ i ∈ bounds, i.Proper :=
  fun i _ ↦ i.proper

/-- What is declared is well-formed, whatever it was declared with. -/
theorem wellFormed_of_declare {d : Declaration} (h : declare d = .ok p) : p.WellFormed := by
  have hp := declares_of_declare h
  have hnonempty : p.constraintClasses ≠ [] :=
    forall_of_readOr (P := (· ≠ [])) hp.classes (by simp) fun _ _ hread ↦ readClasses_ne_nil hread
  have hbounded : p.bounds.length = p.inputSize :=
    forall_of_readOr (P := fun read ↦ read.length = _) hp.bounds List.length_replicate
      fun _ _ hread ↦ length_of_readBounds hread
  have hscaled : p.scales.length = p.inputSize ∧ ∀ x ∈ p.scales, IsScale x := by
    apply forall_of_readOr (P := fun read ↦ read.length = _ ∧ ∀ x ∈ read, IsScale x) hp.scales
    · refine ⟨List.length_replicate, fun x hx ↦ ?_⟩
      rw [List.eq_of_mem_replicate hx]
      exact isScale_one
    · exact fun _ _ hread ↦ readScales_eq_ok hread
  exact {
    objective := hp.permitted
    classes := hnonempty
    constraints := by simp [hp.constraints]
    length_bounds := hbounded
    length_scales := hscaled.1
    bounds := interval_proper_of_mem
    scales := hscaled.2
    start := length_of_readOr_some hp.start fun _ _ hread ↦ length_of_readStart hread
    names := length_of_readOr_some hp.names fun _ _ hread ↦ length_of_readNames hread }

/-! ## Changes -/

theorem wellFormed_of_setStart {point : Option (Reading Float (Tensor Float))} (hp : p.WellFormed)
    (h : p.setStart point = .ok q) : q.WellFormed := by
  obtain ⟨-, start, hstart, rfl⟩ := setStart_eq_ok_iff.1 h
  exact { hp with
    start := length_of_readOr_some hstart fun _ _ hread ↦ length_of_readStart hread }

/-- Another bound leaves a well-formed problem well-formed. -/
theorem wellFormed_of_setBound {index : Int} {bound : BoundPart Float} (hp : p.WellFormed)
    (h : p.setBound index bound = .ok q) : q.WellFormed := by
  obtain ⟨-, i, -, interval, -, rfl⟩ := setBound_eq_ok_iff.1 h
  exact { hp with
    length_bounds := by rw [List.length_set]; exact hp.length_bounds
    bounds := interval_proper_of_mem }

theorem wellFormed_of_setBounds {bounds : Reading Float (List (BoundPart Float))} (hp : p.WellFormed)
    (h : p.setBounds bounds = .ok q) : q.WellFormed := by
  obtain ⟨-, intervals, hintervals, rfl⟩ := setBounds_eq_ok_iff.1 h
  exact { hp with
    length_bounds := length_of_readBounds hintervals
    bounds := interval_proper_of_mem }

theorem wellFormed_of_setScale {index : Int} {scale : Written Float Float} (hp : p.WellFormed)
    (h : p.setScale index scale = .ok q) : q.WellFormed := by
  obtain ⟨-, i, -, x, hx, rfl⟩ := setScale_eq_ok_iff.1 h
  exact { hp with
    length_scales := by rw [List.length_set]; exact hp.length_scales
    scales := by
      intro y hy
      rcases List.mem_or_eq_of_mem_set hy with hy | rfl
      · exact hp.scales y hy
      · exact isScale_of_readScale hx }

/-- What is read as a constraint has as many bounds and scales as the function has outputs. -/
theorem readConstraint_eq_ok {f : Function Float} {bounds : BoundsPart Float}
    {scales : Option (ScalesPart Float)} {c : Constraint Float}
    (h : readConstraint f bounds scales = .ok c) :
    c.function = f ∧ c.bounds.length = f.outputSize ∧ c.scales.length = f.outputSize ∧
      ∀ x ∈ c.scales, IsScale x := by
  unfold readConstraint at h
  obtain ⟨items, -, h⟩ := Reading.bind_eq_ok_iff.1 h
  obtain ⟨intervals, -, h⟩ := Reading.bind_eq_ok_iff.1 h
  dsimp only at h
  obtain ⟨hbounds, h⟩ := Reading.ite_throw_eq_ok_iff.1 h
  obtain ⟨values, hvalues, h⟩ := Reading.bind_eq_ok_iff.1 h
  obtain ⟨hscales, h⟩ := Reading.ite_throw_eq_ok_iff.1 h
  cases h
  refine ⟨rfl, hbounds, hscales, ?_⟩
  apply forall_of_readOr (P := fun read ↦ ∀ x ∈ read, IsScale x) hvalues
  · intro x hx
    rw [List.eq_of_mem_replicate hx]
    exact isScale_one
  · intro part read hread
    obtain ⟨written, -, hread⟩ := Reading.bind_eq_ok_iff.1 hread
    exact Reading.forall_of_mapM (fun _ _ hone ↦ isScale_of_readScale hone) hread

/-- A constraint that is accepted fits the problem. -/
theorem wellFormed_of_addConstraint {f : Given (Function Float)} {bounds : BoundsPart Float}
    {scales : Option (ScalesPart Float)} (hp : p.WellFormed)
    (h : p.addConstraint f bounds scales = .ok q) : q.WellFormed := by
  obtain ⟨-, f, -, hpermitted, hinputs, c, hc, rfl⟩ := addConstraint_eq_ok_iff.1 h
  obtain ⟨hfunction, hbounds, hscales, hpositive⟩ := readConstraint_eq_ok hc
  have hfits : c.Fits p.constraintClasses p.inputSize := {
    permitted := by
      rw [hfunction]
      exact List.any_eq_true.1 hpermitted
    inputs := hfunction ▸ hinputs
    length_bounds := by rw [hbounds, Constraint.outputSize, hfunction]
    length_scales := by rw [hscales, Constraint.outputSize, hfunction]
    bounds := interval_proper_of_mem
    scales := hpositive }
  exact { hp with
    constraints := by
      intro d hd
      rcases List.mem_append.1 hd with hd | hd
      · exact hp.constraints d hd
      · rw [List.mem_singleton.1 hd]
        exact hfits }

theorem wellFormed_freeze (hp : p.WellFormed) : p.freeze.WellFormed :=
  { hp with }

/-! ## Copies -/

theorem wellFormed_copy (hp : p.WellFormed) : p.copy.WellFormed :=
  { hp with }

/-- Only classes above the declared one can be asked for. -/
theorem isSubclass_of_widerObjective {wanted : Option FunctionClass} {c : FunctionClass}
    (h : p.widerObjective wanted = .ok c) : p.objectiveClass.isSubclass c = true := by
  unfold widerObjective at h
  split at h
  · cases h
    exact FunctionClass.isSubclass_refl _
  · split at h
    · cases h
      assumption
    · cases h

/-- A widened copy is well-formed, although its functions are not looked at: the class of each of them has a
more general one among the new classes. -/
theorem wellFormed_of_widen {objectiveClass : Reading Float (Option FunctionClass)}
    {constraintClasses : Option (Reading Float (List (Reading Float FunctionClass)))}
    (hp : p.WellFormed) (h : p.widen objectiveClass constraintClasses = .ok q) : q.WellFormed := by
  obtain ⟨wanted, -, c, hc, classes, hclasses, hcovered, rfl⟩ := widen_eq_ok_iff.1 h
  exact { hp with
    objective := FunctionClass.isSubclass_trans hp.objective (isSubclass_of_widerObjective hc)
    classes := forall_of_readOr (P := (· ≠ [])) hclasses hp.classes
      fun _ _ hread ↦ readClasses_ne_nil hread
    constraints := fun d hd ↦ (hp.constraints d hd).widen hcovered }

end Problem

end Extremum
