import Extremum.Proofs.Function.Answers
import Extremum.Proofs.Function.Differences
import Extremum.Proofs.Function.Verdict

/-!
# Requests for central differences

Central differences are asked for with a point, the index of an output and a step. The step and the index are looked
at first, and the point only by the function, each time that it is evaluated. So a point of the wrong length is
refused by the first evaluation, unless it has no entries and there is none; and the step is compared with zero, which
lets an undefined one pass. These are the only requests that are answered and should not be (`guarded_iff`).
-/

namespace Extremum.Session

variable {f : Function Float} {x : Reading Float (Tensor Float)} {i : Int} {step : Float} {s : Session}
  {slope : Tensor Float}

/-- A point that cannot be read is refused, if the step and the index are not. -/
theorem exists_error_of_differences (f : Function Float) (i : Int) (step : Float) (s : Session) (e : Error Float) :
    ∃ e', answer (differences (.ok f) (.error e) i (.ok step)) s = .error e' := by
  unfold answer differences
  rw [perform_bind_of_ok (perform_lift _ s)]
  by_cases hstep : step ≤ 0
  · rw [if_pos hstep]
    exact ⟨_, rfl⟩
  · rw [if_neg hstep, perform_bind_of_ok (perform_lift _ s), perform_bind, perform_lift]
    cases f.differences (.vector []) i step <;> exact ⟨_, rfl⟩

/-- A request is answered at a point that was read. -/
theorem answer_differences_eq_ok_iff : answer (differences (.ok f) x i (.ok step)) s = .ok slope ↔
    ∃ point, x = .ok point ∧ f.differences point i step = .ok slope := by
  cases x with
  | ok point =>
    unfold answer
    rw [perform_differences]
    simp
  | error e =>
    obtain ⟨e', he'⟩ := exists_error_of_differences f i step s e
    simp [he']

/-- A request that ought to be answered. -/
structure WellPosed (f : Function Float) (x : Reading Float (Tensor Float)) (i : Int) (step : Float) : Prop where
  /-- The point has one entry for each argument of the function. -/
  point : ∃ point, x = .ok point ∧ IsPoint f point
  /-- The index is that of an output. -/
  output : HasOutput f i
  /-- The step is positive. -/
  step_pos : 0 < step

/-- The central differences at the point of a request. -/
def Estimated (f : Function Float) (x : Reading Float (Tensor Float)) (i : Int) (step : Float)
    (slope : Tensor Float) : Prop :=
  ∃ point, x = .ok point ∧ f.Estimates point i.toNat step slope

/-- How a request is to be dealt with. -/
structure Guarded (f : Function Float) (x : Reading Float (Tensor Float)) (i : Int) (step : Float) (s : Session) :
    Prop where
  /-- It is answered only if it is well-posed, and then by the central differences. -/
  answered : ∀ slope, answer (differences (.ok f) x i (.ok step)) s = .ok slope →
    WellPosed f x i step ∧ Estimated f x i step slope
  /-- In every other case it fails. -/
  refused : ¬WellPosed f x i step → ∃ e, answer (differences (.ok f) x i (.ok step)) s = .error e

/-- A request that is not well-posed and passes all the same: the point has no entries, so that no evaluation looks at
it, or the step is undefined, so that it is not at most zero. -/
def Overlooked (f : Function Float) (x : Reading Float (Tensor Float)) (i : Int) (step : Float) : Prop :=
  ¬step ≤ 0 ∧ HasOutput f i ∧
    ((∃ point, x = .ok point ∧ point.data = [] ∧ ¬IsPoint f point) ∨
      step.isNaN = true ∧ ∃ slope, Estimated f x i step slope)

/-- The answer to any request. -/
theorem answer_differences_iff : answer (differences (.ok f) x i (.ok step)) s = .ok slope ↔
    ¬step ≤ 0 ∧ HasOutput f i ∧ (Estimated f x i step slope ∨
      ∃ point, x = .ok point ∧ point.data = [] ∧ ¬IsPoint f point ∧ slope.shape = point.shape) := by
  rw [answer_differences_eq_ok_iff]
  simp only [Function.differences_eq_ok_iff, Estimated]
  constructor
  · rintro ⟨point, hx, hstep, hi, hslope | hempty⟩
    · exact ⟨hstep, hi, .inl ⟨point, hx, hslope⟩⟩
    · exact ⟨hstep, hi, .inr ⟨point, hx, hempty⟩⟩
  · rintro ⟨hstep, hi, ⟨point, hx, hslope⟩ | ⟨point, hx, hempty⟩⟩
    · exact ⟨point, hx, hstep, hi, .inl hslope⟩
    · exact ⟨point, hx, hstep, hi, .inr hempty⟩

theorem Estimated.exists_isPoint (h : Estimated f x i step slope) : ∃ point, x = .ok point ∧ IsPoint f point := by
  obtain ⟨point, hx, hslope⟩ := h
  exact ⟨point, hx, hslope.point_shape⟩

theorem WellPosed.isPoint {point : Tensor Float} (h : WellPosed f x i step) (hx : x = .ok point) : IsPoint f point := by
  obtain ⟨point', hx', hpoint⟩ := h.point
  cases hx.symm.trans hx'
  exact hpoint

theorem WellPosed.defined (h : WellPosed f x i step) : step.isNaN = false :=
  (Binary64.defined_of_le (Binary64.le_of_lt h.step_pos)).2

/-- A step that is not at most zero is positive unless it is undefined. -/
theorem step_pos_of_not_le (hstep : ¬step ≤ 0) (hdefined : step.isNaN = false) : 0 < step :=
  (Binary64.lt_iff_not_le (by decide) hdefined).2 hstep

/-- A well-posed request is answered with the estimate, and with nothing else. -/
theorem answer_of_wellPosed (h : WellPosed f x i step) :
    answer (differences (.ok f) x i (.ok step)) s = .ok slope ↔ Estimated f x i step slope := by
  have hstep : ¬step ≤ 0 := Binary64.not_le_of_lt h.step_pos
  have hseen : ¬∃ point, x = .ok point ∧ point.data = [] ∧ ¬IsPoint f point ∧ slope.shape = point.shape := by
    rintro ⟨point, hx, -, hshape, -⟩
    exact hshape (h.isPoint hx)
  rw [answer_differences_iff, and_iff_right hstep, and_iff_right h.output, or_iff_left hseen]

/-- What is answered is well-posed unless it is overlooked. -/
theorem wellPosed_of_answer (hseen : ¬Overlooked f x i step)
    (h : answer (differences (.ok f) x i (.ok step)) s = .ok slope) :
    WellPosed f x i step ∧ Estimated f x i step slope := by
  obtain ⟨hstep, hi, hestimated | ⟨point, hx, hempty, hshape, -⟩⟩ := answer_differences_iff.1 h
  · have hdefined : step.isNaN = false := Bool.eq_false_iff.2 fun hundefined ↦
      hseen ⟨hstep, hi, .inr ⟨hundefined, slope, hestimated⟩⟩
    exact ⟨⟨hestimated.exists_isPoint, hi, step_pos_of_not_le hstep hdefined⟩, hestimated⟩
  · exact absurd ⟨hstep, hi, .inl ⟨point, hx, hempty, hshape⟩⟩ hseen

/-- What is overlooked is answered, though it is not well-posed. -/
theorem exists_answer_of_overlooked (h : Overlooked f x i step) :
    ¬WellPosed f x i step ∧ ∃ slope, answer (differences (.ok f) x i (.ok step)) s = .ok slope := by
  obtain ⟨hstep, hi, ⟨point, hx, hempty, hshape⟩ | ⟨hundefined, slope, hslope⟩⟩ := h
  · refine ⟨fun hposed ↦ hshape (hposed.isPoint hx), point, ?_⟩
    exact answer_differences_iff.2 ⟨hstep, hi, .inr ⟨point, hx, hempty, hshape, rfl⟩⟩
  · refine ⟨fun hposed ↦ ?_, slope, answer_differences_iff.2 ⟨hstep, hi, .inl hslope⟩⟩
    rw [hposed.defined] at hundefined
    cases hundefined

/-- Every request that is not overlooked is dealt with as it is to be, and every one that is overlooked is answered. A
well-posed request is answered as soon as the function has a value wherever it is evaluated. -/
theorem guarded_iff (f : Function Float) (x : Reading Float (Tensor Float)) (i : Int) (step : Float) (s : Session) :
    (Guarded f x i step s ↔ ¬Overlooked f x i step) ∧
    (Overlooked f x i step →
      ¬WellPosed f x i step ∧ ∃ slope, answer (differences (.ok f) x i (.ok step)) s = .ok slope) ∧
    (WellPosed f x i step → ∀ slope,
      answer (differences (.ok f) x i (.ok step)) s = .ok slope ↔ Estimated f x i step slope) := by
  refine ⟨⟨fun hguarded hoverlooked ↦ ?_, fun hseen ↦ ⟨fun _ ↦ wellPosed_of_answer hseen, fun hposed ↦ ?_⟩⟩,
    exists_answer_of_overlooked, fun hposed _ ↦ answer_of_wellPosed hposed⟩
  · obtain ⟨hposed, slope, hslope⟩ := exists_answer_of_overlooked (s := s) hoverlooked
    exact hposed (hguarded.answered slope hslope).1
  · cases hanswer : answer (differences (.ok f) x i (.ok step)) s with
    | error e => exact ⟨e, rfl⟩
    | ok slope => exact absurd (wellPosed_of_answer hseen hanswer).1 hposed

/-- A user's function whose outputs are the squares of its arguments. -/
def squares (n : Nat) : Custom Float where
  className := "Squares"
  tier := .value
  name := ""
  inputs := n
  outputs := n
  compute x := .ok (.ofList (x.map fun v ↦ v * v))
  gradient _ _ := .error (.unfit .missing)
  jacobian := none
  hessian _ _ := .error (.unfit .missing)

/-- The squares of the arguments are answered at every point. -/
theorem evaluate_squares {n : Nat} {point : Tensor Float} (h : point.shape = [n]) :
    (Function.custom (squares n)).evaluate point = .ok (point.data.map fun v ↦ v * v) := by
  have hlength : (point.data.map fun v ↦ v * v).length = n := by rw [List.length_map, Tensor.length_of_shape h]
  exact Function.evaluate_of_compute h rfl hlength

/-- Only the second square changes with the second argument. -/
theorem estimates_squares : (Function.custom (squares 2)).Estimates (.vector [1, 3]) 1 1 (.vector [0, 6]) := by
  refine ⟨rfl, rfl, fun j hj ↦ ?_⟩
  change j < 2 at hj
  obtain rfl | rfl : j = 0 ∨ j = 1 := by omega
  · exact ⟨0, ⟨_, 9, _, 9, evaluate_squares rfl, by decide +kernel, evaluate_squares rfl, by decide +kernel,
      by decide +kernel⟩, rfl⟩
  · exact ⟨6, ⟨_, 16, _, 4, evaluate_squares rfl, by decide +kernel, evaluate_squares rfl, by decide +kernel,
      by decide +kernel⟩, rfl⟩

/-- A step of one gives the gradient of the second square. -/
theorem guarded_iff_squares :
    let f := Function.custom (squares 2)
    let x : Reading Float (Tensor Float) := .ok (.vector [1, 3])
    let s : Session := {}
    WellPosed f x 1 1 ∧ Guarded f x 1 1 s ∧ answer (differences (.ok f) x 1 (.ok 1)) s = .ok (.vector [0, 6]) := by
  intro f x s
  have hposed : WellPosed f x 1 1 := ⟨⟨_, rfl, rfl⟩, by decide, by decide⟩
  have hseen : ¬Overlooked f x 1 1 := by
    rintro ⟨-, -, ⟨point, hx, hempty, -⟩ | ⟨hundefined, -⟩⟩
    · rw [← Except.ok.inj hx] at hempty
      cases hempty
    · exact absurd hundefined (by decide)
  obtain ⟨hguarded, -, hanswer⟩ := guarded_iff f x 1 1 s
  exact ⟨hposed, hguarded.2 hseen, (hanswer hposed _).2 ⟨_, rfl, estimates_squares⟩⟩

/-- It is not true that every request is dealt with as it is to be: a point without entries is answered by as many
differences, and an undefined step by undefined ones. -/
theorem not_guarded_of_constant :
    Function.ofConstant (.ofNat 1) (.ok (.vector [2])) "" = .ok (.constant "" 1 [2]) ∧
      ¬Guarded (.constant "" 1 [2]) (.ok (.vector [])) 0 1e-6 {} ∧
      ¬Guarded (.constant "" 1 [2]) (.ok (.vector [0])) 0 (0 / 0) {} := by
  refine ⟨rfl, fun hguarded ↦ ?_, fun hguarded ↦ ?_⟩
  · have hanswer : answer (differences (.ok (.constant "" 1 [2])) (.ok (.vector [])) 0 (.ok 1e-6)) {} =
      .ok (.vector []) := rfl
    obtain ⟨point, hx, hpoint⟩ := (hguarded.answered _ hanswer).1.point
    cases hx
    cases hpoint
  · have hanswer : answer (differences (.ok (.constant "" 1 [2])) (.ok (.vector [0])) 0 (.ok (0 / 0))) {} =
      .ok (.vector [0 / 0]) := rfl
    exact absurd (hguarded.answered _ hanswer).1.step_pos (by decide)

end Extremum.Session
