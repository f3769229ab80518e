import Extremum.Proofs.Binary64.Distance
import Extremum.Proofs.Function.Shape

/-!
# Verdicts on gradients

A gradient is compared with central differences, and the largest deviation decides: one operation answers whether it
is at most a threshold, the other fails if it is above. These are opposites as long as the deviation is defined. It is
undefined as soon as one of the differences is (`isNaN_deviation`), and then the first operation answers no while the
second one does not fail. Main statement: `verdict_of_gradientError`.
-/

namespace Extremum

namespace Scalar

variable {α : Type} [Scalar α]

/-! ## Undefined deviations -/

/-- An undefined number is never lost in a maximum. -/
theorem isNaN_max (x y : α) : isNaN (max x y) = (isNaN x || isNaN y) := by
  unfold max
  cases hx : isNaN x with
  | true => exact hx
  | false =>
    cases hy : isNaN y with
    | true => exact hy
    | false =>
      change isNaN (if x < y then y else x) = false
      split
      · exact hy
      · exact hx

/-- The maximum of a list is undefined exactly if an entry is. -/
theorem isNaN_foldl_max (x : α) (xs : List α) : isNaN (xs.foldl max x) = (isNaN x || xs.any isNaN) := by
  induction xs generalizing x with
  | nil => exact (Bool.or_false _).symm
  | cons y rest ih =>
    calc isNaN (rest.foldl max (max x y)) = (isNaN (max x y) || rest.any isNaN) := ih _
      _ = (isNaN x || (isNaN y || rest.any isNaN)) := by rw [isNaN_max, Bool.or_assoc]
      _ = (isNaN x || (y :: rest).any isNaN) := by rw [List.any_cons]

/-- The largest of some scalars is undefined exactly if one of them is. -/
theorem isNaN_maximum {start : α} (h : isNaN start = false) (xs : List α) :
    isNaN (maximum start xs) = xs.any isNaN := by
  cases xs with
  | nil => exact h
  | cons x rest => exact isNaN_foldl_max x rest

end Scalar

/-- The largest deviation of two vectors is undefined exactly if the difference of some entries is. -/
theorem Vec.isNaN_deviation (x y : List Float) : (deviation x y).isNaN = true ↔
    ∃ (k : Nat) (v w : Float), x[k]? = some v ∧ y[k]? = some w ∧ (v - w).isNaN = true := by
  have hzero : Scalar.isNaN (0 : Float) = false := by decide
  have hany : (deviation x y).isNaN = ((sub x y).map Float.abs).any Float.isNaN :=
    Scalar.isNaN_maximum hzero ((sub x y).map Scalar.abs)
  rw [hany, List.any_map, List.any_eq_true]
  simp only [Function.comp_apply, Binary64.isNaN_abs]
  constructor
  · rintro ⟨d, hd, hundefined⟩
    obtain ⟨k, hk⟩ := List.mem_iff_getElem?.1 hd
    obtain ⟨v, w, hv, hw, rfl⟩ := List.getElem?_zipWith_eq_some.1 hk
    exact ⟨k, v, w, hv, hw, hundefined⟩
  · rintro ⟨k, v, w, hv, hw, hundefined⟩
    refine ⟨v - w, List.mem_of_getElem? (List.getElem?_zipWith_eq_some.2 ⟨v, w, hv, hw, rfl⟩), hundefined⟩

namespace Session

/-! ## What the operations answer -/

variable {f : Function Float} {x : Reading Float (Tensor Float)} {i : Int} {step threshold deviation : Float}
  {s : Session}

theorem perform_gradientError : perform (gradientError f x i (.ok step)) s =
    (pointFor f .derivable x >>= (f.gradientError · i step), s) := by
  unfold gradientError
  rw [perform_bind, perform_lift]
  cases pointFor f .derivable x with
  | error e => rfl
  | ok point => exact perform_lift _ s

theorem point_of_pointFor {t : Tier} {point : Tensor Float} (h : pointFor f t x = .ok point) : x = .ok point := by
  unfold pointFor at h
  obtain ⟨-, -, h⟩ := Reading.bind_eq_ok_iff.1 h
  exact h

theorem perform_differences {point : Tensor Float} :
    perform (differences (.ok f) (.ok point) i (.ok step)) s = (f.differences point i step, s) := by
  unfold differences
  rw [perform_bind_of_ok (perform_lift _ s)]
  by_cases hstep : step ≤ 0
  · have hrefused : f.differences point i step = .error .stepNotPositive := if_pos hstep
    rw [if_pos hstep, hrefused]
    rfl
  · rw [if_neg hstep]
    exact perform_lift _ s

section Deviation

variable (h : answer (gradientError f x i (.ok step)) s = .ok deviation)

include h

/-- A deviation comes of a point that was read. -/
theorem exists_point_of_gradientError : ∃ point, x = .ok point ∧ pointFor f .derivable x = .ok point ∧
    f.gradientError point i step = .ok deviation := by
  unfold answer at h
  rw [perform_gradientError] at h
  obtain ⟨point, hpoint, h⟩ := Reading.bind_eq_ok_iff.1 h
  exact ⟨point, point_of_pointFor hpoint, hpoint, h⟩

theorem perform_of_gradientError : perform (gradientError f x i (.ok step)) s = (.ok deviation, s) := by
  unfold answer at h
  rw [perform_gradientError] at h ⊢
  exact Prod.ext h rfl

/-- The check says whether the deviation is within the threshold, and an undefined one is not. -/
theorem answer_checkGradient (threshold : Float) : answer (checkGradient f x i (.ok threshold) (.ok step)) s =
    .ok (decide (deviation ≤ threshold)) := by
  unfold answer checkGradient
  rw [perform_bind_of_ok (perform_of_gradientError h)]
  rfl

/-- The error of a gradient that deviates too much carries the point, the output and the deviation. -/
theorem answer_requireGradient (threshold : Float) : ∃ point, x = .ok point ∧
    answer (requireGradient f x i (.ok threshold) (.ok step)) s = if threshold < deviation then
      .error (.badGradient (Text.quoted (if f.name.isEmpty then f.className else f.name)) i deviation threshold
        point.shape point.data) else .ok () := by
  obtain ⟨point, hx, -, hdeviation⟩ := exists_point_of_gradientError h
  refine ⟨point, hx, ?_⟩
  unfold answer requireGradient
  rw [perform_bind_of_ok (perform_of_gradientError h), hx, perform_bind_of_ok (perform_lift _ s),
    perform_bind_of_ok (perform_lift _ s), perform_bind_of_ok (perform_lift _ s), perform_lift]
  unfold Function.requireGradient
  rw [hdeviation]
  rfl

/-- A deviation is undefined exactly if that of some entry is. -/
theorem isNaN_of_gradientError : deviation.isNaN = true ↔ ∃ slope estimate,
    answer (gradient f x i) s = .ok slope ∧ answer (differences (.ok f) x i (.ok step)) s = .ok estimate ∧
    ∃ (k : Nat) (v w : Float), slope[k]? = some v ∧ estimate.data[k]? = some w ∧ (v - w).isNaN = true := by
  obtain ⟨point, hx, hpoint, hdeviation⟩ := exists_point_of_gradientError h
  obtain ⟨slope, hslope, hdeviation⟩ := Reading.bind_eq_ok_iff.1 hdeviation
  obtain ⟨estimate, hestimate, hdeviation⟩ := Reading.bind_eq_ok_iff.1 hdeviation
  have hgradient : answer (gradient f x i) s = .ok slope := by
    rw [answer_gradient, hpoint]
    exact hslope
  have hdifferences : answer (differences (.ok f) x i (.ok step)) s = .ok estimate := by
    unfold answer
    rw [hx, perform_differences, hestimate]
  rw [← Except.ok.inj hdeviation, Vec.isNaN_deviation]
  constructor
  · intro hundefined
    exact ⟨slope, estimate, hgradient, hdifferences, hundefined⟩
  · rintro ⟨slope', estimate', hgradient', hdifferences', hundefined⟩
    rw [hgradient] at hgradient'
    rw [hdifferences] at hdifferences'
    cases hgradient'
    cases hdifferences'
    exact hundefined

end Deviation

/-! ## Verdicts -/

/-- What the two operations make of a deviation. -/
structure Verdict (f : Function Float) (x : Reading Float (Tensor Float)) (i : Int)
    (step threshold deviation : Float) (s : Session) : Prop where
  /-- One answers whether the deviation is at most the threshold. -/
  check : answer (checkGradient f x i (.ok threshold) (.ok step)) s = .ok (decide (deviation ≤ threshold))
  /-- The other fails exactly if the first one answers no and the deviation is defined. -/
  fails_iff : (∃ e, answer (requireGradient f x i (.ok threshold) (.ok step)) s = .error e) ↔
    answer (checkGradient f x i (.ok threshold) (.ok step)) s = .ok false ∧ deviation.isNaN = false
  /-- The error carries the point, the output and the deviation. -/
  carried : ∀ e, answer (requireGradient f x i (.ok threshold) (.ok step)) s = .error e →
    e.kindName = Kind.badGradient.name ∧ ∃ label point, x = .ok point ∧
      e = .badGradient label i deviation threshold point.shape point.data
  /-- If the deviation is undefined, the first one answers no and the second one does not fail. -/
  undefined : deviation.isNaN = true →
    answer (checkGradient f x i (.ok threshold) (.ok step)) s = .ok false ∧
      answer (requireGradient f x i (.ok threshold) (.ok step)) s = .ok ()
  /-- That is the case exactly if some entry of the gradient deviates from its estimate by something undefined. -/
  undefined_iff : deviation.isNaN = true ↔ ∃ slope estimate,
    answer (gradient f x i) s = .ok slope ∧ answer (differences (.ok f) x i (.ok step)) s = .ok estimate ∧
    ∃ (k : Nat) (v w : Float), slope[k]? = some v ∧ estimate.data[k]? = some w ∧ (v - w).isNaN = true

/-- The two verdicts on a gradient agree as long as its deviation is defined. -/
theorem verdict_of_gradientError (hdeviation : answer (gradientError f x i (.ok step)) s = .ok deviation)
    (hthreshold : 0 ≤ threshold) : Verdict f x i step threshold deviation s := by
  have hdefined : threshold.isNaN = false := (Binary64.defined_of_le hthreshold).2
  have hcheck := answer_checkGradient hdeviation threshold
  obtain ⟨point, hx, hrequire⟩ := answer_requireGradient hdeviation threshold
  have hno : answer (checkGradient f x i (.ok threshold) (.ok step)) s = .ok false ↔ ¬deviation ≤ threshold := by
    rw [hcheck, Except.ok.injEq, decide_eq_false_iff_not]
  refine ⟨hcheck, ⟨?_, ?_⟩, fun e he ↦ ?_, fun hundefined ↦ ?_, isNaN_of_gradientError hdeviation⟩
  · rintro ⟨e, he⟩
    rw [hrequire] at he
    split at he
    · rename_i habove
      exact ⟨hno.2 (Binary64.not_le_of_lt habove), (Binary64.defined_of_le (Binary64.le_of_lt habove)).2⟩
    · cases he
  · rintro ⟨hfalse, hdeviates⟩
    have habove : threshold < deviation := (Binary64.lt_iff_not_le hdefined hdeviates).2 (hno.1 hfalse)
    rw [hrequire, if_pos habove]
    exact ⟨_, rfl⟩
  · rw [hrequire] at he
    split at he
    · cases he
      exact ⟨rfl, _, point, hx, rfl⟩
    · cases he
  · have hnotBelow : ¬deviation ≤ threshold := by
      intro hbelow
      rw [(Binary64.defined_of_le hbelow).1] at hundefined
      cases hundefined
    have hnotAbove : ¬threshold < deviation := by
      intro habove
      rw [(Binary64.defined_of_le (Binary64.le_of_lt habove)).2] at hundefined
      cases hundefined
    rw [hrequire, if_neg hnotAbove]
    exact ⟨hno.2 hnotBelow, rfl⟩

/-- A user's function of one argument with value zero and a constant gradient. -/
def sloped (slope : Float) : Custom Float where
  className := "Sloped"
  tier := .derivable
  name := ""
  inputs := 1
  outputs := 1
  compute _ := .ok (.ofList [0])
  gradient _ _ := .ok (.ofList [slope])
  jacobian := none
  hessian _ _ := .error (.unfit .missing)

/-- A gradient of three deviates by three, and both operations say so. -/
theorem verdict_of_gradientError_sloped :
    let f := Function.custom (sloped 3)
    let x : Reading Float (Tensor Float) := .ok (.vector [0])
    let s : Session := {}
    answer (gradientError f x 0 (.ok 1e-6)) s = .ok 3 ∧
      answer (checkGradient f x 0 (.ok 1e-4) (.ok 1e-6)) s = .ok false ∧
      ∃ e, answer (requireGradient f x 0 (.ok 1e-4) (.ok 1e-6)) s = .error e ∧
        e.kindName = Kind.badGradient.name := by
  intro f x s
  have hdeviation : answer (gradientError f x 0 (.ok 1e-6)) s = .ok 3 := rfl
  have hthreshold : (0 : Float) ≤ 1e-4 := by decide
  have hverdict := verdict_of_gradientError hdeviation hthreshold
  have hcheck : answer (checkGradient f x 0 (.ok 1e-4) (.ok 1e-6)) s = .ok false := hverdict.check
  obtain ⟨e, he⟩ := hverdict.fails_iff.2 ⟨hcheck, by decide⟩
  exact ⟨hdeviation, hcheck, e, he, (hverdict.carried e he).1⟩

/-- It is not true that a gradient is refused whenever the answer is no: one that is undefined is not. -/
theorem not_refused_of_undefined :
    ¬∀ {f : Function Float} {x : Reading Float (Tensor Float)} {i : Int} {step threshold deviation : Float}
      {s : Session}, f.tier.isSubtier .derivable = true → 0 ≤ threshold → 0 < step →
      answer (gradientError f x i (.ok step)) s = .ok deviation →
      ((∃ e, answer (requireGradient f x i (.ok threshold) (.ok step)) s = .error e ∧
        e.kindName = Kind.badGradient.name) ↔
          answer (checkGradient f x i (.ok threshold) (.ok step)) s = .ok false) := by
  intro hall
  have hdeviation : answer (gradientError (.custom (sloped (0 / 0))) (.ok (.vector [0])) 0 (.ok 1e-6)) {} =
    .ok (0 / 0) := rfl
  have hcheck : answer (checkGradient (.custom (sloped (0 / 0))) (.ok (.vector [0])) 0 (.ok 1e-4) (.ok 1e-6)) {} =
    .ok false := rfl
  have hpasses : answer (requireGradient (.custom (sloped (0 / 0))) (.ok (.vector [0])) 0 (.ok 1e-4) (.ok 1e-6)) {} =
    .ok () := rfl
  obtain ⟨e, he, -⟩ := (hall rfl (by decide) (by decide) hdeviation).2 hcheck
  rw [hpasses] at he
  cases he

end Session

end Extremum
