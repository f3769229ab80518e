import Extremum.Proofs.Solver.Lifecycle

/-!
# Procedures that fail

A procedure may fail at any of its steps. The step that fails has stored nothing, but what the steps before it
have stored stays, and asking again answers it as if the procedure had come to its end. So a failure leaves a
solver without an outcome exactly if the steps before it do, when they are taken one after the other
(`crash_of_raised`). The procedures of the library store last, and leave nothing behind when they fail.
-/

namespace Extremum

/-- The solution that consists of the starting point and the value of the objective there. -/
def Problem.startSolution (p : Problem Float) : Reading Float Solution :=
  let x := p.start.elim (Tensor.scalar (0.0 / 0.0)) Tensor.vector
  (⟨x.data, ·, [], []⟩) <$> p.objective.evaluate x

/-- What a step makes of the outcome of a solver that owns a problem, whether the step fails or not. -/
def Action.leave (p : Option (Problem Float)) (o : Outcome) : Action → Outcome
  | store given => (Solver.accepted given).toOption.getD o
  | storeStart => ((p.bind fun p ↦ p.startSolution.toOption).map .solved).getD o
  | notify .. => o
  | reset => .unsolved
  | fail _ => o
  | attempt step => step.leave p o

namespace Session

variable {s t : Session} {r : Ref Solver} {v : Solver} {p : Option (Problem Float)} {o : Outcome}

/-- A solver owns a problem, and has stored an outcome. -/
def Has (s : Session) (r : Ref Solver) (p : Option (Problem Float)) (o : Outcome) : Prop :=
  ∃ v, s.solvers.get? r = some v ∧ v.problem.bind s.problems.get? = p ∧ v.outcome = o

/-! ## What one step leaves behind -/

theorem Has.undisturbed (h : s.Has r p o) (hst : Undisturbed s t) : t.Has r p o := by
  obtain ⟨v, hv, howned, hstored⟩ := h
  exact ⟨v, by rw [hst.solvers, hv], by rw [hst.problems, howned], hstored⟩

theorem has_set (hv : s.solvers.get? r = some v) (howned : v.problem.bind s.problems.get? = p)
    (o : Outcome) : Has { s with solvers := s.solvers.set r { v with outcome := o } } r p o :=
  ⟨_, Arena.get?_set_self _ _ _ hv, howned, rfl⟩

/-- Storing an outcome that is accepted replaces the old one, and any other attempt changes nothing. -/
theorem has_storeOutcome (h : s.Has r p o) (given : Given Outcome) :
    (perform (storeOutcome r given) s).2.Has r p ((Solver.accepted given).toOption.getD o) := by
  obtain ⟨v, hv, howned, hstored⟩ := h
  rw [perform_storeOutcome hv]
  cases Solver.accepted given with
  | error e => exact ⟨v, hv, howned, hstored⟩
  | ok outcome => exact has_set hv howned outcome

theorem has_storeStart (h : s.Has r p o) :
    (perform (storeStart r) s).2.Has r p (Action.storeStart.leave p o) := by
  obtain ⟨v, hv, howned, hstored⟩ := h
  have hread := perform_ownedProblem hv
  unfold storeStart
  rw [howned] at hread
  cases p with
  | none =>
    rw [perform_bind_of_error hread]
    exact ⟨v, hv, howned, hstored⟩
  | some p =>
    rw [perform_bind_of_ok hread]
    unfold Action.leave
    rw [Option.bind_some, perform_bind, perform_lift]
    unfold Problem.startSolution
    dsimp only
    cases p.objective.evaluate (p.start.elim (Tensor.scalar (0.0 / 0.0)) Tensor.vector) with
    | error e => exact ⟨v, hv, howned, hstored⟩
    | ok value => exact has_storeOutcome ⟨v, hv, howned, hstored⟩ (.ok (.solved _))

/-- One step of a script leaves behind what `Action.leave` says. -/
theorem has_act (h : s.Has r p o) (step : Action) : (perform (act r step) s).2.Has r p (step.leave p o) := by
  induction step with
  | store given => exact has_storeOutcome h given
  | storeStart => exact has_storeStart h
  | notify x cost => exact h.undisturbed (undisturbed_notifyAt r x cost s)
  | reset =>
    obtain ⟨v, hv, howned, -⟩ := h
    unfold act
    rw [perform_reset hv]
    exact has_set hv howned .unsolved
  | fail e => exact h
  | attempt step ih =>
    unfold act
    rw [perform_tryCatch]
    rcases hstep : perform (act r step) s with ⟨answer, t⟩
    rw [hstep] at ih
    cases answer <;> exact ih

/-! ## What a run leaves behind -/

/-- The steps before a failure leave behind what they say, one after the other. -/
theorem has_forM_act (h : s.Has r p o) {done : List Action}
    (hdone : perform (done.forM (act r)) s = (.ok (), t)) : t.Has r p (done.foldl (Action.leave p) o) := by
  induction done generalizing s o with
  | nil =>
    cases hdone
    exact h
  | cons step rest ih =>
    have hfirst := has_act h step
    obtain ⟨_, u, hstep, hrest⟩ := bind_of_ok (m := act r step) (k := fun _ ↦ rest.forM (act r)) hdone
    rw [hstep] at hfirst
    exact ih hfirst hrest

/-- The session in which the steps of a procedure are done for the outcome of a solver. -/
def running (s : Session) (r : Ref Solver) (v : Solver) : Session :=
  { s.solving v with solvers := s.solvers.set r { v with calls := v.calls + 1 } }

/-- What is left of a run that has failed after some steps. -/
structure Crash (s : Session) (r : Ref Solver) (v : Solver) (actions : List Action) (e : Error Float)
    (t : Session) (done : List Action) (w : Solver) : Prop where
  /-- The failure has come from the step after those that were done. -/
  reached : ∃ step rest u, actions = done ++ step :: rest ∧
    perform (done.forM (act r)) (s.running r v) = (.ok (), u) ∧ perform (act r step) u = (.error e, t)
  solver : t.solvers.get? r = some w
  /-- The outcome is what the steps that were done leave behind. -/
  outcome : w.outcome = done.foldl (Action.leave (v.problem.bind s.problems.get?)) .unsolved
  /-- Without an outcome, asking again runs the procedure again. -/
  again : w.outcome = .unsolved →
    ∃ x, (perform (minimum r) t).2.solvers.get? r = some x ∧ x.calls = w.calls + 1
  /-- An outcome that has been left behind is what asking again answers. -/
  stale : w.outcome ≠ .unsolved → perform (minimum r) t = (.ok w.outcome, t)

/-- Asking a solver without an outcome fails in the way its procedure does, and leaves behind what the steps
before the failure have stored last and have not reset. -/
theorem crash_of_raised {actions : List Action} {e : Error Float} (hv : s.solvers.get? r = some v)
    (hscript : v.kind.procedure = some (.script actions)) (hnew : v.outcome = .unsolved)
    (hraised : perform (solve r) (s.solving v) = (.error e, t)) :
    perform (minimum r) s = (.error e, t) ∧ ∃ done w, Crash s r v actions e t done w := by
  have hfinal : v.outcome.isFinal = false := by rw [hnew, Outcome.isFinal_unsolved]
  refine ⟨perform_minimum_of_raised hv hfinal hraised, ?_⟩
  have hrun : perform (actions.forM (act r)) (s.running r v) = (.error e, t) := by
    rw [← hraised]
    exact (perform_solve_script (s := s.solving v) hv hscript).symm
  obtain ⟨done, step, rest, u, hactions, hdone, hfails⟩ := forM_of_error hrun
  have hbefore : (s.running r v).Has r (v.problem.bind s.problems.get?) .unsolved :=
    ⟨_, Arena.get?_set_self _ _ _ hv, rfl, hnew⟩
  obtain ⟨w, hw, -, hleft⟩ := (has_forM_act hbefore hdone).undisturbed (spares_act r step u e t hfails)
  have hkind : w.kind.procedure = some (.script actions) := by
    obtain ⟨x, hx, hkind⟩ := solver_of_solve hv
    rw [hraised, hw] at hx
    cases hx
    rw [hkind, hscript]
  refine ⟨done, w, ⟨step, rest, u, hactions, hdone, hfails⟩, hw, hleft, fun hnothing ↦ ?_, fun hstored ↦ ?_⟩
  · have hruns := runs_of_minimum hw hkind
    rw [hnothing, Outcome.isFinal_unsolved, if_neg Bool.false_ne_true] at hruns
    exact hruns
  · cases hdecided : w.outcome.isFinal with
    | true => exact perform_minimum_of_final hw hdecided
    | false => exact absurd (Outcome.eq_unsolved_of_isFinal_eq_false hdecided) hstored

/-- A procedure that reports a failure and then fails itself. -/
def crashing : List Action :=
  [.store (.ok (.failed "partial" none)), .fail (.raised "RuntimeError" "back-end crashed")]

def crashingSession : Session :=
  ({} : Session).after [.declare { objective := .ok (.constant "level" 1 [2]) },
    .build { name := "Crashing", procedure := some (.script crashing) } (some (.ok ⟨0⟩))]

/-- Its procedure fails on the first run, and the report stays behind. -/
theorem solve_crashing : ∃ v e t w, crashingSession.solvers.get? ⟨0⟩ = some v ∧
    v.kind.procedure = some (.script crashing) ∧ v.outcome = .unsolved ∧
      perform (solve ⟨0⟩) (crashingSession.solving v) = (.error e, t) ∧
        t.solvers.get? ⟨0⟩ = some w ∧ w.outcome = .failed "partial" none :=
  ⟨_, _, _, _, by rfl, by rfl, by rfl, by rfl, by rfl, by rfl⟩

/-- A solver that stores a failure and then raises answers with what it stored when it is asked again. -/
theorem crash_of_raised_crashing : ∃ v e t w, crashingSession.solvers.get? ⟨0⟩ = some v ∧
    perform (minimum ⟨0⟩) crashingSession = (.error e, t) ∧ t.solvers.get? ⟨0⟩ = some w ∧
      w.outcome = .failed "partial" none ∧ perform (minimum ⟨0⟩) t = (.ok w.outcome, t) := by
  obtain ⟨v, e, t, x, hv, hscript, hnew, hraised, hx, hleft⟩ := solve_crashing
  obtain ⟨hminimum, done, w, hcrash⟩ := crash_of_raised hv hscript hnew hraised
  obtain rfl : x = w := Option.some.inj (hx.symm.trans hcrash.solver)
  have hstored : x.outcome ≠ .unsolved := by
    intro h
    rw [hleft] at h
    cases h
  exact ⟨v, e, t, x, hv, hminimum, hx, hleft, hcrash.stale hstored⟩

/-- It is not true that asking leaves a solver without an outcome whenever its procedure fails. -/
theorem not_unsolved_of_crashing :
    ¬∀ {s t : Session} {r : Ref Solver} {v : Solver} {actions : List Action} {e : Error Float},
      s.solvers.get? r = some v → v.kind.procedure = some (.script actions) → v.outcome = .unsolved →
      perform (solve r) (s.solving v) = (.error e, t) → perform (minimum r) s = (.error e, t) →
      ∃ w, t.solvers.get? r = some w ∧ w.outcome = .unsolved := by
  intro hclaim
  obtain ⟨v, e, t, x, hv, hscript, hnew, hraised, hx, hleft⟩ := solve_crashing
  have hfinal : v.outcome.isFinal = false := by rw [hnew, Outcome.isFinal_unsolved]
  have hminimum := perform_minimum_of_raised hv hfinal hraised
  obtain ⟨w, hw, hnothing⟩ := hclaim hv hscript hnew hraised hminimum
  obtain rfl : x = w := Option.some.inj (hx.symm.trans hw)
  rw [hleft] at hnothing
  cases hnothing

end Session

end Extremum
