import Extremum.Proofs.Problem.Feasibility
import Extremum.Proofs.Solver.Solitude

/-!
# Solvers that record the starting point

A solver of this class evaluates its problem at the starting point, or at zero, tells about that one iterate, and
stores a failure with what it has evaluated. The callback is called once, before anything is stored, and with an
iterate of its own: whatever it does to that, the failure is the same. If the callback or an evaluation fails, nothing
is stored. Main statement: `recordsStart_of_unsolved`.
-/

namespace Extremum

open Session

/-! ## The starting point -/

namespace Problem

variable {p : Problem Float}

/-- The point that a solver starts at: that of the problem, or zero. -/
def startPoint (p : Problem Float) : List Float :=
  p.start.getD (Vec.zeros p.inputSize)

/-- What is stored in the end: a failure with the starting point, and with the values there of the objective and of all
constraints. -/
def startFailure (p : Problem Float) (value : List Float) (outputs : List (List Float)) : Outcome :=
  .failed Solver.failureMessage (some (.solved ⟨p.startPoint, value, outputs.flatten, []⟩))

theorem WellFormed.length_startPoint (h : p.WellFormed) : p.startPoint.length = p.inputSize := by
  unfold startPoint
  cases hstart : p.start with
  | none => exact Vec.length_zeros p.inputSize
  | some x => exact h.start x hstart

/-- The outputs of all constraints, one after the other, are as many as they should be. -/
theorem length_flatten_of_mapM {x : Tensor Float} {outputs : List (List Float)}
    (h : (p.constraints.mapM fun c ↦ c.function.evaluate x) = .ok outputs) :
    outputs.flatten.length = p.constraintOutputs := by
  have houtputs := (Reading.mapM_eq_ok_iff.1 h).imp fun _ _ hvalue ↦ (Function.length_of_evaluate hvalue).symm
  have hlengths : p.constraints.map Constraint.outputSize = outputs.map List.length := by
    rw [← List.forall₂_eq_eq_eq, List.forall₂_map_left_iff, List.forall₂_map_right_iff]
    exact houtputs
  rw [List.length_flatten, ← hlengths, constraintOutputs_eq_sum]

/-- The violation can be computed if all constraints can be evaluated. -/
theorem exists_violation {x : List Float} {outputs : List (List Float)} (hx : x.length = p.inputSize)
    (h : (p.constraints.mapM fun c ↦ c.function.evaluate (.vector x)) = .ok outputs) :
    ∃ violation, p.violation (.vector x) = .ok violation := by
  have hviolation : ∀ c ∈ p.constraints, ∃ v, c.violation (.vector x) = .ok v ∧ True := by
    intro c hc
    obtain ⟨value, hvalue⟩ := Reading.exists_of_mapM h hc
    exact ⟨_, Constraint.violation_of_evaluate hvalue, trivial⟩
  obtain ⟨violations, hviolations, -⟩ := Reading.exists_mapM hviolation
  exact ⟨_, violation_of_mapM hx hviolations⟩

/-- Otherwise it fails as the first constraint does that cannot be evaluated. -/
theorem violation_of_error {x : List Float} {e : Error Float} (hx : x.length = p.inputSize)
    (h : (p.constraints.mapM fun c ↦ c.function.evaluate (.vector x)) = .error e) :
    p.violation (.vector x) = .error e := by
  have hviolations (constraints : List (Constraint Float))
      (h : (constraints.mapM fun c ↦ c.function.evaluate (.vector x)) = .error e) :
      (constraints.mapM fun c ↦ c.violation (.vector x)) = .error e := by
    induction constraints with
    | nil => cases h
    | cons c rest ih =>
      rw [List.mapM_cons, Reading.bind_eq_error_iff] at h ⊢
      obtain hfirst | ⟨value, hvalue, h⟩ := h
      · exact .inl (Reading.bind_eq_error_iff.2 (.inl hfirst))
      · obtain hrest | ⟨values, -, hlast⟩ := Reading.bind_eq_error_iff.1 h
        · exact .inr ⟨_, Constraint.violation_of_evaluate hvalue, Reading.bind_eq_error_iff.2 (.inl (ih hrest))⟩
        · cases hlast
  unfold violation
  rw [Tensor.shape_vector, hx, if_pos rfl, hviolations p.constraints h]
  rfl

end Problem

namespace Session

variable {s t : Session} {r : Ref Solver} {v : Solver} {p : Problem Float}

/-! ## The iterate at the starting point -/

/-- The two parameters of the iterate at the starting point are made and put under their keys. -/
theorem exists_perform_startSettings (parameters : Arena Parameter) :
    ∃ settings : Settings, perform startSettings ⟨parameters, {}⟩ = (.ok (), settings) ∧
      settings.contents = [("dummy-parameter", ⟨.float 42.0, "dummy parameter"⟩),
        ("dummy-iteration", ⟨.int 0, "iteration counter"⟩)] := by
  obtain ⟨first, hfirst, hheld⟩ :=
    (Settings.Holds.empty parameters).put "dummy-parameter" (.float 42.0) "dummy parameter"
  obtain ⟨second, hsecond, hheld'⟩ := hheld.put "dummy-iteration" (.int 0) "iteration counter"
  exact ⟨second, (perform_bind_of_ok hfirst _).trans hsecond, hheld'.contents_eq⟩

/-- What is known of the starting point when it is told about. -/
structure IsStart (p : Problem Float) (value : List Float) (parameters : Arena Parameter) (i : Iterate) : Prop where
  x : i.x = p.startPoint
  cost : i.cost = value.head?
  violation : ∃ violation, p.violation (.vector p.startPoint) = .ok violation ∧ i.violation = some violation
  contents : Settings.contents ⟨parameters, i.store⟩ = [("dummy-parameter", ⟨.float 42.0, "dummy parameter"⟩),
    ("dummy-iteration", ⟨.int 0, "iteration counter"⟩)]

/-- Where the violation can be computed, there is an iterate at the start. -/
theorem exists_start {violation : Float} (h : p.violation (.vector p.startPoint) = .ok violation) (value : List Float)
    (s : Session) : ∃ i parameters, IsStart p value parameters i ∧
      perform (startIterate p p.startPoint value) s = (.ok i, { s with parameters }) := by
  obtain ⟨settings, hsettings, hcontents⟩ := exists_perform_startSettings s.parameters
  have hrun : startSettings.run ⟨s.parameters, {}⟩ = (.ok (), settings) := hsettings
  refine ⟨{ x := p.startPoint, cost := value.head?, violation := some violation, store := settings.store },
    settings.parameters, ⟨rfl, rfl, ⟨violation, h, rfl⟩, hcontents⟩, ?_⟩
  unfold startIterate
  rw [h, perform_bind_of_ok (perform_lift _ s), perform_bind_of_ok (perform_get s), hrun]
  rfl

/-! ## Solving -/

section Evaluated

variable {value : List Float} {outputs : List (List Float)} {i j : Iterate} {parameters : Arena Parameter}

/-- The objective is evaluated, and then the iterate is told about. -/
theorem perform_recordStart (hv : s.solvers.get? r = some v) (hp : v.problem.bind s.problems.get? = some p)
    (hvalue : p.objective.evaluate (.vector p.startPoint) = .ok value) :
    perform (recordStart r) s = perform (tellStart p p.startPoint value r >>= fun _ ↦
      lift (p.constraints.mapM fun c ↦ c.function.evaluate (.vector p.startPoint)) >>= fun outputs ↦
        storeOutcome r (.ok (p.startFailure value outputs))) s := by
  rw [recordStart_eq, perform_bind_of_ok (perform_ownedProblem_of_some hv hp)]
  dsimp only
  change perform (lift (p.objective.evaluate (.vector p.startPoint)) >>= _) s = _
  rw [hvalue, perform_bind_of_ok (perform_lift _ s)]
  rfl

theorem perform_recordStart_of_error {e : Error Float} (hv : s.solvers.get? r = some v)
    (hp : v.problem.bind s.problems.get? = some p)
    (hvalue : p.objective.evaluate (.vector p.startPoint) = .error e) :
    perform (recordStart r) s = (.error e, s) := by
  rw [recordStart_eq, perform_bind_of_ok (perform_ownedProblem_of_some hv hp)]
  dsimp only
  change perform (lift (p.objective.evaluate (.vector p.startPoint)) >>= _) s = _
  rw [hvalue, perform_bind_of_error (perform_lift _ s)]

/-- Once the iterate has been told about, a failure is stored that does not depend on what became of it. -/
theorem exists_perform_recordStart (hv : s.solvers.get? r = some v) (hp : v.problem.bind s.problems.get? = some p)
    (hvalue : p.objective.evaluate (.vector p.startPoint) = .ok value)
    (houtputs : (p.constraints.mapM fun c ↦ c.function.evaluate (.vector p.startPoint)) = .ok outputs)
    (hstart : perform (startIterate p p.startPoint value) s = (.ok i, { s with parameters }))
    (hnotify : perform (notify r i) { s with parameters } = (.ok j, t)) (ht : t.solvers.get? r = some v) :
    ∃ log, perform (recordStart r) s =
      (.ok (), { t with log, solvers := t.solvers.set r { v with outcome := p.startFailure value outputs } }) := by
  let log := t.log.debug (Logging.rootName ++ ".solver.dummy") ("Dummy iteration:\n" ++ j.text t.parameters)
  have htell : perform (tellStart p p.startPoint value r) s = (.ok (), { t with log }) := by
    unfold tellStart
    rw [perform_bind_of_ok hstart, perform_bind_of_ok hnotify]
    rfl
  have hstored := perform_storeOutcome (s := { t with log }) ht (.ok (p.startFailure value outputs))
  refine ⟨log, ?_⟩
  rw [perform_recordStart hv hp hvalue, perform_bind_of_ok htell, houtputs, perform_bind_of_ok (perform_lift _ _),
    hstored]
  rfl

/-- If telling about it fails, nothing is stored. -/
theorem perform_recordStart_of_notify_error {e : Error Float} (hv : s.solvers.get? r = some v)
    (hp : v.problem.bind s.problems.get? = some p)
    (hvalue : p.objective.evaluate (.vector p.startPoint) = .ok value)
    (hstart : perform (startIterate p p.startPoint value) s = (.ok i, { s with parameters }))
    (hnotify : perform (notify r i) { s with parameters } = (.error e, t)) :
    perform (recordStart r) s = (.error e, t) := by
  have htell : perform (tellStart p p.startPoint value r) s = (.error e, t) := by
    unfold tellStart
    rw [perform_bind_of_ok hstart, perform_bind_of_error hnotify]
  rw [perform_recordStart hv hp hvalue, perform_bind_of_error htell]

end Evaluated

/-! ## Asking for the outcome -/

/-- What comes of asking a solver for its outcome, with the iterate `i` and the parameters that the callback is given,
and with the outcome `o` if the callback returns. The callback is called once, and that is all that it is for. -/
structure TellsOnce (r : Ref Solver) (v : Solver) (p : Problem Float) (i : Iterate) (parameters : Arena Parameter)
    (o : Outcome) (s : Session) : Prop where
  silent : v.callback = none → ∃ log, perform (minimum r) s =
    (.ok o, { s with parameters, log, solvers := s.solvers.set r { v with outcome := o } })
  /-- One iteration more is noted down, with the problem of the solver. -/
  record : v.callback = some .record → ∃ log, perform (minimum r) s =
    (.ok o, { s with
      parameters, log
      notices := s.notices ++ [⟨p, i, Settings.contents ⟨parameters, i.store⟩, i.text parameters⟩]
      solvers := s.solvers.set r { v with outcome := o } })
  /-- The callback is called with the problem of the solver, and what it makes of the iterate is not asked for. -/
  react : ∀ call, v.callback = some (.react call) → ∃ log, perform (minimum r) s =
    match (call p i).run parameters with
    | (.ok _, parameters) => (.ok o, { s with parameters, log, solvers := s.solvers.set r { v with outcome := o } })
    | (.error e, parameters) => (.error e, { s with parameters, log })

/-- A solver records the starting point of its problem. -/
structure RecordsStart (r : Ref Solver) (v : Solver) (p : Problem Float) (s : Session) : Prop where
  /-- If all functions can be evaluated there, the callback is told about it once, and the values are stored. -/
  told : ∀ value outputs, p.objective.evaluate (.vector p.startPoint) = .ok value →
    (p.constraints.mapM fun c ↦ c.function.evaluate (.vector p.startPoint)) = .ok outputs →
      outputs.flatten.length = p.constraintOutputs ∧
        ∃ i parameters, IsStart p value parameters i ∧ TellsOnce r v p i parameters (p.startFailure value outputs) s
  /-- If one cannot, the callback is not called, and nothing but the log is changed. -/
  untold : ∀ e, (p.objective.evaluate (.vector p.startPoint) = .error e ∨
    (∃ value, p.objective.evaluate (.vector p.startPoint) = .ok value) ∧
      (p.constraints.mapM fun c ↦ c.function.evaluate (.vector p.startPoint)) = .error e) →
    ∃ log, perform (minimum r) s = (.error e, { s with log })
  /-- Whatever fails, nothing is stored. -/
  raised : ∀ e t, perform (minimum r) s = (.error e, t) → t.solvers = s.solvers

section Unsolved

variable {value : List Float} {outputs : List (List Float)} {i j : Iterate} {parameters : Arena Parameter}
  {e : Error Float}

variable (hv : s.solvers.get? r = some v) (hclass : v.kind.procedure = some .recordStart) (hnew : v.outcome = .unsolved)

include hv hclass

/-- Solving is recording the starting point. -/
theorem perform_solve_recordStart : perform (solve r) (s.solving v) = perform (recordStart r) (s.solving v) := by
  rw [perform_solve (s := s.solving v) hv, hclass]
  rfl

include hnew

/-- What recording fails with, asking fails with. -/
theorem perform_minimum_of_recordStart (h : perform (recordStart r) (s.solving v) = (.error e, t)) :
    perform (minimum r) s = (.error e, t) := by
  have hfinal : v.outcome.isFinal = false := by rw [hnew, Outcome.isFinal_unsolved]
  exact perform_minimum_of_raised hv hfinal ((perform_solve_recordStart hv hclass).trans h)

variable (hp : v.problem.bind s.problems.get? = some p)

include hp

/-- The failure is the outcome once the iterate has been told about. -/
theorem exists_perform_minimum (hvalue : p.objective.evaluate (.vector p.startPoint) = .ok value)
    (houtputs : (p.constraints.mapM fun c ↦ c.function.evaluate (.vector p.startPoint)) = .ok outputs)
    (hstart : perform (startIterate p p.startPoint value) (s.solving v) = (.ok i, { s.solving v with parameters }))
    (hnotify : perform (notify r i) { s.solving v with parameters } = (.ok j, t)) (ht : t.solvers = s.solvers) :
    ∃ log, perform (minimum r) s = (.ok (p.startFailure value outputs),
      { t with log, solvers := s.solvers.set r { v with outcome := p.startFailure value outputs } }) := by
  have hvt : t.solvers.get? r = some v := by rwa [ht]
  obtain ⟨log, hrecord⟩ :=
    exists_perform_recordStart (s := s.solving v) hv hp hvalue houtputs hstart hnotify hvt
  have hsolve := (perform_solve_recordStart hv hclass).trans hrecord
  have hfinal : v.outcome.isFinal = false := by rw [hnew, Outcome.isFinal_unsolved]
  have hstored := Arena.get?_set_self t.solvers { v with outcome := p.startFailure value outputs } v hvt
  have hanswer := perform_minimum_of_stored hv hfinal hsolve hstored rfl
  rw [ht] at hanswer
  exact ⟨_, hanswer⟩

/-- If all functions can be evaluated at the starting point, the callback is told about it once. -/
theorem exists_tellsOnce (hx : p.startPoint.length = p.inputSize)
    (hvalue : p.objective.evaluate (.vector p.startPoint) = .ok value)
    (houtputs : (p.constraints.mapM fun c ↦ c.function.evaluate (.vector p.startPoint)) = .ok outputs) :
    ∃ i parameters, IsStart p value parameters i ∧ TellsOnce r v p i parameters (p.startFailure value outputs) s := by
  obtain ⟨violation, hviolation⟩ := Problem.exists_violation hx houtputs
  obtain ⟨i, parameters, hi, hstart⟩ := exists_start hviolation value (s.solving v)
  have hnotify := perform_notify (s := { s.solving v with parameters }) hv hp i
  have hanswer {j : Iterate} {t : Session} :=
    exists_perform_minimum (j := j) (t := t) hv hclass hnew hp hvalue houtputs hstart
  refine ⟨i, parameters, hi, ?_, ?_, ?_⟩
  · intro hcallback
    rw [hcallback] at hnotify
    exact hanswer hnotify rfl
  · intro hcallback
    rw [hcallback] at hnotify
    exact hanswer hnotify rfl
  · intro call hcallback
    rw [hcallback] at hnotify
    dsimp only at hnotify
    obtain ⟨answer, after, hcall⟩ : ∃ answer after, (call p i).run parameters = (answer, after) := ⟨_, _, rfl⟩
    rw [hcall] at hnotify ⊢
    cases answer with
    | ok j => exact hanswer hnotify rfl
    | error e =>
      have hrecord := perform_recordStart_of_notify_error (s := s.solving v) hv hp hvalue hstart hnotify
      exact ⟨_, perform_minimum_of_recordStart hv hclass hnew hrecord⟩

/-- If one of them cannot, the callback is not told. -/
theorem exists_perform_minimum_error (hx : p.startPoint.length = p.inputSize)
    (herror : p.objective.evaluate (.vector p.startPoint) = .error e ∨
      (∃ value, p.objective.evaluate (.vector p.startPoint) = .ok value) ∧
        (p.constraints.mapM fun c ↦ c.function.evaluate (.vector p.startPoint)) = .error e) :
    ∃ log, perform (minimum r) s = (.error e, { s with log }) := by
  have hrecord : perform (recordStart r) (s.solving v) = (.error e, s.solving v) := by
    obtain hvalue | ⟨⟨value, hvalue⟩, houtputs⟩ := herror
    · exact perform_recordStart_of_error (s := s.solving v) hv hp hvalue
    · have hstart := perform_startIterate_of_error (Problem.violation_of_error hx houtputs) value (s.solving v)
      have htell : perform (tellStart p p.startPoint value r) (s.solving v) = (.error e, s.solving v) := by
        unfold tellStart
        rw [perform_bind_of_error hstart]
      rw [perform_recordStart (s := s.solving v) hv hp hvalue, perform_bind_of_error htell]
  exact ⟨_, perform_minimum_of_recordStart hv hclass hnew hrecord⟩

end Unsolved

/-- Every solver of this class that has stored nothing records the starting point of its problem, if that is
well-formed. -/
theorem recordsStart_of_unsolved (hv : s.solvers.get? r = some v) (hclass : v.kind.procedure = some .recordStart)
    (hp : v.problem.bind s.problems.get? = some p) (hwf : p.WellFormed) (hnew : v.outcome = .unsolved) :
    RecordsStart r v p s := by
  have hx := hwf.length_startPoint
  have hfails (e : Error Float) := exists_perform_minimum_error (e := e) hv hclass hnew hp hx
  constructor
  case told =>
    intro value outputs hvalue houtputs
    exact ⟨Problem.length_flatten_of_mapM houtputs, exists_tellsOnce hv hclass hnew hp hx hvalue houtputs⟩
  case untold => exact hfails
  case raised =>
    intro e t ht
    cases hvalue : p.objective.evaluate (.vector p.startPoint) with
    | error e' =>
      obtain ⟨log, hminimum⟩ := hfails e' (.inl hvalue)
      cases hminimum.symm.trans ht
      rfl
    | ok value =>
      cases houtputs : p.constraints.mapM fun c ↦ c.function.evaluate (.vector p.startPoint) with
      | error e' =>
        obtain ⟨log, hminimum⟩ := hfails e' (.inr ⟨⟨value, hvalue⟩, houtputs⟩)
        cases hminimum.symm.trans ht
        rfl
      | ok outputs =>
        obtain ⟨i, parameters, -, htells⟩ := exists_tellsOnce hv hclass hnew hp hx hvalue houtputs
        cases hcallback : v.callback with
        | none =>
          obtain ⟨log, hminimum⟩ := htells.silent hcallback
          cases hminimum.symm.trans ht
        | some callback =>
          cases callback with
          | record =>
            obtain ⟨log, hminimum⟩ := htells.record hcallback
            cases hminimum.symm.trans ht
          | react call =>
            obtain ⟨log, hminimum⟩ := htells.react call hcallback
            rw [ht] at hminimum
            split at hminimum
            · cases hminimum
            · cases hminimum
              rfl

/-- A callback puts another point in the place of the starting point and takes all parameters away. The failure has the
starting point all the same, with the value of the objective and that of the constraint. -/
theorem recordsStart_of_unsolved_overwriting :
    let p : Problem Float := { widenedLast with start := some [3] }
    let call : Problem Float → Iterate → Reaction := fun _ _ _ ↦ (.ok (.zeros 1), {})
    let v : Solver := { kind := .recordStart, problem := some ⟨0⟩, callback := some (.react call) }
    let s : Session := { problems := ⟨[p]⟩, solvers := ⟨[v]⟩ }
    p.WellFormed ∧ ∃ t, t.parameters = {} ∧
      perform (minimum ⟨0⟩) s = (.ok (.failed Solver.failureMessage (some (.solved ⟨[3], [2], [2], []⟩))), t) := by
  intro p call v s
  have hwf : p.WellFormed := { wellFormed_widenedLast.2 with
    start := by
      rintro x hx
      cases hx
      rfl }
  obtain ⟨-, i, parameters, -, htells⟩ :=
    (recordsStart_of_unsolved (r := ⟨0⟩) (v := v) (p := p) (s := s) rfl rfl rfl hwf rfl).told [2] [[2]] rfl rfl
  obtain ⟨log, hminimum⟩ := htells.react call rfl
  exact ⟨hwf, _, rfl, hminimum⟩

end Session

end Extremum
