import Extremum.Proofs.Session.Equations

/-!
# What leaves problems and solvers alone

Much of what solvers do touches neither a problem nor a solver: reading, telling about iterations and writing to
the log. An operation that does touch one may still do so only at its end, when nothing can fail any more; if it
fails, it has touched nothing.
-/

namespace Extremum.Session

variable {β : Type}

/-- Problems and solvers are what they were. -/
structure Undisturbed (s t : Session) : Prop where
  problems : t.problems = s.problems
  solvers : t.solvers = s.solvers

instance : IsPreorder Session Undisturbed where
  refl _ := ⟨rfl, rfl⟩
  trans _ _ _ hst htu := ⟨htu.problems.trans hst.problems, htu.solvers.trans hst.solvers⟩

/-! ## Looking -/

theorem undisturbed_lift (result : Except (Error Float) β) : Keeps Undisturbed (lift result) := by
  intro s
  rw [perform_lift]
  exact refl_of _ s

theorem undisturbed_logDebug (name message : String) : Keeps Undisturbed (logDebug name message) :=
  fun _ ↦ ⟨rfl, rfl⟩

theorem undisturbed_found (item : Option β) : Keeps Undisturbed (found item) := by
  cases item with
  | none => exact Keeps.throw _
  | some b => exact Keeps.pure b

theorem undisturbed_problem (r : Ref (Problem Float)) : Keeps Undisturbed (problem r) :=
  Keeps.bind Keeps.get fun _ ↦ undisturbed_found _

theorem undisturbed_solver (r : Ref Solver) : Keeps Undisturbed (solver r) :=
  Keeps.bind Keeps.get fun _ ↦ undisturbed_found _

theorem undisturbed_ownedProblem (r : Ref Solver) : Keeps Undisturbed (ownedProblem r) :=
  Keeps.bind (undisturbed_solver r) fun _ ↦
    Keeps.bind (undisturbed_found _) fun own ↦ undisturbed_problem own

theorem undisturbed_checkOwner (v : Solver) : Keeps Undisturbed (checkOwner v) := by
  unfold checkOwner
  split
  · exact Keeps.throw _
  · exact Keeps.pure _

/-! ## Telling about iterations -/

theorem undisturbed_notify (r : Ref Solver) (i : Iterate) : Keeps Undisturbed (notify r i) := by
  unfold notify
  refine Keeps.bind (undisturbed_solver r) fun v ↦ Keeps.bind (undisturbed_checkOwner v) fun _ ↦
    Keeps.bind Keeps.get fun s ↦ ?_
  split
  · exact Keeps.pure i
  · refine Keeps.bind (undisturbed_ownedProblem r) fun p ↦ ?_
    exact Keeps.bind (fun _ ↦ ⟨rfl, rfl⟩) fun _ ↦ Keeps.pure i
  · refine Keeps.bind (undisturbed_ownedProblem r) fun p ↦ ?_
    exact Keeps.bind (fun _ ↦ ⟨rfl, rfl⟩) fun _ ↦ undisturbed_lift _

theorem undisturbed_notifyAt (r : Ref Solver) (x : Reading Float (Tensor Float))
    (cost : Option (Reading Float (Option Float))) : Keeps Undisturbed (notifyAt r x cost) := by
  unfold notifyAt
  refine Keeps.bind (undisturbed_ownedProblem r) fun p ↦ Keeps.bind (undisturbed_lift _) fun i ↦
    Keeps.bind (undisturbed_lift _) fun cost ↦ ?_
  exact Keeps.bind (undisturbed_notify r _) fun _ ↦ Keeps.pure _

theorem undisturbed_startIterate (p : Problem Float) (x value : List Float) :
    Keeps Undisturbed (startIterate p x value) := by
  unfold startIterate
  refine Keeps.bind (undisturbed_lift _) fun violation ↦ Keeps.bind Keeps.get fun s ↦ ?_
  refine Keeps.bind (undisturbed_lift _) fun _ ↦ ?_
  exact Keeps.bind (fun _ ↦ ⟨rfl, rfl⟩) fun _ ↦ Keeps.pure _

/-! ## Storing last -/

theorem spares_storeOutcome (r : Ref Solver) (given : Given Outcome) :
    Spares Undisturbed (storeOutcome r given) := by
  unfold storeOutcome
  refine Spares.bind (undisturbed_solver r) fun v ↦ Spares.bind (undisturbed_lift _) fun outcome ↦ ?_
  intro s e t h
  rw [perform_setSolver] at h
  cases h

theorem spares_reset (r : Ref Solver) : Spares Undisturbed (reset r) := by
  unfold reset
  refine Spares.bind (undisturbed_solver r) fun v ↦ ?_
  intro s e t h
  rw [perform_setSolver] at h
  cases h

/-- A step that fails has stored nothing. -/
theorem spares_act (r : Ref Solver) (step : Action) : Spares Undisturbed (act r step) := by
  cases step with
  | store given => exact spares_storeOutcome r given
  | storeStart =>
    exact Spares.bind (undisturbed_ownedProblem r) fun p ↦
      Spares.bind (undisturbed_lift _) fun value ↦ spares_storeOutcome r _
  | notify x cost => exact (undisturbed_notifyAt r x cost).spares
  | reset => exact spares_reset r
  | fail e => exact (Keeps.throw e).spares
  | attempt step =>
    -- What is attempted does not fail.
    intro s e t h
    unfold act at h
    rw [perform_tryCatch] at h
    rcases hstep : perform (act r step) s with ⟨answer, u⟩
    rw [hstep] at h
    cases answer <;> cases h

end Extremum.Session
