import Extremum.Proofs.Session.Call

/-!
# What solvers own

A solver owns the problem that it was built around, or the widened copy that its class made of it. From then on
both are frozen and are what they are, whatever is called: changes of a frozen problem are refused, and a
creation that fails only opens what it has frozen itself.
-/

namespace Extremum.Session

variable {s t : Session} {r own : Ref (Problem Float)} {v : Ref Solver} {p : Problem Float}

/-- A solver is built around a problem, directly or by name. -/
inductive Builds (r : Ref (Problem Float)) (v : Ref Solver) (s t : Session) : Prop
  | directly {c : SolverClass} (h : perform (build c (some (.ok r))) s = (.ok v, t))
  | byName {name : String} {parameters : List (String × Reading Float Content)}
    (h : perform (create name parameters (.ok r)) s = (.ok v, t))

/-- A problem that a solver owns: the given one, or a frozen copy of it at more general classes. -/
def Owned (r : Ref (Problem Float)) (before : Problem Float) (own : Ref (Problem Float))
    (p : Problem Float) : Prop :=
  own = r ∧ p = before.freeze ∨
    ∃ w objectiveClass constraintClasses,
      before.widen objectiveClass constraintClasses = .ok w ∧ p = w.freeze

/-- A frozen problem stays as it is through any calls. -/
theorem frozen_after (hp : s.problems.get? r = some p) (hfrozen : p.frozen = true) (calls : List Call) :
    (s.after calls).problems.get? r = some p :=
  (progress_after s calls).problems.get?_of_frozen hp hfrozen

theorem Owned.frozen {before : Problem Float} (h : Owned r before own p) : p.frozen = true := by
  rcases h with ⟨-, rfl⟩ | ⟨w, _, _, -, rfl⟩
  · exact Problem.frozen_freeze before
  · exact Problem.frozen_freeze w

theorem Takes.owned {c : SolverClass} {problems others : Arena (Problem Float)}
    (hp : problems.get? r = some p) (h : Takes c problems r p own others) :
    ∃ q, others.get? own = some q ∧ Owned r p own q := by
  cases h with
  | given _ => exact ⟨_, Arena.get?_set_self _ _ _ hp, .inl ⟨rfl, rfl⟩⟩
  | @copy w hadapt =>
    obtain ⟨objectiveClass, constraintClasses, hw⟩ := widen_of_adapt hadapt
    refine ⟨w.freeze, ?_, .inr ⟨w, objectiveClass, constraintClasses, hw, rfl⟩⟩
    rw [← Arena.add_set_fst problems r p.freeze w]
    exact Arena.get?_add_self (problems.set r p.freeze) w.freeze

/-- What there is when a solver has been built around a problem. -/
structure Owns (r : Ref (Problem Float)) (v : Ref Solver) (before : Problem Float)
    (own : Ref (Problem Float)) (p : Problem Float) (t : Session) : Prop where
  owned : Owned r before own p
  given : t.problems.get? r = some before.freeze
  exposed : t.problems.get? own = some p
  solver : ∃ solver, t.solvers.get? v = some solver ∧ solver.problem = some own

theorem owns_of_built {c : SolverClass} {settings : Settings} (h : Built c r s v t p own settings) :
    ∃ q, Owns r v p own q t := by
  obtain ⟨q, hq, howned⟩ := h.takes.owned h.found
  exact ⟨q, howned, h.given, hq, _, h.solver, rfl⟩

/-- Whoever builds a solver, directly or by name, makes it own a frozen problem. -/
theorem owns_of_builds (h : Builds r v s t) :
    ∃ before own p, s.problems.get? r = some before ∧ Owns r v before own p t := by
  cases h with
  | directly h =>
    obtain ⟨before, own, settings, hbuilt⟩ := build_of_ok h
    obtain ⟨p, howns⟩ := owns_of_built hbuilt
    exact ⟨before, own, p, hbuilt.found, howns⟩
  | byName h =>
    obtain ⟨c, values, before, own, u, declared, settings, -, -, hbuilt, -, ht⟩ := create_of_ok h
    obtain ⟨p, howns⟩ := owns_of_built hbuilt
    have hproblems : t.problems = u.problems := by rw [ht]
    have hsolver : t.solvers.get? v = some { kind := c, problem := some own, store := settings.store } := by
      rw [ht]
      exact Arena.get?_set_self _ _ _ hbuilt.solver
    refine ⟨before, own, p, hbuilt.found, howns.owned, ?_, ?_, _, hsolver, rfl⟩
    · rw [hproblems, howns.given]
    · rw [hproblems, howns.exposed]

/-- Calls leave what a solver owns as it is. -/
theorem Owns.after {before : Problem Float} (h : Owns r v before own p t) (calls : List Call) :
    Owns r v before own p (t.after calls) where
  owned := h.owned
  given := frozen_after h.given (Problem.frozen_freeze before) calls
  exposed := frozen_after h.exposed h.owned.frozen calls
  solver := by
    obtain ⟨solver, hsolver, hproblem⟩ := h.solver
    obtain ⟨solver', hsolver', hcontinues⟩ := (progress_after t calls).solvers v solver hsolver
    exact ⟨solver', hsolver', hcontinues.problem.trans hproblem⟩

/-- From the moment a solver has been built around a problem, that problem and the one that the solver owns
are frozen, and both are the same after any further calls. -/
theorem frozen_of_builds (h : Builds r v s t) :
    ∃ before own p, s.problems.get? r = some before ∧ Owned r before own p ∧
      before.freeze.frozen = true ∧ p.frozen = true ∧
      ∀ calls, (t.after calls).problems.get? r = some before.freeze ∧
        (t.after calls).problems.get? own = some p ∧
        ∃ solver, (t.after calls).solvers.get? v = some solver ∧ solver.problem = some own := by
  obtain ⟨before, own, p, hbefore, howns⟩ := owns_of_builds h
  refine ⟨before, own, p, hbefore, howns.owned, Problem.frozen_freeze before, howns.owned.frozen,
    fun calls ↦ ?_⟩
  have hlater := howns.after calls
  exact ⟨hlater.given, hlater.exposed, hlater.solver⟩

/-- A class of solvers that needs no derivatives of the objective. -/
def valuesOnly : SolverClass :=
  { name := "ValuesOnly", objectiveClass := .ok (some (.tier .value)), procedure := some (.script []) }

theorem frozen_of_builds_valuesOnly :
    let s := ({} : Session).next (.declare { objective := .ok (.constant "level" 1 [2]) })
    let t := s.next (.build valuesOnly (some (.ok ⟨0⟩)))
    Builds ⟨0⟩ ⟨0⟩ s t ∧ ∃ own p, p.frozen = true ∧ ∀ calls, (t.after calls).problems.get? own = some p := by
  intro s t
  have hbuilds : Builds ⟨0⟩ ⟨0⟩ s t := .directly (c := valuesOnly) rfl
  obtain ⟨before, own, p, -, -, -, hfrozen, hcalls⟩ := frozen_of_builds hbuilds
  exact ⟨hbuilds, own, p, hfrozen, fun calls ↦ (hcalls calls).2.1⟩

end Extremum.Session
