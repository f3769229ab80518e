import Extremum.Proofs.Perform
import Extremum.Session.Registry

/-!
# What the operations of a session answer and leave behind

An equation for each operation that the larger ones are made of, in every case that its parts distinguish:
operations on problems first, then those on solvers, and those on stores and parameters last.
-/

namespace Extremum.Session

variable {β γ : Type} {s : Session}

@[simp] theorem perform_lift (result : Except (Error Float) β) (s : Session) :
    perform (lift result) s = (result, s) := by
  cases result <;> rfl

@[simp] theorem perform_logDebug (name message : String) (s : Session) :
    perform (logDebug name message) s =
      (.ok (), { s with log := s.log.debug (Logging.rootName ++ name) message }) := rfl

/-! ## Problems -/

section Problems

variable {r : Ref (Problem Float)} {p : Problem Float}

@[simp] theorem perform_addProblem (p : Problem Float) (s : Session) :
    perform (addProblem p) s = (.ok (s.problems.add p).1, { s with problems := (s.problems.add p).2 }) := rfl

@[simp] theorem perform_setProblem (r : Ref (Problem Float)) (p : Problem Float) (s : Session) :
    perform (setProblem r p) s = (.ok (), { s with problems := s.problems.set r p }) := rfl

theorem perform_problem (h : s.problems.get? r = some p) : perform (problem r) s = (.ok p, s) := by
  unfold problem
  rw [perform_bind_of_ok (perform_get s), h]
  rfl

theorem perform_problem_of_none (h : s.problems.get? r = none) :
    perform (problem r) s = (.error (.unfit .missing), s) := by
  unfold problem
  rw [perform_bind_of_ok (perform_get s), h]
  rfl

theorem problem_of_ok {t : Session} (h : perform (problem r) s = (.ok p, t)) :
    t = s ∧ s.problems.get? r = some p := by
  cases hr : s.problems.get? r with
  | none =>
    rw [perform_problem_of_none hr] at h
    cases h
  | some q =>
    rw [perform_problem hr] at h
    cases h
    exact ⟨rfl, rfl⟩

theorem perform_freeze (h : s.problems.get? r = some p) :
    perform (freeze r) s = (.ok (), { s with problems := s.problems.set r p.freeze }) := by
  unfold freeze
  rw [perform_bind_of_ok (perform_problem h), perform_setProblem]

theorem perform_unfreeze (h : s.problems.get? r = some p) :
    perform (unfreeze r) s = (.ok (), { s with problems := s.problems.set r p.unfreeze }) := by
  unfold unfreeze
  rw [perform_bind_of_ok (perform_problem h), perform_setProblem]

end Problems

/-! ## Classes of solvers -/

section Classes

variable {r : Ref SolverClass} {c : SolverClass}

theorem perform_solverClass (hc : s.classes.get? r = some c) : perform (solverClass r) s = (.ok c, s) := by
  unfold solverClass
  rw [perform_bind_of_ok (perform_get s), hc]
  rfl

theorem perform_solverClass_of_none (hc : s.classes.get? r = none) :
    perform (solverClass r) s = (.error (.unfit .missing), s) := by
  unfold solverClass
  rw [perform_bind_of_ok (perform_get s), hc]
  rfl

end Classes

/-! ## Solvers -/

section Solvers

variable {r : Ref Solver} {v : Solver} {p : Problem Float}

@[simp] theorem perform_setSolver (r : Ref Solver) (v : Solver) (s : Session) :
    perform (setSolver r v) s = (.ok (), { s with solvers := s.solvers.set r v }) := rfl

theorem perform_solver (h : s.solvers.get? r = some v) : perform (solver r) s = (.ok v, s) := by
  unfold solver
  rw [perform_bind_of_ok (perform_get s), h]
  rfl

theorem perform_solver_of_none (h : s.solvers.get? r = none) :
    perform (solver r) s = (.error (.unfit .missing), s) := by
  unfold solver
  rw [perform_bind_of_ok (perform_get s), h]
  rfl

/-- An outcome is stored if it is accepted, and otherwise nothing happens. -/
theorem perform_storeOutcome (h : s.solvers.get? r = some v) (given : Given Outcome) :
    perform (storeOutcome r given) s = match Solver.accepted given with
      | .ok outcome => (.ok (), { s with solvers := s.solvers.set r { v with outcome } })
      | .error e => (.error e, s) := by
  unfold storeOutcome
  rw [perform_bind_of_ok (perform_solver h), perform_bind, perform_lift]
  cases Solver.accepted given <;> rfl

theorem perform_reset (h : s.solvers.get? r = some v) :
    perform (reset r) s = (.ok (), { s with solvers := s.solvers.set r { v with outcome := .unsolved } }) := by
  unfold reset
  rw [perform_bind_of_ok (perform_solver h), perform_setSolver]

theorem perform_ownedProblem (hv : s.solvers.get? r = some v) :
    perform (ownedProblem r) s = match v.problem.bind s.problems.get? with
      | some p => (.ok p, s)
      | none => (.error (.unfit .missing), s) := by
  unfold ownedProblem
  rw [perform_bind_of_ok (perform_solver hv)]
  cases v.problem with
  | none => rfl
  | some own =>
    have hfound : perform (found (some own)) s = (.ok own, s) := rfl
    rw [perform_bind_of_ok hfound, Option.bind_some]
    cases h : s.problems.get? own with
    | none => exact perform_problem_of_none h
    | some p => exact perform_problem h

theorem perform_ownedProblem_of_some (hv : s.solvers.get? r = some v) (hp : v.problem.bind s.problems.get? = some p) :
    perform (ownedProblem r) s = (.ok p, s) := by
  rw [perform_ownedProblem hv, hp]

/-- The owner of a problem passes the check for one. -/
theorem perform_checkOwner (hp : v.problem.bind s.problems.get? = some p) :
    perform (checkOwner v) s = (.ok (), s) := by
  obtain ⟨own, hown, -⟩ := Option.bind_eq_some_iff.1 hp
  unfold checkOwner
  rw [hown]
  rfl

/-- What comes of telling about an iterate, for each kind of callback. -/
theorem perform_notify (hv : s.solvers.get? r = some v) (hp : v.problem.bind s.problems.get? = some p) (i : Iterate) :
    perform (notify r i) s = match v.callback with
      | none => (.ok i, s)
      | some .record => (.ok i, { s with
          notices := s.notices ++ [⟨p, i, Settings.contents ⟨s.parameters, i.store⟩, i.text s.parameters⟩] })
      | some (.react call) =>
        let (answer, parameters) := (call p i).run s.parameters
        (answer, { s with parameters }) := by
  have howned := perform_ownedProblem_of_some hv hp
  unfold notify
  rw [perform_bind_of_ok (perform_solver hv), perform_bind_of_ok (perform_checkOwner hp),
    perform_bind_of_ok (perform_get s)]
  cases v.callback with
  | none => rfl
  | some callback =>
    cases callback with
    | record => exact perform_bind_of_ok howned _
    | react call =>
      refine (perform_bind_of_ok howned _).trans ?_
      obtain ⟨answer, parameters, hcall⟩ : ∃ answer parameters,
        (call p i).run s.parameters = (answer, parameters) := ⟨_, _, rfl⟩
      dsimp only
      rw [hcall]
      exact (perform_bind_of_ok (perform_modify s _) _).trans (perform_lift answer _)

/-- Goes on after the count of runs has been raised. -/
def counting (m : Ref Solver → Run Unit) (r : Ref Solver) : Run Unit := do
  let v ← solver r
  setSolver r { v with calls := v.calls + 1 }
  m r

/-- A run is counted before it begins, so that it counts even if it fails. -/
theorem perform_counting (h : s.solvers.get? r = some v) (m : Ref Solver → Run Unit) :
    perform (counting m r) s = perform (m r)
      { s with solvers := s.solvers.set r { v with calls := v.calls + 1 } } := by
  unfold counting
  rw [perform_bind_of_ok (perform_solver h), perform_bind_of_ok (perform_setSolver _ _ _)]

/-- What solvers with a procedure do to solve. -/
def proceed : Option Procedure → Ref Solver → Run Unit
  | none => fun _ ↦ throw (.unfit .type)
  | some .giveUp => (storeOutcome · (.ok (.failed Solver.failureMessage none)))
  | some .recordStart => recordStart
  | some (.script actions) => counting fun r ↦ actions.forM (act r)
  | some (.program body) => counting (follow · body)

/-- Solving is one run of the procedure of the class. -/
theorem perform_solve (h : s.solvers.get? r = some v) :
    perform (solve r) s = perform (proceed v.kind.procedure r) s := by
  unfold solve
  rw [perform_bind_of_ok (perform_solver h)]
  cases v.kind.procedure with
  | none => rfl
  | some procedure =>
    cases procedure with
    | giveUp => rfl
    | recordStart => rfl
    | script actions => exact (perform_counting h fun r ↦ actions.forM (act r)).symm
    | program body => exact (perform_counting h (follow · body)).symm

theorem perform_solve_script {actions : List Action} (h : s.solvers.get? r = some v)
    (hscript : v.kind.procedure = some (.script actions)) :
    perform (solve r) s = perform (actions.forM (act r))
      { s with solvers := s.solvers.set r { v with calls := v.calls + 1 } } := by
  rw [perform_solve h, hscript]
  exact perform_counting h fun r ↦ actions.forM (act r)

theorem perform_store_solver (h : s.solvers.get? r = some v) :
    perform (store (.solver r)) s = (.ok v.store, s) := by
  unfold store
  rw [perform_bind_of_ok (perform_get s)]
  dsimp only
  rw [h]
  rfl

theorem perform_setStore_solver (h : s.solvers.get? r = some v) (t : Store) :
    perform (setStore (.solver r) t) s =
      (.ok (), { s with solvers := s.solvers.set r { v with store := t } }) := by
  unfold setStore
  rw [perform_bind_of_ok (perform_get s)]
  dsimp only
  rw [h]
  rfl

/-- The parameters and the store of a solver are changed together, and stay changed if the change fails. -/
theorem perform_changeStore_solver (h : s.solvers.get? r = some v) {c : Settings.Change β}
    {answer : Except (Error Float) β} {settings : Settings}
    (hc : perform c ⟨s.parameters, v.store⟩ = (answer, settings)) :
    perform (changeStore (.solver r) c) s = (answer,
      { s with
        parameters := settings.parameters
        solvers := s.solvers.set r { v with store := settings.store } }) := by
  have hrun : c.run ⟨s.parameters, v.store⟩ = (answer, settings) := hc
  have hset := perform_setStore_solver (s := { s with parameters := settings.parameters }) h settings.store
  unfold changeStore
  rw [perform_bind_of_ok (perform_store_solver h), perform_bind_of_ok (perform_get s), hrun]
  dsimp only
  rw [perform_bind_of_ok (perform_modify s _), perform_bind_of_ok hset, perform_lift]

end Solvers

/-! ## Stores in their places -/

def storeAt? (s : Session) : StorePlace → Option Store
  | .alone r => s.stores.get? r
  | .iterate r => (s.iterates.get? r).map (·.store)
  | .solver r => (s.solvers.get? r).map (·.store)

section Stores

variable {place : StorePlace} {old : Store} {r : Ref Parameter} {p : Parameter}

theorem storeAt?_of_parameters (s : Session) (place : StorePlace) (parameters : Arena Parameter) :
    storeAt? { s with parameters } place = s.storeAt? place := by
  cases place <;> rfl

theorem perform_store (h : s.storeAt? place = some old) : perform (store place) s = (.ok old, s) := by
  cases place with
  | alone r =>
    have hr : s.stores.get? r = some old := h
    unfold store
    rw [perform_bind_of_ok (perform_get s)]
    dsimp only
    rw [hr]
    rfl
  | iterate r =>
    obtain ⟨i, hr, rfl⟩ := Option.map_eq_some_iff.1 h
    unfold store
    rw [perform_bind_of_ok (perform_get s)]
    dsimp only
    rw [hr]
    rfl
  | solver r =>
    obtain ⟨v, hr, rfl⟩ := Option.map_eq_some_iff.1 h
    exact perform_store_solver hr

/-- A store is put in its place, and nothing else changes. -/
theorem exists_perform_setStore (h : s.storeAt? place = some old) (new : Store) :
    ∃ t, perform (setStore place new) s = (.ok (), t) ∧ t.storeAt? place = some new ∧
      t.parameters = s.parameters ∧ (new = old → t = s) := by
  cases place with
  | alone r =>
    have hr : s.stores.get? r = some old := h
    refine ⟨{ s with stores := s.stores.set r new }, rfl, Arena.get?_set_self _ _ _ hr, rfl, ?_⟩
    rintro rfl
    rw [Arena.set_eq_self hr]
  | iterate r =>
    obtain ⟨i, hr, rfl⟩ := Option.map_eq_some_iff.1 h
    refine ⟨{ s with iterates := s.iterates.set r { i with store := new } }, ?_, ?_, rfl, ?_⟩
    · unfold setStore
      rw [perform_bind_of_ok (perform_get s)]
      dsimp only
      rw [hr]
      rfl
    · exact congrArg (Option.map (·.store)) (Arena.get?_set_self _ _ _ hr)
    · rintro rfl
      rw [Arena.set_eq_self hr]
  | solver r =>
    obtain ⟨v, hr, rfl⟩ := Option.map_eq_some_iff.1 h
    refine ⟨_, perform_setStore_solver hr new, ?_, rfl, ?_⟩
    · exact congrArg (Option.map (·.store)) (Arena.get?_set_self _ _ _ hr)
    · rintro rfl
      rw [Arena.set_eq_self hr]

/-- A change does to the session what it does to the settings at the place. -/
theorem exists_perform_changeStore (h : s.storeAt? place = some old) {c : Settings.Change β}
    {answer : Except (Error Float) β} {settings : Settings}
    (hc : perform c ⟨s.parameters, old⟩ = (answer, settings)) :
    ∃ t, perform (changeStore place c) s = (answer, t) ∧ t.storeAt? place = some settings.store ∧
      t.parameters = settings.parameters ∧
      (settings.store = old → t = { s with parameters := settings.parameters }) := by
  have hrun : c.run ⟨s.parameters, old⟩ = (answer, settings) := hc
  have hplace : storeAt? { s with parameters := settings.parameters } place = some old :=
    (storeAt?_of_parameters s place settings.parameters).trans h
  obtain ⟨t, ht, hstore, hparameters, hsame⟩ := exists_perform_setStore hplace settings.store
  refine ⟨t, ?_, hstore, hparameters, hsame⟩
  unfold changeStore
  rw [perform_bind_of_ok (perform_store h), perform_bind_of_ok (perform_get s), hrun]
  dsimp only
  rw [perform_bind_of_ok (perform_modify s _), perform_bind_of_ok ht, perform_lift]

/-- A parameter gets the new content if that is of its type. -/
theorem perform_setParameter (hp : s.parameters.get? r = some p)
    (content : Reading Float Content) : perform (setParameter r content) s = match p.set content with
      | .ok q => (.ok (), { s with parameters := s.parameters.set r q })
      | .error e => (.error e, s) := by
  unfold setParameter parameter
  rw [perform_bind, perform_bind_of_ok (perform_get s), hp]
  change perform (lift (p.set content) >>= _) s = _
  rw [perform_bind, perform_lift]
  cases p.set content <;> rfl

theorem perform_setParameter_of_none (hr : s.parameters.get? r = none) (content : Reading Float Content) :
    perform (setParameter r content) s = (.error (.unfit .missing), s) := by
  unfold setParameter parameter
  rw [perform_bind, perform_bind_of_ok (perform_get s), hr]
  rfl

end Stores

end Extremum.Session
