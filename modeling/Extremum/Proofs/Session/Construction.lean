import Extremum.Proofs.Session.Equations

/-!
# How solvers come into being

Building a solver leaves the problem that it is given frozen, and adds the frozen copy that the solver works on
if its class needs one. A solver that is created by name is built and then configured; if the configuration
fails, a problem that was open is opened again. The equations come case by case, and each of the two operations
has an inversion: what it has done if it answers a solver.
-/

namespace Extremum.Session

variable {s : Session}

/-! ## Solvers around a problem -/

section Construction

variable {c : SolverClass} {r : Ref (Problem Float)} {p w : Problem Float}

/-- A class that cannot widen the problem refuses it and changes nothing. -/
theorem perform_takeOver_of_error {e : Error Float} (hp : s.problems.get? r = some p)
    (h : c.adapt p = .error e) : perform (takeOver c (.ok r)) s = (.error e, s) := by
  unfold takeOver
  dsimp only
  rw [perform_bind_of_ok (perform_problem hp), h]
  rfl

/-- A class content with the problem as it is takes the problem itself, which is frozen. -/
theorem perform_takeOver_of_none (hp : s.problems.get? r = some p) (h : c.adapt p = .ok none) :
    perform (takeOver c (.ok r)) s = (.ok r, { s with problems := s.problems.set r p.freeze }) := by
  have hfrozen := Arena.get?_set_self s.problems p.freeze p hp
  unfold takeOver
  dsimp only
  rw [perform_bind_of_ok (perform_problem hp), h, perform_bind_of_ok (perform_lift _ s)]
  dsimp only
  rw [perform_bind_of_ok (perform_pure s r), perform_bind_of_ok (perform_freeze hp),
    perform_bind_of_ok (perform_freeze hfrozen), perform_pure]
  rw [Problem.freeze_of_frozen (Problem.frozen_freeze p), Arena.set_set]

/-- A class that needs less takes a new problem, and both are frozen. -/
theorem perform_takeOver_of_some (hp : s.problems.get? r = some p) (h : c.adapt p = .ok (some w)) :
    perform (takeOver c (.ok r)) s = (.ok (s.problems.add w).1,
      { s with problems := ((s.problems.set r p.freeze).add w.freeze).2 }) := by
  have hold : (s.problems.add w).2.get? r = some p := Arena.get?_add_of_get? _ _ _ hp
  have hnew : ((s.problems.add w).2.set r p.freeze).get? (s.problems.add w).1 = some w := by
    rw [Arena.get?_set_of_ne _ _ (Arena.add_fst_ne_of_get? hp w).symm]
    exact Arena.get?_add_self _ _
  have hproblems : ((s.problems.add w).2.set r p.freeze).set (s.problems.add w).1 w.freeze =
      ((s.problems.set r p.freeze).add w.freeze).2 := by
    rw [Arena.set_add_of_get? hp, ← Arena.add_set_fst _ r p.freeze, Arena.set_add_self]
  unfold takeOver
  dsimp only
  rw [perform_bind_of_ok (perform_problem hp), h, perform_bind_of_ok (perform_lift _ s)]
  dsimp only
  rw [perform_bind_of_ok (perform_addProblem w s), perform_bind_of_ok (perform_freeze hold),
    perform_bind_of_ok (perform_freeze hnew), perform_pure]
  rw [hproblems]

/-- The defaults of a class are put into the store of the new solver. -/
theorem perform_assemble_of_ok {problem : Option (Ref (Problem Float))} {settings : Settings}
    (h : perform (Settings.putAll c.defaults) ⟨s.parameters, {}⟩ = (.ok (), settings)) :
    perform (assemble c problem) s =
      (.ok (s.solvers.add { kind := c, problem, store := settings.store }).1,
        { s with
          parameters := settings.parameters
          solvers := (s.solvers.add { kind := c, problem, store := settings.store }).2 }) := by
  have hrun : (Settings.putAll c.defaults).run ⟨s.parameters, {}⟩ = (.ok (), settings) := h
  unfold assemble
  rw [perform_bind_of_ok (perform_get s), hrun]
  dsimp only
  rw [perform_bind_of_ok (perform_lift _ s), perform_bind_of_ok (perform_get s)]
  rfl

/-- A default that is refused leaves no solver behind. -/
theorem perform_assemble_of_error {problem : Option (Ref (Problem Float))} {settings : Settings}
    {e : Error Float}
    (h : perform (Settings.putAll c.defaults) ⟨s.parameters, {}⟩ = (.error e, settings)) :
    perform (assemble c problem) s = (.error e, s) := by
  have hrun : (Settings.putAll c.defaults).run ⟨s.parameters, {}⟩ = (.error e, settings) := h
  unfold assemble
  rw [perform_bind_of_ok (perform_get s), hrun]
  dsimp only
  exact perform_bind_of_error (perform_lift _ s) _

/-- How a class of solvers takes over a problem: which problem the solver owns, and what the problems are
afterwards. -/
inductive Takes (c : SolverClass) (problems : Arena (Problem Float)) (r : Ref (Problem Float))
    (p : Problem Float) : Ref (Problem Float) → Arena (Problem Float) → Prop
  | given (h : c.adapt p = .ok none) : Takes c problems r p r (problems.set r p.freeze)
  | copy {w : Problem Float} (h : c.adapt p = .ok (some w)) :
      Takes c problems r p (problems.add w).1 ((problems.set r p.freeze).add w.freeze).2

theorem Takes.get?_given {problems others : Arena (Problem Float)} {own : Ref (Problem Float)}
    (hp : problems.get? r = some p) (h : Takes c problems r p own others) :
    others.get? r = some p.freeze := by
  have hset := Arena.get?_set_self problems p.freeze p hp
  cases h with
  | given _ => exact hset
  | copy _ => exact Arena.get?_add_of_get? _ _ _ hset

/-- Whatever problem is taken over successfully is frozen, and nothing but problems has changed. -/
theorem takeOver_of_ok {own : Ref (Problem Float)} {t : Session}
    (h : perform (takeOver c (.ok r)) s = (.ok own, t)) :
    ∃ p, s.problems.get? r = some p ∧ Takes c s.problems r p own t.problems ∧
      t = { s with problems := t.problems } := by
  cases hp : s.problems.get? r with
  | none =>
    unfold takeOver at h
    dsimp only at h
    rw [perform_bind_of_error (perform_problem_of_none hp)] at h
    cases h
  | some p =>
    cases hadapt : c.adapt p with
    | error e =>
      rw [perform_takeOver_of_error hp hadapt] at h
      cases h
    | ok needed =>
      cases needed with
      | none =>
        rw [perform_takeOver_of_none hp hadapt] at h
        cases h
        exact ⟨p, rfl, .given hadapt, rfl⟩
      | some w =>
        rw [perform_takeOver_of_some hp hadapt] at h
        cases h
        exact ⟨p, rfl, .copy hadapt, rfl⟩

/-- Building a solver that owns a problem: the problem is taken over, and the solver is put together. -/
theorem build_eq (hprocedure : c.procedure.isSome = true) (howns : c.ownsProblem = true)
    (given : Given (Ref (Problem Float))) :
    build c (some given) = takeOver c given >>= fun own ↦ assemble c (some own) := by
  have hnone : c.procedure.isNone = false := by
    rw [← Option.not_isSome, hprocedure]
    rfl
  unfold build ownProblem
  rw [hnone, howns]
  simp only [Bool.false_eq_true, if_false, map_eq_pure_bind, bind_assoc, pure_bind]

/-- Only classes that have a procedure and own a problem have solvers around one. -/
theorem owner_of_build {given : Given (Ref (Problem Float))} {v : Ref Solver} {t : Session}
    (h : perform (build c (some given)) s = (.ok v, t)) :
    c.procedure.isSome = true ∧ c.ownsProblem = true := by
  unfold build ownProblem at h
  cases hprocedure : c.procedure with
  | none =>
    rw [hprocedure] at h
    cases h
  | some procedure =>
    cases howns : c.ownsProblem with
    | false =>
      rw [hprocedure, howns] at h
      cases h
    | true => exact ⟨rfl, rfl⟩

/-- What a construction around a problem has done: the problem that it has found, the one that the solver owns,
and the settings that the solver has begun with. -/
structure Built (c : SolverClass) (r : Ref (Problem Float)) (s : Session) (v : Ref Solver) (t : Session)
    (p : Problem Float) (own : Ref (Problem Float)) (settings : Settings) : Prop where
  found : s.problems.get? r = some p
  takes : Takes c s.problems r p own t.problems
  declared : perform (Settings.putAll c.defaults) ⟨s.parameters, {}⟩ = (.ok (), settings)
  ref : v = (s.solvers.add { kind := c, problem := some own, store := settings.store }).1
  state : t = { s with
    problems := t.problems
    parameters := settings.parameters
    solvers := (s.solvers.add { kind := c, problem := some own, store := settings.store }).2 }

namespace Built

variable {v : Ref Solver} {t : Session} {own : Ref (Problem Float)} {settings : Settings}

theorem solver (h : Built c r s v t p own settings) :
    t.solvers.get? v = some { kind := c, problem := some own, store := settings.store } := by
  rw [h.state, h.ref]
  exact Arena.get?_add_self _ _

theorem given (h : Built c r s v t p own settings) : t.problems.get? r = some p.freeze :=
  h.takes.get?_given h.found

/-- Before anything else is done, the solver's settings are those that its class has declared. -/
theorem settings_eq (h : Built c r s v t p own settings) :
    (⟨t.parameters, settings.store⟩ : Settings) = settings := by
  rw [h.state]

end Built

/-- A solver that was built around a problem owns what its class took over, and holds what its class
declares. -/
theorem build_of_ok {v : Ref Solver} {t : Session} (h : perform (build c (some (.ok r))) s = (.ok v, t)) :
    ∃ p own settings, Built c r s v t p own settings := by
  obtain ⟨hprocedure, howns⟩ := owner_of_build h
  rw [build_eq hprocedure howns] at h
  obtain ⟨own, u, htake, hassemble⟩ := bind_of_ok h
  obtain ⟨p, hp, htakes, hu⟩ := takeOver_of_ok htake
  have hparameters : u.parameters = s.parameters := by rw [hu]
  rcases hput : perform (Settings.putAll c.defaults) ⟨u.parameters, {}⟩ with ⟨answer, settings⟩
  cases answer with
  | error e =>
    rw [perform_assemble_of_error hput] at hassemble
    cases hassemble
  | ok _ =>
    rw [perform_assemble_of_ok hput, hu] at hassemble
    cases hassemble
    rw [hparameters] at hput
    exact ⟨p, own, settings, hp, htakes, hput, rfl, rfl⟩

end Construction

/-! ## Creation by name -/

section Creation

variable {name : String} {c : SolverClass} {r : Ref Solver} {p : Ref (Problem Float)} {q : Problem Float}
  {values : List (String × Content)} {t : Session}

/-- A class is registered under a name, in whatever case the name is written. -/
def Registers (s : Session) (name : String) (c : SolverClass) : Prop :=
  ∃ ref, s.registry.get? (Text.lower name) = some ref ∧ s.classes.get? ref = some c

/-- A registered class is found whatever case its name is written in. -/
theorem perform_lookUp (hregisters : s.Registers name c) : perform (lookUp name) s = (.ok c, s) := by
  obtain ⟨ref, h, hc⟩ := hregisters
  unfold lookUp
  rw [perform_bind_of_ok (perform_get s), h]
  exact perform_solverClass hc

/-- A name that is not registered is refused together with what is registered. -/
theorem perform_lookUp_of_none (h : s.registry.get? (Text.lower name) = none) :
    perform (lookUp name) s = (.error (.unknownSolver name s.available), s) := by
  unfold lookUp
  rw [perform_bind_of_ok (perform_get s), h]
  rfl

/-- The parameters of the caller go into the store; if they do not fit, a problem that was open before is opened
again. -/
theorem perform_equip {v : Solver} {answer : Except (Error Float) Unit} {settings : Settings}
    (hr : s.solvers.get? r = some v) (hp : s.problems.get? p = some q) (wasFrozen : Bool)
    (h : perform (Settings.configure values) ⟨s.parameters, v.store⟩ = (answer, settings)) :
    perform (equip r p wasFrozen values) s = (answer, { s with
      problems := if answer.isOk || wasFrozen then s.problems else s.problems.set p q.unfreeze
      parameters := settings.parameters
      solvers := s.solvers.set r { v with store := settings.store } }) := by
  have hconfigure := perform_changeStore_solver hr h
  generalize hconfigured : ({ s with
    parameters := settings.parameters
    solvers := s.solvers.set r { v with store := settings.store } } : Session) = t at hconfigure
  have hproblem : t.problems.get? p = some q := by rw [← hconfigured, hp]
  unfold equip configure
  rw [perform_tryCatch, hconfigure]
  cases answer with
  | ok _ => rw [← hconfigured]; rfl
  | error e =>
    cases wasFrozen with
    | true => rw [← hconfigured]; rfl
    | false =>
      rw [← hconfigured] at hproblem ⊢
      exact perform_bind_of_ok (perform_unfreeze hproblem) _

theorem lookUp_of_ok (h : perform (lookUp name) s = (.ok c, t)) : t = s ∧ s.Registers name c := by
  cases hname : s.registry.get? (Text.lower name) with
  | none =>
    rw [perform_lookUp_of_none hname] at h
    cases h
  | some ref =>
    cases hc : s.classes.get? ref with
    | none =>
      unfold lookUp at h
      rw [perform_bind_of_ok (perform_get s), hname] at h
      dsimp only at h
      rw [perform_solverClass_of_none hc] at h
      cases h
    | some d =>
      have hregisters : s.Registers name d := ⟨ref, hname, hc⟩
      rw [perform_lookUp hregisters] at h
      cases h
      exact ⟨rfl, hregisters⟩

/-- A solver that was created by name was built and then configured without a failure. -/
theorem create_of_ok {parameters : List (String × Reading Float Content)}
    (h : perform (create name parameters (.ok p)) s = (.ok r, t)) :
    ∃ c values q own u declared settings, s.Registers name c ∧ readParameters parameters = .ok values ∧
      Built c p s r u q own declared ∧
      perform (Settings.configure values) declared = (.ok (), settings) ∧
      t = { u with
        log := t.log
        parameters := settings.parameters
        solvers := u.solvers.set r { kind := c, problem := some own, store := settings.store } } := by
  unfold create at h
  obtain ⟨c, _, hlook, hread⟩ := bind_of_ok h
  obtain ⟨rfl, hregisters⟩ := lookUp_of_ok hlook
  obtain ⟨values, _, hvalues, hproblem⟩ := bind_of_ok hread
  rw [perform_lift] at hvalues
  obtain ⟨hreadings, rfl⟩ := Prod.mk.inj hvalues
  obtain ⟨q, _, hq, hsolver⟩ := bind_of_ok hproblem
  obtain ⟨rfl, -⟩ := problem_of_ok hq
  obtain ⟨r', u, hbuild, hparameters⟩ := bind_of_ok hsolver
  obtain ⟨_, w, hequip, hlog⟩ := bind_of_ok hparameters
  rw [perform_bind_of_ok (perform_logDebug _ _ w), perform_pure] at hlog
  obtain ⟨hr, rfl⟩ := Prod.mk.inj hlog
  cases hr
  obtain ⟨q', own, declared, hbuilt⟩ := build_of_ok hbuild
  rcases hconfigure : perform (Settings.configure values) declared with ⟨answer, settings⟩
  rw [← hbuilt.settings_eq] at hconfigure
  rw [perform_equip hbuilt.solver hbuilt.given _ hconfigure] at hequip
  rw [hbuilt.settings_eq] at hconfigure
  cases answer with
  | error e => cases hequip
  | ok _ =>
    obtain ⟨-, rfl⟩ := Prod.mk.inj hequip
    exact ⟨c, values, q', own, u, declared, settings, hregisters, hreadings, hbuilt, hconfigure, rfl⟩

end Creation

end Extremum.Session
