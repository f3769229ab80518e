import Extremum.Proofs.Session.Call

/-!
# The life of a solver

A solver keeps what was stored in it last until it is reset. Asking for its outcome runs its procedure if there
is nothing to answer, and only then; the answer is what is stored afterwards, and it stays the answer until
somebody stores, resets or solves. What is shown here holds of every solver with a user's procedure, whatever
the steps of the procedure are, and after every run of calls.
-/

namespace Extremum

/-- Whether a call may put another outcome in the place of one that a solver has. -/
def Call.Overwrites (r : Ref Solver) : Call → Prop
  | .solve r' | .store r' _ | .reset r' => r' = r
  | _ => False

namespace Session

variable {s t : Session} {r : Ref Solver} {v w : Solver}

/-- The session in which a procedure is run for the outcome of a solver. -/
def solving (s : Session) (v : Solver) : Session :=
  { s with log := s.log.debug (Logging.rootName ++ ".solver.core") ("Solving with " ++ v.kind.name) }

/-- The session after a procedure was run for the outcome of a solver. -/
def solved (s : Session) (v : Solver) : Session :=
  let message := v.kind.name ++ " finished: " ++ v.outcome.tag
  { s with log := s.log.debug (Logging.rootName ++ ".solver.core") message }

/-- What is always true of a solver. -/
structure Lifecycle (s : Session) (r : Ref Solver) (v : Solver) : Prop where
  /-- What is stored is of one of four kinds. -/
  kind : v.outcome.kindName ∈ ["NoSolution", "Result", "ResultWithWarnings", "SolverError"]
  /-- Asking runs the procedure once if nothing is stored, and not at all otherwise. -/
  runs : ∃ w, (perform (minimum r) s).2.solvers.get? r = some w ∧
    w.calls = if v.outcome.isFinal then v.calls else v.calls + 1
  /-- What is answered is final, and it is stored afterwards. -/
  answer : ∀ o t, perform (minimum r) s = (.ok o, t) →
    o.isFinal = true ∧ ∃ w, t.solvers.get? r = some w ∧ w.outcome = o
  /-- Asking fails as the procedure does, or because the procedure has left nothing behind. -/
  failure : ∀ e t, perform (minimum r) s = (.error e, t) ↔ v.outcome = .unsolved ∧
    (perform (solve r) (s.solving v) = (.error e, t) ∨
      perform (solve r) (s.solving v) = (.ok (), t) ∧ e = .nothingStored v.kind.name ∧
        ∃ w, t.solvers.get? r = some w ∧ w.outcome = .unsolved)
  /-- An answer stays the answer, without another run, while nobody overwrites it. -/
  memo : ∀ o t, perform (minimum r) s = (.ok o, t) → ∀ calls, (∀ c ∈ calls, ¬c.Overwrites r) →
    perform (minimum r) (t.after calls) = (.ok o, t.after calls)
  /-- A final outcome can be stored, and nothing else can. -/
  store : ∀ given,
    (∃ o, given = .ok o ∧ o.isFinal = true ∧ perform (storeOutcome r given) s =
      (.ok (), { s with solvers := s.solvers.set r { v with outcome := o } })) ∨
    (∀ o, given = .ok o → o = .unsolved) ∧
      ∃ e, e.kindName = "TypeError" ∧ perform (storeOutcome r given) s = (.error e, s)
  /-- Only a reset takes an outcome away. -/
  reset : perform (Session.reset r) s =
    (.ok (), { s with solvers := s.solvers.set r { v with outcome := .unsolved } })

/-! ## Asking for the outcome -/

/-- A final outcome is answered again without another run. -/
theorem perform_minimum_of_final (hv : s.solvers.get? r = some v) (hfinal : v.outcome.isFinal = true) :
    perform (minimum r) s = (.ok v.outcome, s) := by
  unfold minimum
  rw [perform_bind_of_ok (perform_solver hv), if_pos hfinal, perform_pure]

section Unsolved

variable (hv : s.solvers.get? r = some v) (hfinal : v.outcome.isFinal = false)

include hv hfinal

/-- Asking a solver that has stored nothing runs its procedure first. -/
theorem perform_minimum_of_unsolved :
    perform (minimum r) s = perform (do
      solve r
      let w ← solver r
      if w.outcome.isFinal then
        logDebug ".solver.core" (w.kind.name ++ " finished: " ++ w.outcome.tag)
        return w.outcome
      else throw (.nothingStored w.kind.name) : Run Outcome) (s.solving v) := by
  unfold minimum
  rw [perform_bind_of_ok (perform_solver hv), hfinal, if_neg Bool.false_ne_true,
    perform_bind_of_ok (perform_logDebug _ _ s)]
  rfl

/-- A failure of the run is passed on as it is. -/
theorem perform_minimum_of_raised {e : Error Float}
    (hsolve : perform (solve r) (s.solving v) = (.error e, t)) : perform (minimum r) s = (.error e, t) := by
  rw [perform_minimum_of_unsolved hv hfinal, perform_bind_of_error hsolve]

/-- The outcome that the run has stored is the answer. -/
theorem perform_minimum_of_stored (hsolve : perform (solve r) (s.solving v) = (.ok (), t))
    (hw : t.solvers.get? r = some w) (hstored : w.outcome.isFinal = true) :
    perform (minimum r) s = (.ok w.outcome, t.solved w) := by
  rw [perform_minimum_of_unsolved hv hfinal, perform_bind_of_ok hsolve,
    perform_bind_of_ok (perform_solver hw), if_pos hstored]
  rfl

/-- A run that stores nothing is a failure of its own. -/
theorem perform_minimum_of_nothing (hsolve : perform (solve r) (s.solving v) = (.ok (), t))
    (hw : t.solvers.get? r = some w) (hstored : w.outcome.isFinal = false) :
    perform (minimum r) s = (.error (.nothingStored w.kind.name), t) := by
  rw [perform_minimum_of_unsolved hv hfinal, perform_bind_of_ok hsolve,
    perform_bind_of_ok (perform_solver hw), hstored, if_neg Bool.false_ne_true, perform_throw]

end Unsolved

/-- What keeps solvers as they are but for one outcome runs no procedure, and the run before it is counted once. -/
theorem calls_of_keeps {m : Run Unit} (hv : s.solvers.get? r = some v)
    (hm : Keeps (Advances (r = ·) fun _ ↦ False) m) :
    ∃ w, (perform m { s with solvers := s.solvers.set r { v with calls := v.calls + 1 } }).2.solvers.get? r = some w ∧
      w.kind = v.kind ∧ w.calls = v.calls + 1 := by
  have hcounted := Arena.get?_set_self s.solvers { v with calls := v.calls + 1 } v hv
  have hadvances := hm { s with solvers := s.solvers.set r { v with calls := v.calls + 1 } }
  obtain ⟨w, hw, hcontinues⟩ := hadvances.solvers r _ hcounted
  exact ⟨w, hw, hcontinues.kind, hcontinues.calls id⟩

/-- A procedure is run as often as it is asked to: its own steps run none. -/
theorem calls_of_solve {actions : List Action} (hv : s.solvers.get? r = some v)
    (hscript : v.kind.procedure = some (.script actions)) :
    ∃ w, (perform (solve r) s).2.solvers.get? r = some w ∧ w.kind = v.kind ∧ w.calls = v.calls + 1 := by
  rw [perform_solve_script hv hscript]
  exact calls_of_keeps hv (Keeps.forM fun step _ ↦ keeps_act rfl step)

/-! ## What stays -/

/-- Only calls that overwrite can change a final outcome: asking for it answers it. -/
theorem outcome_next (hv : s.solvers.get? r = some v) (hfinal : v.outcome.isFinal = true) {c : Call}
    (hc : ¬c.Overwrites r) : ∃ w, (s.next c).solvers.get? r = some w ∧ w.outcome = v.outcome := by
  by_cases hstores : c.Stores r
  · cases c with
    | minimum r' =>
      obtain rfl : r' = r := hstores
      have hsame : s.next (.minimum r') = s := by
        unfold next Call.run
        exact congrArg Prod.snd (perform_bind_of_ok (perform_minimum_of_final hv hfinal) _)
      exact ⟨v, by rw [hsame, hv], rfl⟩
    | solve r' => exact absurd hstores hc
    | store r' given => exact absurd hstores hc
    | reset r' => exact absurd hstores hc
    | _ => exact absurd hstores id
  · obtain ⟨w, hw, hcontinues⟩ := (progress_next s c).solvers r v hv
    exact ⟨w, hw, hcontinues.outcome hstores⟩

/-- A final outcome stays until a call may overwrite it. -/
theorem outcome_after (hv : s.solvers.get? r = some v) (hfinal : v.outcome.isFinal = true)
    (calls : List Call) (hcalls : ∀ c ∈ calls, ¬c.Overwrites r) :
    ∃ w, (s.after calls).solvers.get? r = some w ∧ w.outcome = v.outcome := by
  induction calls generalizing s v with
  | nil => exact ⟨v, hv, rfl⟩
  | cons c rest ih =>
    obtain ⟨w, hw, hsame⟩ := outcome_next hv hfinal (hcalls c List.mem_cons_self)
    obtain ⟨x, hx, hlast⟩ := ih hw (by rw [hsame, hfinal]) fun d hd ↦ hcalls d (List.mem_cons_of_mem c hd)
    exact ⟨x, hx, hlast.trans hsame⟩

/-! ## The life of one solver -/

theorem solver_of_solve (hv : s.solvers.get? r = some v) :
    ∃ w, (perform (solve r) (s.solving v)).2.solvers.get? r = some w ∧ w.kind = v.kind := by
  have hkeeps : Keeps (Advances (r = ·) (r = ·)) (solve r) := keeps_solve rfl rfl
  obtain ⟨w, hw, hcontinues⟩ := (hkeeps (s.solving v)).solvers r v hv
  exact ⟨w, hw, hcontinues.kind⟩

/-- What asking for an outcome comes to. -/
theorem minimum_cases (hv : s.solvers.get? r = some v) :
    v.outcome.isFinal = true ∧ perform (minimum r) s = (.ok v.outcome, s) ∨
    v.outcome.isFinal = false ∧ ∃ answer t w, perform (solve r) (s.solving v) = (answer, t) ∧
      t.solvers.get? r = some w ∧ w.kind = v.kind ∧
      ((∃ e, answer = .error e ∧ perform (minimum r) s = (.error e, t)) ∨
        (answer = .ok () ∧ w.outcome.isFinal = true ∧ perform (minimum r) s = (.ok w.outcome, t.solved w)) ∨
        (answer = .ok () ∧ w.outcome.isFinal = false ∧
          perform (minimum r) s = (.error (.nothingStored w.kind.name), t))) := by
  cases hfinal : v.outcome.isFinal with
  | true => exact .inl ⟨rfl, perform_minimum_of_final hv hfinal⟩
  | false =>
    obtain ⟨w, hw, hkind⟩ := solver_of_solve hv
    rcases hsolve : perform (solve r) (s.solving v) with ⟨answer, t⟩
    rw [hsolve] at hw
    refine .inr ⟨rfl, answer, t, w, rfl, hw, hkind, ?_⟩
    cases answer with
    | error e => exact .inl ⟨e, rfl, perform_minimum_of_raised hv hfinal hsolve⟩
    | ok _ =>
      cases hstored : w.outcome.isFinal with
      | true => exact .inr (.inl ⟨rfl, rfl, perform_minimum_of_stored hv hfinal hsolve hw hstored⟩)
      | false => exact .inr (.inr ⟨rfl, rfl, perform_minimum_of_nothing hv hfinal hsolve hw hstored⟩)

/-- Asking counts the runs of a procedure that is counted once. -/
theorem runs_of_calls (hv : s.solvers.get? r = some v)
    (hcalls : ∃ w, (perform (solve r) (s.solving v)).2.solvers.get? r = some w ∧ w.kind = v.kind ∧
      w.calls = v.calls + 1) :
    ∃ w, (perform (minimum r) s).2.solvers.get? r = some w ∧
      w.calls = if v.outcome.isFinal then v.calls else v.calls + 1 := by
  rcases minimum_cases hv with ⟨hfinal, hminimum⟩ | ⟨hfinal, answer, t, w, hsolve, hw, -, hminimum⟩
  · rw [hminimum, if_pos hfinal]
    exact ⟨v, hv, rfl⟩
  · obtain ⟨w', hw', -, hcalls⟩ := hcalls
    have hsolvers : (perform (minimum r) s).2.solvers = t.solvers := by
      rcases hminimum with ⟨e, -, hminimum⟩ | ⟨-, -, hminimum⟩ | ⟨-, -, hminimum⟩
      · rw [hminimum]
      · rw [hminimum]
        rfl
      · rw [hminimum]
    rw [hsolve] at hw'
    rw [hsolvers, hfinal, if_neg Bool.false_ne_true]
    exact ⟨w', hw', hcalls⟩

/-- Asking for the minimum is one run if there is no outcome yet, and none otherwise. -/
theorem runs_of_minimum {actions : List Action} (hv : s.solvers.get? r = some v)
    (hscript : v.kind.procedure = some (.script actions)) :
    ∃ w, (perform (minimum r) s).2.solvers.get? r = some w ∧
      w.calls = if v.outcome.isFinal then v.calls else v.calls + 1 :=
  runs_of_calls hv (calls_of_solve (s := s.solving v) hv hscript)

theorem final_of_minimum (hv : s.solvers.get? r = some v) {o : Outcome}
    (h : perform (minimum r) s = (.ok o, t)) :
    o.isFinal = true ∧ ∃ w, t.solvers.get? r = some w ∧ w.outcome = o := by
  rcases minimum_cases hv with ⟨hfinal, hminimum⟩ | ⟨-, answer, u, w, -, hw, -, hminimum⟩
  · rw [hminimum] at h
    cases h
    exact ⟨hfinal, v, hv, rfl⟩
  · rcases hminimum with ⟨e, -, hminimum⟩ | ⟨-, hstored, hminimum⟩ | ⟨-, -, hminimum⟩
    · rw [hminimum] at h
      cases h
    · rw [hminimum] at h
      cases h
      exact ⟨hstored, w, hw, rfl⟩
    · rw [hminimum] at h
      cases h

/-- The minimum fails exactly if there is no outcome and the run fails or stores nothing. -/
theorem minimum_eq_error_iff (hv : s.solvers.get? r = some v) {e : Error Float} :
    perform (minimum r) s = (.error e, t) ↔ v.outcome = .unsolved ∧
      (perform (solve r) (s.solving v) = (.error e, t) ∨
        perform (solve r) (s.solving v) = (.ok (), t) ∧ e = .nothingStored v.kind.name ∧
          ∃ w, t.solvers.get? r = some w ∧ w.outcome = .unsolved) := by
  rcases minimum_cases hv with ⟨hfinal, hminimum⟩ | ⟨hfinal, answer, u, w, hsolve, hw, hkind, hminimum⟩
  · have hunsolved : ¬v.outcome = .unsolved := by
      intro heq
      rw [heq, Outcome.isFinal_unsolved] at hfinal
      cases hfinal
    rw [hminimum]
    constructor
    · intro h
      cases h
    · intro h
      exact absurd h.1 hunsolved
  · have hunsolved := Outcome.eq_unsolved_of_isFinal_eq_false hfinal
    rw [hsolve]
    rcases hminimum with ⟨e', rfl, hminimum⟩ | ⟨rfl, hstored, hminimum⟩ | ⟨rfl, hstored, hminimum⟩
    · rw [hminimum]
      constructor
      · intro h
        cases h
        exact ⟨hunsolved, .inl rfl⟩
      · rintro ⟨-, h | ⟨h, -⟩⟩
        · cases h
          rfl
        · cases h
    · rw [hminimum]
      constructor
      · intro h
        cases h
      · rintro ⟨-, h | ⟨h, -, w', hw', hnothing⟩⟩
        · cases h
        · cases h
          obtain rfl : w' = w := Option.some.inj (hw'.symm.trans hw)
          rw [hnothing] at hstored
          cases hstored
    · rw [hminimum, hkind]
      constructor
      · intro h
        cases h
        exact ⟨hunsolved, .inr ⟨rfl, rfl, w, hw, Outcome.eq_unsolved_of_isFinal_eq_false hstored⟩⟩
      · rintro ⟨-, h | ⟨h, rfl, -⟩⟩
        · cases h
        · cases h
          rfl

theorem storeOutcome_cases (hv : s.solvers.get? r = some v) (given : Given Outcome) :
    (∃ o, given = .ok o ∧ o.isFinal = true ∧ perform (storeOutcome r given) s =
      (.ok (), { s with solvers := s.solvers.set r { v with outcome := o } })) ∨
    (∀ o, given = .ok o → o = .unsolved) ∧
      ∃ e, e.kindName = "TypeError" ∧ perform (storeOutcome r given) s = (.error e, s) := by
  rw [perform_storeOutcome hv]
  cases given with
  | error name =>
    have hnone (o : Outcome) (h : (Except.error name : Given Outcome) = .ok o) : o = .unsolved := by
      cases h
    exact .inr ⟨hnone, _, rfl, rfl⟩
  | ok o =>
    cases hfinal : o.isFinal with
    | true =>
      rw [Solver.accepted_eq_ok_iff.2 ⟨rfl, hfinal⟩]
      exact .inl ⟨o, rfl, hfinal, rfl⟩
    | false =>
      obtain rfl := Outcome.eq_unsolved_of_isFinal_eq_false hfinal
      have hall (o : Outcome) (h : (Except.ok .unsolved : Given Outcome) = .ok o) : o = .unsolved := by
        cases h
        rfl
      exact .inr ⟨hall, _, rfl, rfl⟩

/-- Whatever the steps of its procedure are, a solver lives by the rules. -/
theorem lifecycle {actions : List Action} (hv : s.solvers.get? r = some v)
    (hscript : v.kind.procedure = some (.script actions)) : Lifecycle s r v where
  kind := by
    cases v.outcome <;> simp [Outcome.kindName]
  runs := runs_of_calls hv (calls_of_solve (s := s.solving v) hv hscript)
  answer o t h := final_of_minimum hv h
  failure e t := minimum_eq_error_iff hv
  memo := by
    intro o t h calls hcalls
    obtain ⟨hfinal, w, hw, rfl⟩ := final_of_minimum hv h
    obtain ⟨x, hx, hsame⟩ := outcome_after hw hfinal calls hcalls
    rw [← hsame] at hfinal ⊢
    exact perform_minimum_of_final hx hfinal
  store := storeOutcome_cases hv
  reset := perform_reset hv

/-- A solver with a user's procedure lives by the rules after any calls, whether they are about it or not, and
whether they fail or not. -/
theorem lifecycle_after {actions : List Action} (hv : s.solvers.get? r = some v)
    (hscript : v.kind.procedure = some (.script actions)) (calls : List Call) :
    ∃ w, (s.after calls).solvers.get? r = some w ∧ w.kind = v.kind ∧ Lifecycle (s.after calls) r w := by
  obtain ⟨w, hw, hcontinues⟩ := (progress_after s calls).solvers r v hv
  have hkind : w.kind.procedure = some (.script actions) := by rw [hcontinues.kind, hscript]
  exact ⟨w, hw, hcontinues.kind, lifecycle hw hkind⟩

/-- A procedure that tries to store a text, forgets everything and reports a failure. -/
def stubborn : List Action :=
  [.attempt (.store (.error "str")), .reset, .store (.ok (.failed "infeasible" none))]

theorem lifecycle_after_stubborn :
    let c : SolverClass := { name := "Stubborn", procedure := some (.script stubborn) }
    let s := ({} : Session).after
      [.declare { objective := .ok (.constant "level" 1 [2]) }, .build c (some (.ok ⟨0⟩))]
    ∃ v, s.solvers.get? ⟨0⟩ = some v ∧ v.kind.procedure = some (.script stubborn) ∧
      ∃ w, (s.after [.minimum ⟨0⟩, .minimum ⟨0⟩, .reset ⟨0⟩]).solvers.get? ⟨0⟩ = some w ∧
        Lifecycle (s.after [.minimum ⟨0⟩, .minimum ⟨0⟩, .reset ⟨0⟩]) ⟨0⟩ w := by
  intro c s
  have hv : s.solvers.get? ⟨0⟩ = some { kind := c, problem := some ⟨0⟩ } := by rfl
  obtain ⟨w, hw, -, hlife⟩ := lifecycle_after hv rfl [.minimum ⟨0⟩, .minimum ⟨0⟩, .reset ⟨0⟩]
  exact ⟨_, hv, rfl, w, hw, hlife⟩

end Session

end Extremum
