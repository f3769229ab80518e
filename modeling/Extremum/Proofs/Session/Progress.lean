import Extremum.Proofs.Problem.Edit
import Extremum.Proofs.Session.Construction
import Extremum.Proofs.Session.Undisturbed

/-!
# How a session goes on

Whatever is done to a session, its problems are edited, and its solvers keep their classes and their problems.
The outcome of a solver changes only if something is stored in that solver or forgotten by it, and the count of
its runs only if it is run. This holds of every operation, whether it fails or not. Creation by name is the one
operation that opens a problem again; it does so only if it has frozen that problem itself, so that its edits
cancel out. Whatever is done with solvers, stores and names alone leaves every problem as it is.
-/

namespace Extremum

/-- What a solver has become after others may have stored in it or have run it. -/
structure Solver.Continues (stored ran : Prop) (v w : Solver) : Prop where
  kind : w.kind = v.kind
  problem : w.problem = v.problem
  outcome : ¬stored → w.outcome = v.outcome
  calls : ¬ran → w.calls = v.calls

/-- What a session has become after some solvers may have stored an outcome and some may have been run, and no
problem was touched. -/
structure Session.Advances (stored ran : Ref Solver → Prop) (s t : Session) : Prop where
  problems : t.problems = s.problems
  solvers : ∀ r v, s.solvers.get? r = some v →
    ∃ w, t.solvers.get? r = some w ∧ v.Continues (stored r) (ran r) w

/-- What a session has become after some solvers may have stored an outcome and some may have been run. -/
structure Session.Progress (stored ran : Ref Solver → Prop) (s t : Session) : Prop where
  problems : Problem.Edits s.problems t.problems
  solvers : ∀ r v, s.solvers.get? r = some v →
    ∃ w, t.solvers.get? r = some w ∧ v.Continues (stored r) (ran r) w

namespace Solver.Continues

variable {stored ran : Prop} {u v w : Solver}

theorem refl (v : Solver) : v.Continues stored ran v :=
  ⟨rfl, rfl, fun _ ↦ rfl, fun _ ↦ rfl⟩

theorem trans (h : u.Continues stored ran v) (h' : v.Continues stored ran w) :
    u.Continues stored ran w where
  kind := h'.kind.trans h.kind
  problem := h'.problem.trans h.problem
  outcome hs := (h'.outcome hs).trans (h.outcome hs)
  calls hr := (h'.calls hr).trans (h.calls hr)

theorem withStore (v : Solver) (store : Store) : v.Continues stored ran { v with store } :=
  ⟨rfl, rfl, fun _ ↦ rfl, fun _ ↦ rfl⟩

theorem mono {stored' ran' : Prop} (hstored : stored → stored') (hran : ran → ran')
    (h : v.Continues stored ran w) : v.Continues stored' ran' w where
  kind := h.kind
  problem := h.problem
  outcome hs := h.outcome fun hold ↦ hs (hstored hold)
  calls hr := h.calls fun hold ↦ hr (hran hold)

end Solver.Continues

namespace Session

variable {β γ : Type} {stored ran : Ref Solver → Prop} {s t : Session}

namespace Advances

theorem of_same (hproblems : t.problems = s.problems) (hsolvers : t.solvers = s.solvers) :
    Advances stored ran s t where
  problems := hproblems
  solvers r v hv := ⟨v, by rw [hsolvers, hv], .refl v⟩

theorem of_undisturbed (s t : Session) (h : Undisturbed s t) : Advances stored ran s t :=
  of_same h.problems h.solvers

theorem of_set {r : Ref Solver} {v w : Solver} (hv : s.solvers.get? r = some v)
    (hcontinues : v.Continues (stored r) (ran r) w) (hproblems : t.problems = s.problems)
    (hsolvers : t.solvers = s.solvers.set r w) : Advances stored ran s t where
  problems := hproblems
  solvers r' v' hv' := by
    rw [hsolvers]
    by_cases hr : r = r'
    · subst hr
      have hsame : v' = v := Option.some.inj (hv'.symm.trans hv)
      exact ⟨w, Arena.get?_set_self _ _ _ hv, hsame ▸ hcontinues⟩
    · exact ⟨v', by rw [Arena.get?_set_of_ne _ _ hr, hv'], .refl v'⟩

theorem of_add {v : Solver} (hproblems : t.problems = s.problems)
    (hsolvers : t.solvers = (s.solvers.add v).2) : Advances stored ran s t where
  problems := hproblems
  solvers r' v' hv' := ⟨v', by rw [hsolvers]; exact Arena.get?_add_of_get? _ _ _ hv', .refl v'⟩

instance : IsPreorder Session (Advances stored ran) where
  refl s := of_same rfl rfl
  trans s t u hst htu := {
    problems := htu.problems.trans hst.problems
    solvers := by
      intro r v hv
      obtain ⟨w, hw, hvw⟩ := hst.solvers r v hv
      obtain ⟨x, hx, hwx⟩ := htu.solvers r w hw
      exact ⟨x, hx, hvw.trans hwx⟩ }

end Advances

namespace Progress

theorem of_advances (s t : Session) (h : Advances stored ran s t) : Progress stored ran s t where
  problems := by rw [h.problems]
  solvers := h.solvers

theorem of_edits (hproblems : Problem.Edits s.problems t.problems) (hsolvers : t.solvers = s.solvers) :
    Progress stored ran s t where
  problems := hproblems
  solvers r v hv := ⟨v, by rw [hsolvers, hv], .refl v⟩

theorem mono {stored' ran' : Ref Solver → Prop} (hstored : ∀ r, stored r → stored' r)
    (hran : ∀ r, ran r → ran' r) (h : Progress stored ran s t) : Progress stored' ran' s t where
  problems := h.problems
  solvers r v hv := by
    obtain ⟨w, hw, hcontinues⟩ := h.solvers r v hv
    exact ⟨w, hw, hcontinues.mono (hstored r) (hran r)⟩

instance : IsPreorder Session (Progress stored ran) where
  refl s := of_edits .refl rfl
  trans s t u hst htu := {
    problems := hst.problems.trans htu.problems
    solvers := by
      intro r v hv
      obtain ⟨w, hw, hvw⟩ := hst.solvers r v hv
      obtain ⟨x, hx, hwx⟩ := htu.solvers r w hw
      exact ⟨x, hx, hvw.trans hwx⟩ }

end Progress

/-! ## Looking -/

section Looking

variable {R : Session → Session → Prop}

theorem keeps_get_bind {k : Session → Run β} (hk : ∀ s, R s (perform (k s) s).2) : Keeps R (get >>= k) :=
  fun s ↦ hk s

variable [IsPreorder Session R]

theorem keeps_discard {m : Run β} (hm : Keeps R m) : Keeps R (discard m) :=
  Keeps.bind hm fun _ ↦ Keeps.pure ()

theorem perform_problem_snd (r : Ref (Problem Float)) (s : Session) : (perform (problem r) s).2 = s := by
  cases h : s.problems.get? r with
  | none => rw [perform_problem_of_none h]
  | some p => rw [perform_problem h]

theorem perform_solver_snd (r : Ref Solver) (s : Session) : (perform (solver r) s).2 = s := by
  cases h : s.solvers.get? r with
  | none => rw [perform_solver_of_none h]
  | some v => rw [perform_solver h]

theorem keeps_problem_bind {r : Ref (Problem Float)} {k : Problem Float → Run β}
    (hk : ∀ s p, s.problems.get? r = some p → R s (perform (k p) s).2) : Keeps R (problem r >>= k) := by
  refine Keeps.of_read (perform_problem_snd r) fun s p hread ↦ ?_
  cases h : s.problems.get? r with
  | none =>
    rw [perform_problem_of_none h] at hread
    cases hread
  | some q =>
    rw [perform_problem h] at hread
    cases hread
    exact hk s p h

theorem keeps_solver_bind {r : Ref Solver} {k : Solver → Run β}
    (hk : ∀ s v, s.solvers.get? r = some v → R s (perform (k v) s).2) : Keeps R (solver r >>= k) := by
  refine Keeps.of_read (perform_solver_snd r) fun s v hread ↦ ?_
  cases h : s.solvers.get? r with
  | none =>
    rw [perform_solver_of_none h] at hread
    cases hread
  | some w =>
    rw [perform_solver h] at hread
    cases hread
    exact hk s v h

end Looking

theorem keeps_lift (result : Except (Error Float) β) : Keeps (Advances stored ran) (lift result) :=
  (undisturbed_lift result).mono Advances.of_undisturbed

theorem keeps_logDebug (name message : String) : Keeps (Advances stored ran) (logDebug name message) :=
  (undisturbed_logDebug name message).mono Advances.of_undisturbed

theorem keeps_found (item : Option β) : Keeps (Advances stored ran) (found item) :=
  (undisturbed_found item).mono Advances.of_undisturbed

/-! ## Problems -/

theorem progress_edit {problems : Arena (Problem Float)} (h : Problem.Edit s.problems problems) :
    Progress stored ran s { s with problems } :=
  .of_edits (.single h) rfl

theorem keeps_addProblem {p : Problem Float} (h : Problem.Arises s.problems p) :
    Progress stored ran s (perform (addProblem p) s).2 :=
  progress_edit (.add h)

theorem keeps_setProblem {r : Ref (Problem Float)} {p q : Problem Float} (hp : s.problems.get? r = some p)
    (h : p.Change q) : Progress stored ran s (perform (setProblem r q) s).2 :=
  progress_edit (.change hp h)

theorem keeps_declare (d : Declaration) : Keeps (Progress stored ran) (declare d) := by
  unfold declare
  intro s
  rw [perform_bind, perform_lift]
  cases h : Problem.declare d with
  | error e => exact refl_of _ s
  | ok p => exact keeps_addProblem (.declared h)

theorem keeps_change (r : Ref (Problem Float)) {step : Problem Float → Except (Error Float) (Problem Float)}
    (hstep : ∀ p q, step p = .ok q → p.Change q) : Keeps (Progress stored ran) (change r step) := by
  unfold change
  refine keeps_problem_bind fun s p hp ↦ ?_
  rw [perform_bind, perform_lift]
  cases h : step p with
  | error e => exact refl_of _ s
  | ok q => exact keeps_setProblem hp (hstep p q h)

theorem keeps_addConstraint (r : Ref (Problem Float)) (f : Given (Function Float))
    (bounds : BoundsPart Float) (scales : Option (ScalesPart Float)) :
    Keeps (Progress stored ran) (addConstraint r f bounds scales) := by
  unfold addConstraint
  refine keeps_problem_bind fun s p hp ↦ ?_
  rw [perform_bind, perform_lift]
  cases h : p.addConstraint f bounds scales with
  | error e => exact refl_of _ s
  | ok q =>
    dsimp only
    rw [perform_bind_of_ok (perform_setProblem r q s)]
    apply trans_of _ (keeps_setProblem hp (.constraint h))
    rw [perform_setProblem]
    cases q.constraints.getLast? with
    | none => exact refl_of _ _
    | some c => exact .of_advances _ _ (keeps_logDebug _ _ _)

theorem keeps_freeze (r : Ref (Problem Float)) : Keeps (Progress stored ran) (freeze r) := by
  unfold freeze
  exact keeps_problem_bind fun s p hp ↦ keeps_setProblem hp .freeze

theorem keeps_copy (r : Ref (Problem Float)) : Keeps (Progress stored ran) (copy r) := by
  unfold copy
  exact keeps_problem_bind fun s p hp ↦ keeps_addProblem (.copied hp)

theorem keeps_widen (r : Ref (Problem Float)) (objectiveClass : Reading Float (Option FunctionClass))
    (constraintClasses : Option (Reading Float (List (Reading Float FunctionClass)))) :
    Keeps (Progress stored ran) (widen r objectiveClass constraintClasses) := by
  unfold widen
  refine keeps_problem_bind fun s p hp ↦ ?_
  rw [perform_bind, perform_lift]
  cases h : p.widen objectiveClass constraintClasses with
  | error e => exact refl_of _ s
  | ok q => exact keeps_addProblem (.widened hp h)

/-! ## Parameters -/

theorem keeps_store (place : StorePlace) : Keeps (Advances stored ran) (store place) := by
  unfold store
  refine Keeps.bind Keeps.get fun s ↦ ?_
  cases place with
  | alone r => exact keeps_found _
  | iterate r => exact Keeps.bind (keeps_found _) fun _ ↦ Keeps.pure _
  | solver r => exact Keeps.bind (keeps_found _) fun _ ↦ Keeps.pure _

theorem keeps_setStore (place : StorePlace) (t : Store) : Keeps (Advances stored ran) (setStore place t) := by
  unfold setStore
  refine keeps_get_bind fun s ↦ ?_
  cases place with
  | alone r => exact .of_same rfl rfl
  | iterate r =>
    dsimp only
    cases h : s.iterates.get? r with
    | none => exact .of_same rfl rfl
    | some i => exact .of_same rfl rfl
  | solver r =>
    dsimp only
    cases h : s.solvers.get? r with
    | none => exact .of_same rfl rfl
    | some v => exact .of_set h (.withStore v t) rfl rfl

theorem keeps_changeStore (place : StorePlace) (c : Settings.Change β) :
    Keeps (Advances stored ran) (changeStore place c) := by
  unfold changeStore
  refine Keeps.bind (keeps_store place) fun store ↦ Keeps.bind Keeps.get fun s ↦ ?_
  refine Keeps.bind (fun _ ↦ .of_same rfl rfl) fun _ ↦ ?_
  exact Keeps.bind (keeps_setStore place _) fun _ ↦ keeps_lift _

/-! ## Construction -/

/-- The copy that a class of solvers needs is a widened one. -/
theorem widen_of_adapt {c : SolverClass} {p w : Problem Float} (h : c.adapt p = .ok (some w)) :
    ∃ objectiveClass constraintClasses, p.widen objectiveClass constraintClasses = .ok w := by
  unfold SolverClass.adapt at h
  obtain ⟨wanted, -, h⟩ := Reading.bind_eq_ok_iff.1 h
  obtain ⟨classes, -, h⟩ := Reading.bind_eq_ok_iff.1 h
  have hlast {x : Except (Error Float) (Problem Float)} (hx : some <$> x = .ok (some w)) : x = .ok w := by
    obtain ⟨y, hy, heq⟩ := Reading.map_eq_ok_iff.1 hx
    rw [hy, Option.some.inj heq]
  dsimp only at h
  split at h
  · obtain ⟨read, -, h⟩ := Reading.bind_eq_ok_iff.1 h
    split at h
    · cases h
    · exact ⟨_, _, hlast h⟩
  · exact ⟨_, _, hlast h⟩

section Relations

variable {R : Session → Session → Prop} [IsPreorder Session R]

/-- Taking a problem over comes to adding a widened copy of it, at most, and to freezing. -/
theorem keeps_takeOver_of {r : Ref (Problem Float)} (c : SolverClass) (hfreeze : ∀ r, Keeps R (freeze r))
    (hwiden : ∀ s p w objectiveClass constraintClasses, s.problems.get? r = some p →
      p.widen objectiveClass constraintClasses = .ok w → R s (perform (addProblem w) s).2) :
    Keeps R (takeOver c (.ok r)) := by
  unfold takeOver
  refine keeps_problem_bind fun s p hp ↦ ?_
  rw [perform_bind, perform_lift]
  have hrest (own : Ref (Problem Float)) :
      Keeps R (do freeze r; freeze own; return own : Run (Ref (Problem Float))) :=
    Keeps.bind (hfreeze r) fun _ ↦ Keeps.bind (hfreeze own) fun _ ↦ Keeps.pure own
  cases h : c.adapt p with
  | error e => exact refl_of _ s
  | ok needed =>
    cases needed with
    | none => exact hrest r s
    | some w =>
      obtain ⟨objectiveClass, constraintClasses, hw⟩ := widen_of_adapt h
      exact trans_of _ (hwiden s p w objectiveClass constraintClasses hp hw) (hrest _ _)

/-- Building a solver comes to taking its problem over, if it is given one, and to putting the solver together. -/
theorem keeps_build_of (c : SolverClass) (given : Option (Given (Ref (Problem Float))))
    (htake : ∀ taken, given = some taken → Keeps R (takeOver c taken))
    (hassemble : ∀ problem, Keeps R (assemble c problem)) : Keeps R (build c given) := by
  have hown : Keeps R (ownProblem c given) := by
    unfold ownProblem
    split
    · exact Keeps.bind (htake _ rfl) fun _ ↦ Keeps.pure _
    · exact Keeps.pure _
    · exact Keeps.throw _
  unfold build
  split
  · exact Keeps.bind (Keeps.throw _) fun _ ↦ Keeps.bind hown hassemble
  · exact Keeps.bind hown hassemble

end Relations

theorem keeps_takeOver (c : SolverClass) (given : Given (Ref (Problem Float))) :
    Keeps (Progress stored ran) (takeOver c given) := by
  cases given with
  | error name => exact Keeps.throw _
  | ok r => exact keeps_takeOver_of c keeps_freeze fun _ _ _ _ _ hp hw ↦ keeps_addProblem (.widened hp hw)

theorem keeps_assemble (c : SolverClass) (problem : Option (Ref (Problem Float))) :
    Keeps (Advances stored ran) (assemble c problem) := by
  intro s
  rcases h : perform (Settings.putAll c.defaults) ⟨s.parameters, {}⟩ with ⟨answer, settings⟩
  cases answer with
  | error e =>
    rw [perform_assemble_of_error h]
    exact refl_of _ s
  | ok u =>
    rw [perform_assemble_of_ok h]
    exact .of_add rfl rfl

theorem keeps_build (c : SolverClass) (given : Option (Given (Ref (Problem Float)))) :
    Keeps (Progress stored ran) (build c given) :=
  keeps_build_of c given (fun taken _ ↦ keeps_takeOver c taken) fun problem ↦
    (keeps_assemble c problem).mono Progress.of_advances

/-! ## Outcomes and iterations -/

section Storing

variable {r : Ref Solver}

theorem keeps_storeOutcome (hr : stored r) (given : Given Outcome) :
    Keeps (Advances stored ran) (storeOutcome r given) := by
  unfold storeOutcome
  refine keeps_solver_bind fun s v hv ↦ ?_
  rw [perform_bind, perform_lift]
  cases Solver.accepted given with
  | error e => exact refl_of _ s
  | ok outcome =>
    have hcontinues : v.Continues (stored r) (ran r) { v with outcome } :=
      ⟨rfl, rfl, fun h ↦ absurd hr h, fun _ ↦ rfl⟩
    exact .of_set hv hcontinues rfl rfl

theorem keeps_reset (hr : stored r) : Keeps (Advances stored ran) (reset r) := by
  unfold reset
  refine keeps_solver_bind fun s v hv ↦ ?_
  have hcontinues : v.Continues (stored r) (ran r) { v with outcome := .unsolved } :=
    ⟨rfl, rfl, fun h ↦ absurd hr h, fun _ ↦ rfl⟩
  exact .of_set hv hcontinues rfl rfl

theorem keeps_solver (r : Ref Solver) : Keeps (Advances stored ran) (solver r) :=
  (undisturbed_solver r).mono Advances.of_undisturbed

theorem keeps_notify (r : Ref Solver) (i : Iterate) : Keeps (Advances stored ran) (notify r i) :=
  (undisturbed_notify r i).mono Advances.of_undisturbed

theorem keeps_ownedProblem (r : Ref Solver) : Keeps (Advances stored ran) (ownedProblem r) :=
  (undisturbed_ownedProblem r).mono Advances.of_undisturbed

theorem keeps_notifyAt (r : Ref Solver) (x : Reading Float (Tensor Float))
    (cost : Option (Reading Float (Option Float))) : Keeps (Advances stored ran) (notifyAt r x cost) :=
  (undisturbed_notifyAt r x cost).mono Advances.of_undisturbed

theorem keeps_storeStart (hr : stored r) : Keeps (Advances stored ran) (storeStart r) := by
  unfold storeStart
  refine Keeps.bind (keeps_ownedProblem r) fun p ↦ ?_
  exact Keeps.bind (keeps_lift _) fun value ↦ keeps_storeOutcome hr _

/-! ## Solving -/

/-- One step of a procedure stores in its own solver only, and runs none. -/
theorem keeps_act (hr : stored r) (step : Action) : Keeps (Advances stored ran) (act r step) := by
  induction step with
  | store given => exact keeps_storeOutcome hr given
  | storeStart => exact keeps_storeStart hr
  | notify x cost => exact keeps_notifyAt r x cost
  | reset => exact keeps_reset hr
  | fail e => exact Keeps.throw e
  | attempt step ih => exact Keeps.tryCatch ih fun _ ↦ Keeps.pure _

theorem keeps_startIterate (p : Problem Float) (x value : List Float) :
    Keeps (Advances stored ran) (startIterate p x value) :=
  (undisturbed_startIterate p x value).mono Advances.of_undisturbed

theorem keeps_recordStart (hr : stored r) : Keeps (Advances stored ran) (recordStart r) := by
  unfold recordStart
  refine Keeps.bind (keeps_ownedProblem r) fun p ↦ Keeps.bind (keeps_lift _) fun value ↦
    Keeps.bind (keeps_startIterate p _ value) fun i ↦ Keeps.bind (keeps_notify r i) fun i ↦
    Keeps.bind Keeps.get fun s ↦ Keeps.bind (keeps_logDebug _ _) fun _ ↦ ?_
  exact Keeps.bind (keeps_lift _) fun constraints ↦ keeps_storeOutcome hr _

theorem keeps_look (r : Ref Solver) : Keeps (Advances stored ran) (look r) :=
  Keeps.bind (keeps_solver r) fun _ ↦ Keeps.bind Keeps.get fun _ ↦ Keeps.pure _

theorem keeps_carryOut (hr : stored r) (deed : Deed) : Keeps (Advances stored ran) (carryOut r deed) := by
  unfold carryOut
  cases deed with
  | act step => exact keeps_act hr step
  | put key content description => exact keeps_changeStore (.solver r) _
  | update key content => exact keeps_changeStore (.solver r) _
  | setEntry key index entry => exact keeps_discard (keeps_changeStore (.solver r) _)

/-- A program stores in its own solver only, and runs none, whatever it decides. -/
theorem keeps_follow (hr : stored r) (body : Program) : Keeps (Advances stored ran) (follow r body) := by
  induction body with
  | done => exact Keeps.pure _
  | fail e => exact Keeps.throw e
  | look next ih => exact Keeps.bind (keeps_look r) ih
  | attempt deed next ih =>
    have hdeed : Keeps (Advances stored ran) (errorOf (carryOut r deed)) :=
      Keeps.tryCatch (Keeps.bind (keeps_carryOut hr deed) fun _ ↦ Keeps.pure _) fun _ ↦ Keeps.pure _
    exact Keeps.bind hdeed ih

theorem keeps_solve (hstored : stored r) (hran : ran r) : Keeps (Advances stored ran) (solve r) := by
  unfold solve
  refine keeps_solver_bind fun s v hv ↦ ?_
  have hcontinues : v.Continues (stored r) (ran r) { v with calls := v.calls + 1 } :=
    ⟨rfl, rfl, fun _ ↦ rfl, fun h ↦ absurd hran h⟩
  have hcounted : Advances stored ran s (perform (setSolver r { v with calls := v.calls + 1 }) s).2 :=
    .of_set hv hcontinues rfl rfl
  split
  · exact refl_of _ s
  · exact keeps_storeOutcome hstored _ s
  · exact keeps_recordStart hstored s
  · rename_i actions _
    have hactions : Keeps (Advances stored ran) (actions.forM (act r)) :=
      Keeps.forM fun step _ ↦ keeps_act hstored step
    rw [perform_bind_of_ok (perform_setSolver _ _ _)]
    exact trans_of _ hcounted (hactions _)
  · rename_i body _
    rw [perform_bind_of_ok (perform_setSolver _ _ _)]
    exact trans_of _ hcounted (keeps_follow hstored body _)

theorem keeps_minimum (hstored : stored r) (hran : ran r) : Keeps (Advances stored ran) (minimum r) := by
  unfold minimum
  refine Keeps.bind (keeps_solver r) fun v ↦ ?_
  split
  · exact Keeps.pure _
  · refine Keeps.bind (keeps_logDebug _ _) fun _ ↦ Keeps.bind (keeps_solve hstored hran) fun _ ↦
      Keeps.bind (keeps_solver r) fun w ↦ ?_
    split
    · exact Keeps.bind (keeps_logDebug _ _) fun _ ↦ Keeps.pure _
    · exact Keeps.throw _

theorem keeps_setCallback (r : Ref Solver) (callback : Given (Option Callback)) :
    Keeps (Advances stored ran) (setCallback r callback) := by
  unfold setCallback
  refine keeps_solver_bind fun s v hv ↦ ?_
  have hcheck : perform (checkOwner v) s = (.ok (), s) ∨ ∃ e, perform (checkOwner v) s = (.error e, s) := by
    unfold checkOwner
    cases v.problem with
    | none => exact .inr ⟨_, rfl⟩
    | some own => exact .inl rfl
  rcases hcheck with hcheck | ⟨e, hcheck⟩
  · rw [perform_bind_of_ok hcheck]
    cases callback with
    | error name => exact refl_of _ s
    | ok callback =>
      have hcontinues : v.Continues (stored r) (ran r) { v with callback } :=
        ⟨rfl, rfl, fun _ ↦ rfl, fun _ ↦ rfl⟩
      exact .of_set hv hcontinues rfl rfl
  · rw [perform_bind_of_error hcheck]
    exact refl_of _ s

end Storing

/-! ## The registry and creation by name -/

theorem keeps_solverClass (r : Ref SolverClass) : Keeps (Advances stored ran) (solverClass r) :=
  Keeps.bind Keeps.get fun _ ↦ keeps_found _

theorem keeps_addSolverClass (c : SolverClass) : Keeps (Advances stored ran) (addSolverClass c) :=
  Keeps.bind Keeps.get fun _ ↦ Keeps.bind (fun _ ↦ .of_same rfl rfl) fun _ ↦ Keeps.pure _

theorem keeps_register (name : String) (given : Given (Ref SolverClass)) (overwrite : Bool) :
    Keeps (Advances stored ran) (register name given overwrite) := by
  unfold register
  cases given with
  | error shown => exact Keeps.throw _
  | ok r =>
    refine Keeps.bind (keeps_solverClass r) fun c ↦ ?_
    split
    · refine Keeps.bind Keeps.get fun s ↦ ?_
      split
      · exact Keeps.throw _
      · exact fun _ ↦ .of_same rfl rfl
    · exact Keeps.throw _

theorem keeps_unregister (name : String) : Keeps (Advances stored ran) (unregister name) :=
  fun _ ↦ .of_same rfl rfl

theorem keeps_lookUp (name : String) : Keeps (Advances stored ran) (lookUp name) := by
  unfold lookUp
  refine Keeps.bind Keeps.get fun s ↦ ?_
  split
  · exact keeps_solverClass _
  · exact Keeps.throw _

section Creation

variable {c : SolverClass} {r own : Ref (Problem Float)} {p : Problem Float}
  {problems others : Arena (Problem Float)}

/-- Opening a problem again that was open before it was taken over undoes the only change of old problems. -/
theorem Takes.edits_set_unfreeze (hp : problems.get? r = some p) (hopen : p.frozen = false)
    (h : Takes c problems r p own others) : Problem.Edits problems (others.set r p.freeze.unfreeze) := by
  rw [Problem.unfreeze_freeze hopen]
  cases h with
  | given _ =>
    rw [Arena.set_set, Arena.set_eq_self hp]
  | @copy w hadapt =>
    obtain ⟨objectiveClass, constraintClasses, hw⟩ := widen_of_adapt hadapt
    rw [Arena.set_add_of_get? (Arena.get?_set_self _ _ _ hp), Arena.set_set, Arena.set_eq_self hp]
    exact Problem.Edits.add_freeze (.widened hp hw)

theorem keeps_create (name : String) (parameters : List (String × Reading Float Content))
    (given : Given (Ref (Problem Float))) : Keeps (Progress stored ran) (create name parameters given) := by
  unfold create
  refine Keeps.bind ((keeps_lookUp name).mono Progress.of_advances) fun c ↦
    Keeps.bind ((keeps_lift _).mono Progress.of_advances) fun values ↦ ?_
  cases given with
  | error shown => exact Keeps.throw _
  | ok r =>
    refine keeps_problem_bind fun s p hp ↦ ?_
    have hbuilt : Progress stored ran s (perform (build c (some (.ok r))) s).2 := keeps_build c _ s
    rcases hbuild : perform (build c (some (.ok r))) s with ⟨answer, t⟩
    rw [hbuild] at hbuilt
    cases answer with
    | error e =>
      rw [perform_bind_of_error hbuild]
      exact hbuilt
    | ok v =>
      obtain ⟨q, own, declared, hdone⟩ := build_of_ok hbuild
      have hsame : q = p := Option.some.inj (hdone.found.symm.trans hp)
      subst hsame
      rcases hvalues : perform (Settings.configure values) ⟨t.parameters, declared.store⟩ with
        ⟨answer, settings⟩
      have hequip := perform_equip hdone.solver hdone.given q.frozen hvalues
      rw [perform_bind_of_ok hbuild, perform_bind, hequip]
      have hkept : Progress stored ran t { t with
          parameters := settings.parameters
          solvers := t.solvers.set v { kind := c, problem := some own, store := settings.store } } :=
        .of_advances _ _ (.of_set hdone.solver (.withStore _ settings.store) rfl rfl)
      have hconfigured := trans_of _ hbuilt hkept
      cases answer with
      | ok _ =>
        exact trans_of _ hconfigured (.of_advances _ _ (Keeps.bind (keeps_logDebug _ _) (fun _ ↦ Keeps.pure v) _))
      | error e =>
        cases hopen : q.frozen with
        | true => exact hconfigured
        | false => exact ⟨hdone.takes.edits_set_unfreeze hp hopen, hconfigured.solvers⟩

end Creation

end Session

end Extremum
