import Extremum.Proofs.Settings.Confinement
import Extremum.Proofs.Solver.Failure

/-!
# Solvers on their own

What a solver does depends on nothing but what it shows of itself (`View`): its class, the problem that it owns, its
outcome, how often it was run, and the parameters that it holds. Whatever else there is in a session, an operation on
the solver answers the same, and the solver shows the same afterwards (`Solitary`). In turn the operation leaves
everything else in the session alone: the problems, the other solvers and their parameters (`Confined`).
-/

namespace Extremum

structure View where
  kind : SolverClass
  /-- The problem that the solver owns. -/
  problem : Problem Float
  outcome : Outcome
  calls : Nat
  /-- The parameters of the solver by key. -/
  held : List (String × Parameter)

/-- A solver shows a view among problems and parameters, and tells nobody about its iterations. -/
structure Solver.Shows (v : Solver) (problems : Arena (Problem Float)) (parameters : Arena Parameter)
    (view : View) : Prop where
  kind : v.kind = view.kind
  problem : v.problem.bind problems.get? = some view.problem
  outcome : v.outcome = view.outcome
  calls : v.calls = view.calls
  callback : v.callback = none
  settings : Settings.Holds ⟨parameters, v.store⟩ view.held

namespace Session

variable {β γ : Type} {s t u : Session} {r r' : Ref Solver} {v w : Solver} {view view' : View}

/-- The solver that a reference refers to shows a view. -/
def Shows (s : Session) (r : Ref Solver) (view : View) : Prop :=
  ∃ v, s.solvers.get? r = some v ∧ v.Shows s.problems s.parameters view

/-! ## Confinement -/

/-- Only one solver has changed, and the parameters that its store refers to. -/
structure Confined (r : Ref Solver) (s t : Session) : Prop where
  problems : t.problems = s.problems
  registry : t.registry = s.registry
  classes : t.classes = s.classes
  solvers : ∀ r', r' ≠ r → t.solvers.get? r' = s.solvers.get? r'
  settings : ∀ v, s.solvers.get? r = some v →
    ∃ w, t.solvers.get? r = some w ∧ Settings.Confined ⟨s.parameters, v.store⟩ ⟨t.parameters, w.store⟩

instance : IsPreorder Session (Confined r) where
  refl s := ⟨rfl, rfl, rfl, fun _ _ ↦ rfl, fun v hv ↦ ⟨v, hv, .refl _⟩⟩
  trans s t u hst htu := {
    problems := htu.problems.trans hst.problems
    registry := htu.registry.trans hst.registry
    classes := htu.classes.trans hst.classes
    solvers := fun r' hr' ↦ (htu.solvers r' hr').trans (hst.solvers r' hr')
    settings := by
      intro v hv
      obtain ⟨w, hw, hvw⟩ := hst.settings v hv
      obtain ⟨x, hx, hwx⟩ := htu.settings w hw
      exact ⟨x, hx, hvw.trans hwx⟩ }

/-- No parameter of one solver is one of another solver's. -/
def Apart (s : Session) (r r' : Ref Solver) : Prop :=
  ∀ v w, s.solvers.get? r = some v → s.solvers.get? r' = some w →
    ∀ c ∈ Settings.refs v.store, c ∉ Settings.refs w.store

theorem Apart.symm (h : s.Apart r r') : s.Apart r' r :=
  fun v w hv hw c hc hmem ↦ h w v hw hv c hmem hc

/-- What is done to one solver leaves another one as it is, and the two stay apart. -/
theorem Shows.of_confined (h : s.Shows r view) (hst : Confined r' s t) (hne : r ≠ r') (hr' : s.Shows r' view')
    (hapart : s.Apart r r') : t.Shows r view ∧ t.Apart r r' := by
  obtain ⟨v, hv, hshows⟩ := h
  obtain ⟨w, hw, -⟩ := hr'
  obtain ⟨x, hx, hsettings⟩ := hst.settings w hw
  have hsame : t.solvers.get? r = some v := (hst.solvers r hne).trans hv
  have hdisjoint := hapart v w hv hw
  constructor
  · refine ⟨v, hsame, hshows.kind, ?_, hshows.outcome, hshows.calls, hshows.callback, ?_⟩
    · rw [hst.problems]
      exact hshows.problem
    · exact hshows.settings.of_confined hsettings hdisjoint
  · intro v' w' hv' hw'
    obtain rfl : v = v' := Option.some.inj (hsame.symm.trans hv')
    obtain rfl : x = w' := Option.some.inj (hx.symm.trans hw')
    exact hshows.settings.apart_of_confined hsettings hdisjoint

/-! ## Solitude -/

/-- Of every solver that shows a view, an operation gets the same answer; the solver shows the same afterwards, and
nothing else has changed. -/
def Settles (m : Ref Solver → Run β) (view : View) (answer : Except (Error Float) β) (after : View) : Prop :=
  ∀ s r, s.Shows r view → ∃ t, perform (m r) s = (answer, t) ∧ t.Shows r after ∧ Confined r s t

/-- What comes of an operation on a solver is decided by what the solver shows. -/
def Solitary (m : Ref Solver → Run β) : Prop :=
  ∀ view, ∃ answer after, Settles m view answer after

/-- An operation that leaves all solvers that show a view as they are. -/
theorem Settles.of_same {m : Ref Solver → Run β} {answer : Except (Error Float) β}
    (h : ∀ s r, s.Shows r view → perform (m r) s = (answer, s)) : Settles m view answer view :=
  fun s r hr ↦ ⟨s, h s r hr, hr, refl_of _ s⟩

theorem Settles.congr {m m' : Ref Solver → Run β} {answer : Except (Error Float) β} {after : View}
    (hm : Settles m view answer after) (h : ∀ s r, s.Shows r view → perform (m' r) s = perform (m r) s) :
    Settles m' view answer after := by
  intro s r hr
  rw [h s r hr]
  exact hm s r hr

/-- Solitary steps follow each other with the answers and views of each. -/
theorem Settles.bind {m : Ref Solver → Run β} {k : β → Ref Solver → Run γ} {b : β}
    {answer : Except (Error Float) γ} {after last : View} (hm : Settles m view (.ok b) after)
    (hk : Settles (k b) after answer last) : Settles (fun r ↦ m r >>= (k · r)) view answer last := by
  intro s r hr
  obtain ⟨t, ht, hafter, hst⟩ := hm s r hr
  obtain ⟨u, hu, hlast, htu⟩ := hk t r hafter
  exact ⟨u, (perform_bind_of_ok ht _).trans hu, hlast, trans_of _ hst htu⟩

theorem Settles.bind_of_error {m : Ref Solver → Run β} {e : Error Float} {after : View}
    (hm : Settles m view (.error e) after) (k : β → Ref Solver → Run γ) :
    Settles (fun r ↦ m r >>= (k · r)) view (.error e) after := by
  intro s r hr
  obtain ⟨t, ht, hafter, hst⟩ := hm s r hr
  exact ⟨t, perform_bind_of_error ht _, hafter, hst⟩

namespace Solitary

protected theorem pure (b : β) : Solitary fun _ ↦ pure b :=
  fun view ↦ ⟨.ok b, view, .of_same fun _ _ _ ↦ rfl⟩

protected theorem throw (e : Error Float) : Solitary fun _ ↦ (throw e : Run β) :=
  fun view ↦ ⟨.error e, view, .of_same fun _ _ _ ↦ rfl⟩

protected theorem lift (result : Except (Error Float) β) : Solitary fun _ ↦ lift result :=
  fun view ↦ ⟨result, view, .of_same fun s _ _ ↦ perform_lift result s⟩

protected theorem bind {m : Ref Solver → Run β} {k : β → Ref Solver → Run γ} (hm : Solitary m)
    (hk : ∀ b, Solitary (k b)) : Solitary fun r ↦ m r >>= (k · r) := by
  intro view
  obtain ⟨answer, after, hfirst⟩ := hm view
  cases answer with
  | error e => exact ⟨_, _, hfirst.bind_of_error k⟩
  | ok b =>
    obtain ⟨answer, last, hrest⟩ := hk b after
    exact ⟨answer, last, hfirst.bind hrest⟩

protected theorem tryCatch {m : Ref Solver → Run β} {handler : Error Float → Ref Solver → Run β}
    (hm : Solitary m) (hhandler : ∀ e, Solitary (handler e)) :
    Solitary fun r ↦ tryCatch (m r) (handler · r) := by
  intro view
  obtain ⟨answer, after, hfirst⟩ := hm view
  cases answer with
  | ok b =>
    refine ⟨.ok b, after, fun s r hr ↦ ?_⟩
    obtain ⟨t, ht, hafter, hst⟩ := hfirst s r hr
    refine ⟨t, ?_, hafter, hst⟩
    rw [perform_tryCatch, ht]
  | error e =>
    obtain ⟨answer, last, hrest⟩ := hhandler e after
    refine ⟨answer, last, fun s r hr ↦ ?_⟩
    obtain ⟨t, ht, hafter, hst⟩ := hfirst s r hr
    obtain ⟨u, hu, hlast, htu⟩ := hrest t r hafter
    refine ⟨u, ?_, hlast, trans_of _ hst htu⟩
    rw [perform_tryCatch, ht]
    exact hu

protected theorem forM {items : List β} {f : β → Ref Solver → Run PUnit} (hf : ∀ b ∈ items, Solitary (f b)) :
    Solitary fun r ↦ items.forM (f · r) := by
  induction items with
  | nil => exact .pure _
  | cons b rest ih =>
    have hrest : Solitary fun r ↦ rest.forM (f · r) := ih fun c hc ↦ hf c (List.mem_cons_of_mem b hc)
    exact .bind (hf b List.mem_cons_self) fun _ ↦ hrest

end Solitary

/-! ## Outcomes -/

/-- Another record is put in the place of a solver, with the same store. -/
theorem Shows.set {after : View} (hv : s.solvers.get? r = some v) (hw : w.Shows s.problems s.parameters after)
    (hstore : w.store = v.store) :
    Shows { s with solvers := s.solvers.set r w } r after ∧
      Confined r s { s with solvers := s.solvers.set r w } := by
  have hget : (s.solvers.set r w).get? r = some w := Arena.get?_set_self _ _ _ hv
  refine ⟨⟨w, hget, hw⟩, rfl, rfl, rfl, fun r' hr' ↦ Arena.get?_set_of_ne _ _ hr'.symm, fun v' hv' ↦ ?_⟩
  obtain rfl : v = v' := Option.some.inj (hv.symm.trans hv')
  refine ⟨w, hget, ?_⟩
  rw [hstore]
  exact .refl _

theorem solitary_storeOutcome (given : Given Outcome) : Solitary (storeOutcome · given) := by
  intro view
  cases hgiven : Solver.accepted given with
  | error e =>
    refine ⟨.error e, view, .of_same fun s r ⟨v, hv, _⟩ ↦ ?_⟩
    rw [perform_storeOutcome hv, hgiven]
  | ok outcome =>
    refine ⟨.ok (), { view with outcome }, fun s r ⟨v, hv, hshows⟩ ↦ ?_⟩
    have hstored : Solver.Shows { v with outcome } s.problems s.parameters { view with outcome } :=
      { hshows with outcome := rfl }
    refine ⟨_, ?_, Shows.set hv hstored rfl⟩
    rw [perform_storeOutcome hv, hgiven]

theorem solitary_reset : Solitary reset := by
  intro view
  refine ⟨.ok (), { view with outcome := .unsolved }, fun s r ⟨v, hv, hshows⟩ ↦ ⟨_, perform_reset hv, ?_⟩⟩
  exact Shows.set hv { hshows with outcome := rfl } rfl

/-! ## Parameters -/

/-- A change of the store of a solver is decided by what the solver holds if it is blind, and leaves all others alone
if it is confined. -/
theorem solitary_changeStore {c : Settings.Change β} (hblind : Settings.Blind c)
    (hconfined : Keeps Settings.Confined c) : Solitary fun r ↦ changeStore (.solver r) c := by
  intro view
  obtain ⟨answer, held, hc⟩ := hblind view.held
  refine ⟨answer, { view with held }, fun s r ⟨v, hv, hshows⟩ ↦ ?_⟩
  obtain ⟨settings, hsettings, hheld⟩ := hc _ hshows.settings
  have hkept := hconfined ⟨s.parameters, v.store⟩
  rw [hsettings] at hkept
  have hget : (s.solvers.set r { v with store := settings.store }).get? r =
    some { v with store := settings.store } := Arena.get?_set_self _ _ _ hv
  refine ⟨_, perform_changeStore_solver hv hsettings, ⟨_, hget, { hshows with settings := hheld }⟩, rfl, rfl, rfl,
    fun r' hr' ↦ Arena.get?_set_of_ne _ _ hr'.symm, fun v' hv' ↦ ⟨_, hget, ?_⟩⟩
  obtain rfl : v = v' := Option.some.inj (hv.symm.trans hv')
  exact hkept

/-! ## Looking -/

theorem Shows.perform_ownedProblem (h : s.Shows r view) : perform (ownedProblem r) s = (.ok view.problem, s) := by
  obtain ⟨v, hv, hshows⟩ := h
  rw [Session.perform_ownedProblem hv, hshows.problem]

theorem solitary_ownedProblem : Solitary ownedProblem :=
  fun view ↦ ⟨.ok view.problem, view, .of_same fun _ _ h ↦ h.perform_ownedProblem⟩

theorem solitary_look : Solitary look := by
  intro view
  refine ⟨.ok ⟨view.outcome, some view.problem, view.held, view.calls⟩, view, .of_same fun s r ⟨v, hv, hshows⟩ ↦ ?_⟩
  unfold look
  rw [perform_bind_of_ok (perform_solver hv), perform_bind_of_ok (perform_get s), perform_pure, hshows.outcome,
    hshows.problem, hshows.settings.contents_eq, hshows.calls]

/-! ## Iterations -/

/-- Nobody is told about an iteration of a solver that shows a view. -/
theorem Shows.perform_notify (h : s.Shows r view) (i : Iterate) : perform (notify r i) s = (.ok i, s) := by
  obtain ⟨v, hv, hshows⟩ := h
  rw [Session.perform_notify hv hshows.problem, hshows.callback]

theorem solitary_notify (i : Iterate) : Solitary (notify · i) :=
  fun view ↦ ⟨.ok i, view, .of_same fun _ _ h ↦ h.perform_notify i⟩

theorem solitary_notifyAt (x : Reading Float (Tensor Float)) (cost : Option (Reading Float (Option Float))) :
    Solitary (notifyAt · x cost) := by
  unfold notifyAt
  exact .bind solitary_ownedProblem fun p ↦ .bind (.lift _) fun i ↦ .bind (.lift _) fun cost ↦
    .bind (solitary_notify _) fun _ ↦ .pure _

theorem solitary_storeStart : Solitary storeStart := by
  unfold storeStart
  exact .bind solitary_ownedProblem fun p ↦ .bind (.lift _) fun value ↦ solitary_storeOutcome _

/-! ## Procedures -/

/-- Every step of a script is about its own solver only. -/
theorem solitary_act (step : Action) : Solitary (act · step) := by
  induction step with
  | store given => exact solitary_storeOutcome given
  | storeStart => exact solitary_storeStart
  | notify x cost => exact solitary_notifyAt x cost
  | reset => exact solitary_reset
  | fail e => exact .throw e
  | attempt step ih => exact .tryCatch ih fun _ ↦ .pure _

theorem solitary_carryOut (deed : Deed) : Solitary (carryOut · deed) := by
  unfold carryOut
  cases deed with
  | act step => exact solitary_act step
  | put key content description =>
    exact solitary_changeStore (Settings.blind_put key content description)
      (Settings.confined_put key content description)
  | update key content =>
    exact solitary_changeStore (Settings.blind_update key content) (Settings.confined_update key content)
  | setEntry key index entry =>
    have hchange := solitary_changeStore (Settings.blind_setEntry key (.ok .vector) index entry)
      (Settings.confined_setEntry key (.ok .vector) index entry)
    exact .bind hchange fun _ ↦ .pure ()

theorem solitary_errorOf {m : Ref Solver → Run Unit} (hm : Solitary m) : Solitary fun r ↦ errorOf (m r) :=
  .tryCatch (.bind hm fun _ ↦ .pure none) fun e ↦ .pure (some e)

/-- What a program comes to is decided by what it sees of its solver. -/
theorem solitary_follow (body : Program) : Solitary (follow · body) := by
  induction body with
  | done => exact .pure ()
  | fail e => exact .throw e
  | look next ih => exact .bind solitary_look ih
  | attempt deed next ih => exact .bind (solitary_errorOf (solitary_carryOut deed)) ih

/-- Tells about the iteration at the starting point. -/
def tellStart (p : Problem Float) (x value : List Float) (r : Ref Solver) : Run Unit := do
  let i ← notify r (← startIterate p x value)
  logDebug ".solver.dummy" ("Dummy iteration:\n" ++ i.text (← get).parameters)

theorem recordStart_eq (r : Ref Solver) : recordStart r = (ownedProblem r >>= fun p ↦
    let x := p.start.getD (Vec.zeros p.inputSize)
    lift (p.objective.evaluate (.vector x)) >>= fun value ↦
    tellStart p x value r >>= fun _ ↦
    lift (p.constraints.mapM fun c ↦ c.function.evaluate (.vector x)) >>= fun constraints ↦
    let last := Outcome.solved ⟨x, value, constraints.flatten, []⟩
    storeOutcome r (.ok (.failed Solver.failureMessage (some last)))) := by
  unfold recordStart tellStart
  simp only [bind_assoc]

/-- Parameters that belong to no store of a solver may be added. -/
theorem Shows.grow {parameters : Arena Parameter} (h : s.Shows r view)
    (hgrown : Settings.Confined ⟨s.parameters, {}⟩ ⟨parameters, {}⟩) (log : Log) :
    Shows { s with parameters, log } r view ∧ Confined r s { s with parameters, log } := by
  obtain ⟨v, hv, hshows⟩ := h
  have hheld := hshows.settings.of_confined hgrown fun c _ ↦ List.not_mem_nil
  refine ⟨⟨v, hv, { hshows with settings := hheld }⟩, rfl, rfl, rfl, fun _ _ ↦ rfl, fun v' hv' ↦ ⟨v', hv', ?_⟩⟩
  exact ⟨fun c p _ hp ↦ hgrown.others c p List.not_mem_nil hp, hgrown.live, fun _ hc ↦ .inl hc⟩

theorem perform_startIterate_of_error {p : Problem Float} {x : List Float} {e : Error Float}
    (h : p.violation (.vector x) = .error e) (value : List Float) (s : Session) :
    perform (startIterate p x value) s = (.error e, s) := by
  unfold startIterate
  rw [h, perform_bind_of_error (perform_lift _ s)]

/-- The parameters of the iterate at the starting point are new ones. -/
theorem exists_perform_startIterate {p : Problem Float} {x : List Float} {violation : Float}
    (h : p.violation (.vector x) = .ok violation) (value : List Float) (s : Session) :
    ∃ i parameters, perform (startIterate p x value) s = (.ok i, { s with parameters }) ∧
      Settings.Confined ⟨s.parameters, {}⟩ ⟨parameters, {}⟩ := by
  have hconfined : Keeps Settings.Confined startSettings :=
    .bind (Settings.confined_put _ _ _) fun _ ↦ Settings.confined_put _ _ _
  obtain ⟨settings, hsettings⟩ :
      ∃ settings, perform startSettings ⟨s.parameters, {}⟩ = (.ok (), settings) := ⟨_, rfl⟩
  have hrun : startSettings.run ⟨s.parameters, {}⟩ = (.ok (), settings) := hsettings
  have hkept := hconfined ⟨s.parameters, {}⟩
  rw [hsettings] at hkept
  refine ⟨{ x, cost := value.head?, violation := some violation, store := settings.store }, settings.parameters, ?_,
    hkept.parameters⟩
  unfold startIterate
  rw [h, perform_bind_of_ok (perform_lift _ s), perform_bind_of_ok (perform_get s), hrun]
  rfl

theorem solitary_tellStart (p : Problem Float) (x value : List Float) : Solitary (tellStart p x value) := by
  intro view
  unfold tellStart
  cases hviolation : p.violation (.vector x) with
  | error e =>
    refine ⟨.error e, view, .of_same fun s r _ ↦ ?_⟩
    rw [perform_bind_of_error (perform_startIterate_of_error hviolation value s)]
  | ok violation =>
    refine ⟨.ok (), view, fun s r h ↦ ?_⟩
    obtain ⟨i, parameters, hstart, hgrown⟩ := exists_perform_startIterate hviolation value s
    have hnotify := (h.grow hgrown s.log).1.perform_notify i
    let message := "Dummy iteration:\n" ++ i.text parameters
    refine ⟨_, ?_, h.grow hgrown (s.log.debug (Logging.rootName ++ ".solver.dummy") message)⟩
    rw [perform_bind_of_ok hstart, perform_bind_of_ok hnotify]
    rfl

theorem solitary_recordStart : Solitary recordStart := by
  rw [funext recordStart_eq]
  exact .bind solitary_ownedProblem fun p ↦ .bind (.lift _) fun value ↦ .bind (solitary_tellStart p _ value) fun _ ↦
    .bind (.lift _) fun constraints ↦ solitary_storeOutcome _

theorem solitary_counting {m : Ref Solver → Run Unit} (hm : Solitary m) : Solitary (counting m) := by
  intro view
  obtain ⟨answer, after, hsettles⟩ := hm { view with calls := view.calls + 1 }
  refine ⟨answer, after, fun s r ⟨v, hv, hshows⟩ ↦ ?_⟩
  have hcounted : Solver.Shows { v with calls := v.calls + 1 } s.problems s.parameters
      { view with calls := view.calls + 1 } := { hshows with calls := congrArg (· + 1) hshows.calls }
  obtain ⟨hr, hst⟩ := Shows.set hv hcounted rfl
  obtain ⟨t, ht, hafter, htu⟩ := hsettles _ r hr
  exact ⟨t, (perform_counting hv m).trans ht, hafter, trans_of _ hst htu⟩

theorem solitary_proceed (procedure : Option Procedure) : Solitary (proceed procedure) := by
  cases procedure with
  | none => exact .throw _
  | some procedure =>
    cases procedure with
    | giveUp => exact solitary_storeOutcome _
    | recordStart => exact solitary_recordStart
    | script actions => exact solitary_counting (.forM fun step _ ↦ solitary_act step)
    | program body => exact solitary_counting (solitary_follow body)

/-- A run of a solver neither sees another solver nor changes it. -/
theorem solitary_solve : Solitary solve := by
  intro view
  obtain ⟨answer, after, hproceed⟩ := solitary_proceed view.kind.procedure view
  refine ⟨answer, after, hproceed.congr fun s r ⟨v, hv, hshows⟩ ↦ ?_⟩
  rw [perform_solve hv, hshows.kind]

/-! ## Asking for the outcome -/

theorem Shows.withLog (h : s.Shows r view) (log : Log) :
    Shows { s with log } r view ∧ Confined r s { s with log } :=
  h.grow (.refl _) log

/-- The minimum of a solver neither depends on another solver nor changes it. -/
theorem solitary_minimum : Solitary minimum := by
  intro view
  cases hfinal : view.outcome.isFinal with
  | true =>
    refine ⟨.ok view.outcome, view, .of_same fun s r ⟨v, hv, hshows⟩ ↦ ?_⟩
    rw [← hshows.outcome] at hfinal ⊢
    exact perform_minimum_of_final hv hfinal
  | false =>
    obtain ⟨answer, after, hsolve⟩ := solitary_solve view
    have hsolving {s : Session} {r : Ref Solver} {v : Solver} (hv : s.solvers.get? r = some v)
        (hshows : v.Shows s.problems s.parameters view) : v.outcome.isFinal = false ∧
          ∃ t, perform (solve r) (s.solving v) = (answer, t) ∧ t.Shows r after ∧ Confined r s t := by
      obtain ⟨hr, hst⟩ := Shows.withLog ⟨v, hv, hshows⟩ (s.solving v).log
      obtain ⟨t, ht, hafter, htu⟩ := hsolve (s.solving v) r hr
      exact ⟨by rw [hshows.outcome, hfinal], t, ht, hafter, trans_of _ hst htu⟩
    cases answer with
    | error e =>
      refine ⟨.error e, after, fun s r ⟨v, hv, hshows⟩ ↦ ?_⟩
      obtain ⟨hnone, t, ht, hafter, hst⟩ := hsolving hv hshows
      exact ⟨t, perform_minimum_of_raised hv hnone ht, hafter, hst⟩
    | ok _ =>
      cases hstored : after.outcome.isFinal with
      | true =>
        refine ⟨.ok after.outcome, after, fun s r ⟨v, hv, hshows⟩ ↦ ?_⟩
        obtain ⟨hnone, t, ht, ⟨w, hw, hafter⟩, hst⟩ := hsolving hv hshows
        obtain ⟨hlogged, htu⟩ := Shows.withLog ⟨w, hw, hafter⟩ (t.solved w).log
        rw [← hafter.outcome] at hstored ⊢
        exact ⟨t.solved w, perform_minimum_of_stored hv hnone ht hw hstored, hlogged, trans_of _ hst htu⟩
      | false =>
        refine ⟨.error (.nothingStored after.kind.name), after, fun s r ⟨v, hv, hshows⟩ ↦ ?_⟩
        obtain ⟨hnone, t, ht, ⟨w, hw, hafter⟩, hst⟩ := hsolving hv hshows
        rw [← hafter.outcome] at hstored
        rw [← hafter.kind]
        exact ⟨t, perform_minimum_of_nothing hv hnone ht hw hstored, ⟨w, hw, hafter⟩, hst⟩

end Session

end Extremum
