import Extremum.Proofs.Solver.Creation
import Extremum.Proofs.Solver.Solitude
import Extremum.Value.Parts

/-!
# Solvers that do not interfere

Two solvers that were created by name from the same values around the same problem share the problem, which is frozen,
and nothing else: each has parameters of its own. So operations on the two may come in any order, and each solver
answers as if the other one were not there (`independent_of_create`). Parameters that there were before, vectors of the
configuration among them, are left alone.
-/

namespace Extremum

open Session (Confined Apart Solitary Settles)

inductive Operation
  | minimum
  | reset
  | assign (given : Given Outcome)
  | put (key : String) (content : Reading Float Content) (description : String)
  | update (key : String) (content : Reading Float Content)
  | get (key : String) (requested : Reading Float ParameterType)
  /-- Fetches a parameter, and assigns to an entry of the vector that it got. -/
  | setEntry (key : String) (requested : Reading Float ParameterType) (index : Int) (entry : Reading Float Float)
  | hasSolution

inductive Reply
  | nothing
  | outcome (o : Outcome)
  | parameter (p : Parameter)
  | content (c : Content)
  | truth (b : Bool)

def Operation.run (r : Ref Solver) : Operation → Run Reply
  | minimum => .outcome <$> Session.minimum r
  | reset => do
    Session.reset r
    return .nothing
  | assign given => do
    Session.storeOutcome r given
    return .nothing
  | put key content description => do
    Session.changeStore (.solver r) (Settings.put key content description)
    return .parameter { content := ← Session.lift content, description }
  | update key content => do
    Session.changeStore (.solver r) (Settings.update key content)
    return .nothing
  | get key requested => .content <$> Session.changeStore (.solver r) (Settings.value key requested)
  | setEntry key requested index entry =>
    .content <$> Session.changeStore (.solver r) (Settings.setEntry key requested index entry)
  | hasSolution => (.truth ·.outcome.isFinal) <$> Session.solver r

def ofSolver {α : Type} (r : Ref Solver) (items : List (Ref Solver × α)) : List α :=
  items.filterMap fun item ↦ if item.1 = r then some item.2 else none

section OfSolver

variable {α : Type} {r r' : Ref Solver}

@[simp] theorem ofSolver_cons_self (r : Ref Solver) (a : α) (rest : List (Ref Solver × α)) :
    ofSolver r ((r, a) :: rest) = a :: ofSolver r rest :=
  List.filterMap_cons_some (if_pos rfl)

theorem ofSolver_cons_of_ne (h : r' ≠ r) (a : α) (rest : List (Ref Solver × α)) :
    ofSolver r ((r', a) :: rest) = ofSolver r rest :=
  List.filterMap_cons_none (if_neg h)

end OfSolver

namespace Session

variable {s t : Session} {r r' : Ref Solver} {view view' : View}

/-- Operations on solvers one after the other: what each of them answers, and the session after them. -/
def serve (s : Session) : List (Ref Solver × Operation) → List (Ref Solver × Except (Error Float) Reply) × Session
  | [] => ([], s)
  | (r, op) :: rest =>
    let (answer, t) := perform (op.run r) s
    let (answers, last) := t.serve rest
    ((r, answer) :: answers, last)

/-- What one solver answers when there are no operations on others. -/
def alone (s : Session) (r : Ref Solver) (ops : List Operation) : List (Except (Error Float) Reply) :=
  ofSolver r (s.serve (ops.map (r, ·))).1

/-! ## Operations -/

theorem solitary_map {β γ : Type} {m : Ref Solver → Run β} (hm : Solitary m) (f : β → γ) :
    Solitary fun r ↦ f <$> m r := by
  simp only [map_eq_pure_bind]
  exact .bind hm fun b ↦ .pure (f b)

theorem solitary_run (op : Operation) : Solitary (op.run ·) := by
  unfold Operation.run
  cases op with
  | minimum => exact solitary_map solitary_minimum _
  | reset => exact .bind solitary_reset fun _ ↦ .pure _
  | assign given => exact .bind (solitary_storeOutcome given) fun _ ↦ .pure _
  | put key content description =>
    have hput := solitary_changeStore (Settings.blind_put key content description)
      (Settings.confined_put key content description)
    exact .bind hput fun _ ↦ .bind (.lift content) fun _ ↦ .pure _
  | update key content =>
    have hupdate := solitary_changeStore (Settings.blind_update key content) (Settings.confined_update key content)
    exact .bind hupdate fun _ ↦ .pure _
  | get key requested =>
    have hvalue := solitary_changeStore (Settings.blind_value key requested) (Settings.confined_value key requested)
    exact solitary_map hvalue _
  | setEntry key requested index entry =>
    have hentry := solitary_changeStore (Settings.blind_setEntry key requested index entry)
      (Settings.confined_setEntry key requested index entry)
    exact solitary_map hentry _
  | hasSolution =>
    intro view
    refine ⟨.ok (.truth view.outcome.isFinal), view, .of_same fun s r ⟨v, hv, hshows⟩ ↦ ?_⟩
    dsimp only
    rw [map_eq_pure_bind, perform_bind_of_ok (perform_solver hv), hshows.outcome, perform_pure]

/-! ## Runs -/

theorem serve_cons (s : Session) (r : Ref Solver) (op : Operation) (rest : List (Ref Solver × Operation)) :
    s.serve ((r, op) :: rest) = ((r, (perform (op.run r) s).1) :: ((perform (op.run r) s).2.serve rest).1,
      ((perform (op.run r) s).2.serve rest).2) := rfl

theorem alone_cons (s : Session) (r : Ref Solver) (op : Operation) (rest : List Operation) :
    s.alone r (op :: rest) = (perform (op.run r) s).1 :: (perform (op.run r) s).2.alone r rest := by
  unfold alone
  rw [List.map_cons, serve_cons, ofSolver_cons_self]

/-- Solvers that show something, no two of which share a parameter. -/
structure Separate (s : Session) (rs : List (Ref Solver)) : Prop where
  shows : ∀ r ∈ rs, ∃ view, s.Shows r view
  apart : ∀ r ∈ rs, ∀ r' ∈ rs, r ≠ r' → s.Apart r r'

variable {rs : List (Ref Solver)} {ops : List (Ref Solver × Operation)}

/-- An operation on one of several solvers that share nothing leaves the others as they are. -/
theorem Separate.run (h : s.Separate rs) (hr : r ∈ rs) (op : Operation) :
    Confined r s (perform (op.run r) s).2 ∧ Separate (perform (op.run r) s).2 rs ∧
      ∀ r' ∈ rs, r' ≠ r → ∀ view, s.Shows r' view → (perform (op.run r) s).2.Shows r' view := by
  obtain ⟨view, hview⟩ := h.shows r hr
  obtain ⟨answer, after, hsettles⟩ := solitary_run op view
  obtain ⟨t, ht, hafter, hst⟩ := hsettles s r hview
  rw [ht]
  have hothers {r' : Ref Solver} (hr' : r' ∈ rs) (hne : r' ≠ r) {view' : View} (hview' : s.Shows r' view') :
      t.Shows r' view' ∧ t.Apart r' r :=
    hview'.of_confined hst hne hview (h.apart r' hr' r hr hne)
  refine ⟨hst, ⟨fun r' hr' ↦ ?_, fun r₁ h₁ r₂ h₂ hne ↦ ?_⟩, fun r' hr' hne view' hview' ↦ (hothers hr' hne hview').1⟩
  · by_cases hsame : r' = r
    · rw [hsame]
      exact ⟨after, hafter⟩
    · obtain ⟨view', hview'⟩ := h.shows r' hr'
      exact ⟨view', (hothers hr' hsame hview').1⟩
  · by_cases hsame₁ : r₁ = r
    · subst hsame₁
      obtain ⟨view₂, hview₂⟩ := h.shows r₂ h₂
      exact (hothers h₂ hne.symm hview₂).2.symm
    · by_cases hsame₂ : r₂ = r
      · subst hsame₂
        obtain ⟨view₁, hview₁⟩ := h.shows r₁ h₁
        exact (hothers h₁ hne hview₁).2
      · intro v w hv hw
        rw [hst.solvers r₁ hsame₁] at hv
        rw [hst.solvers r₂ hsame₂] at hw
        exact h.apart r₁ h₁ r₂ h₂ hne v w hv hw

/-- What operations on single solvers keep is kept by all operations on solvers that share nothing. -/
theorem Separate.serve (p : Session → Prop) (hp : ∀ s t, ∀ r ∈ rs, Confined r s t → p s → p t) (h : s.Separate rs)
    (hops : ∀ op ∈ ops, op.1 ∈ rs) (hs : p s) : p (s.serve ops).2 := by
  induction ops generalizing s with
  | nil => exact hs
  | cons op rest ih =>
    obtain ⟨hfirst, hrest⟩ := List.forall_mem_cons.1 hops
    obtain ⟨hst, hseparate, -⟩ := h.run hfirst op.2
    exact ih hseparate hrest (hp _ _ op.1 hfirst hst hs)

/-- A parameter belongs to none of the solvers. -/
structure Foreign (s : Session) (rs : List (Ref Solver)) (c : Ref Parameter) (q : Parameter) : Prop where
  held : s.parameters.get? c = some q
  unowned : ∀ r ∈ rs, ∃ v, s.solvers.get? r = some v ∧ c ∉ Settings.refs v.store

/-- What is done to one of the solvers leaves alone what belongs to none of them, and it belongs to none afterwards. -/
theorem Foreign.of_confined {c : Ref Parameter} {q : Parameter} (h : s.Foreign rs c q) (hr : r ∈ rs)
    (hst : Confined r s t) : t.Foreign rs c q := by
  obtain ⟨v, hv, hmem⟩ := h.unowned r hr
  obtain ⟨w, hw, hsettings⟩ := hst.settings v hv
  refine ⟨hsettings.others c q hmem h.held, fun r' hr' ↦ ?_⟩
  by_cases hsame : r' = r
  · subst hsame
    refine ⟨w, hw, fun hnew ↦ ?_⟩
    cases hsettings.refs c hnew with
    | inl hold => exact hmem hold
    | inr hnone => cases hnone.symm.trans h.held
  · rw [hst.solvers r' hsame]
    exact h.unowned r' hr'

/-- Among operations on solvers that share nothing, one of them answers as a solver that shows the same answers on
its own. -/
theorem Separate.ofSolver_serve (h : s.Separate rs) (hops : ∀ op ∈ ops, op.1 ∈ rs) (hr : r ∈ rs)
    (hview : s.Shows r view) (hview' : t.Shows r' view) :
    ofSolver r (s.serve ops).1 = t.alone r' (ofSolver r ops) := by
  induction ops generalizing s t view with
  | nil => rfl
  | cons item rest ih =>
    obtain ⟨r₀, op⟩ := item
    obtain ⟨hfirst, hrest⟩ := List.forall_mem_cons.1 hops
    obtain ⟨-, hseparate, hothers⟩ := h.run hfirst op
    by_cases hsame : r₀ = r
    · subst hsame
      obtain ⟨answer, after, hsettles⟩ := solitary_run op view
      obtain ⟨u, hu, hafter, -⟩ := hsettles s r₀ hview
      obtain ⟨u', hu', hafter', -⟩ := hsettles t r' hview'
      rw [hu] at hseparate
      rw [serve_cons, ofSolver_cons_self, ofSolver_cons_self, alone_cons, hu, hu', ih hseparate hrest hafter hafter']
    · have hkept := hothers r hr (Ne.symm hsame) view hview
      rw [serve_cons, ofSolver_cons_of_ne hsame, ofSolver_cons_of_ne hsame, ih hseparate hrest hkept hview']

theorem ofSolver_map (r : Ref Solver) (own : List Operation) : ofSolver r (own.map (r, ·)) = own := by
  induction own with
  | nil => rfl
  | cons op rest ih => rw [List.map_cons, ofSolver_cons_self, ih]

/-- Two solvers are separate if they are apart unless they are the same. -/
theorem separate_pair (h : s.Shows r view) (h' : s.Shows r' view') (hapart : r ≠ r' → s.Apart r r') :
    s.Separate [r, r'] := by
  have hmem {r₁ : Ref Solver} (h₁ : r₁ ∈ [r, r']) : r₁ = r ∨ r₁ = r' := List.mem_pair.1 h₁
  refine ⟨fun r₁ h₁ ↦ ?_, fun r₁ h₁ r₂ h₂ hne ↦ ?_⟩
  · cases hmem h₁ with
    | inl hr => exact ⟨view, hr ▸ h⟩
    | inr hr => exact ⟨view', hr ▸ h'⟩
  · rcases hmem h₁ with rfl | rfl
    · obtain rfl := (hmem h₂).resolve_left hne.symm
      exact hapart hne
    · obtain rfl := (hmem h₂).resolve_right hne.symm
      exact (hapart hne.symm).symm

/-- Solvers that show the same answer the same, wherever they are. -/
theorem alone_eq_of_shows (hview : s.Shows r view) (hview' : t.Shows r' view) (own : List Operation) :
    s.alone r own = t.alone r' own := by
  have hseparate : s.Separate [r, r] := separate_pair hview hview fun hne ↦ absurd rfl hne
  have hops : ∀ op ∈ own.map (r, ·), op.1 ∈ [r, r] := by
    intro op hop
    obtain ⟨_, -, rfl⟩ := List.mem_map.1 hop
    exact List.mem_cons_self
  have hserve := hseparate.ofSolver_serve hops List.mem_cons_self hview hview'
  rw [ofSolver_map] at hserve
  exact hserve

/-! ## Creation -/

section Creation

variable {name : String} {parameters : List (String × Reading Float Content)} {p : Ref (Problem Float)}
  {v : Ref Solver}

/-- What makes a creation by name around a problem succeed, and what the new solver shows. -/
structure Creates (s : Session) (name : String) (parameters : List (String × Reading Float Content))
    (p : Ref (Problem Float)) (view : View) : Prop where
  registers : s.Registers name view.kind
  concrete : view.kind.Concrete
  problem : ∃ q needed, s.problems.get? p = some q ∧ view.kind.adapt q = .ok needed ∧
    view.problem = (needed.getD q).freeze
  parameters : ∃ held values, view.kind.parameters = .ok held ∧ readParameters parameters = .ok values ∧
    Settings.misfit? held values = none ∧ view.held = Settings.configured held values
  outcome : view.outcome = .unsolved
  calls : view.calls = 0

/-- A solver has been added. The solvers and the parameters that there were are what they were, and so are the
problems that were frozen. The new solver has new parameters only. -/
structure Grows (s t : Session) (v : Ref Solver) : Prop where
  solvers : ∀ r w, s.solvers.get? r = some w → r ≠ v ∧ t.solvers.get? r = some w
  parameters : ∀ c q, s.parameters.get? c = some q → t.parameters.get? c = some q
  problems : ∀ p q, s.problems.get? p = some q → t.problems.get? p = some q ∨ t.problems.get? p = some q.freeze
  registry : t.registry = s.registry
  classes : t.classes = s.classes
  fresh : ∀ w, t.solvers.get? v = some w → ∀ c ∈ Settings.refs w.store, s.parameters.get? c = none

theorem Creates.frozen (h : s.Creates name parameters p view) : view.problem.frozen = true := by
  obtain ⟨q, needed, -, -, hproblem⟩ := h.problem
  rw [hproblem, Problem.frozen_freeze]

/-- What a creation shows is determined by its arguments. -/
theorem Creates.unique (h : s.Creates name parameters p view) (h' : s.Creates name parameters p view') :
    view = view' := by
  obtain ⟨kind, problem, outcome, calls, held⟩ := view
  obtain ⟨kind', problem', outcome', calls', held'⟩ := view'
  obtain ⟨ref, hname, hc⟩ := h.registers
  obtain ⟨ref', hname', hc'⟩ := h'.registers
  obtain rfl : ref = ref' := Option.some.inj (hname.symm.trans hname')
  obtain rfl : kind = kind' := Option.some.inj (hc.symm.trans hc')
  obtain ⟨q, needed, hq, hneeded, rfl⟩ := h.problem
  obtain ⟨q', needed', hq', hneeded', rfl⟩ := h'.problem
  obtain rfl : q = q' := Option.some.inj (hq.symm.trans hq')
  obtain rfl : needed = needed' := Except.ok.inj (hneeded.symm.trans hneeded')
  obtain ⟨declared, values, hdeclared, hvalues, -, rfl⟩ := h.parameters
  obtain ⟨declared', values', hdeclared', hvalues', -, rfl⟩ := h'.parameters
  obtain rfl : declared = declared' := Except.ok.inj (hdeclared.symm.trans hdeclared')
  obtain rfl : values = values' := Except.ok.inj (hvalues.symm.trans hvalues')
  obtain rfl : outcome = outcome' := h.outcome.trans h'.outcome.symm
  obtain rfl : calls = calls' := h.calls.trans h'.calls.symm
  rfl

/-- Such a creation succeeds. -/
theorem Creates.exists_create (h : s.Creates name parameters p view) :
    ∃ v t, perform (create name parameters (.ok p)) s = (.ok v, t) := by
  obtain ⟨q, needed, hq, hneeded, -⟩ := h.problem
  obtain ⟨held, values, hheld, hread, hmisfit, -⟩ := h.parameters
  have hcreate := perform_create_configuring h.registers h.concrete hread hq hneeded hheld
  rw [hmisfit] at hcreate
  exact hcreate

/-- What the problem of a new solver is like, and what has become of the others. -/
theorem Takes.owns {c : SolverClass} {problems others : Arena (Problem Float)} {q : Problem Float}
    {own : Ref (Problem Float)} (hq : problems.get? p = some q) (h : Takes c problems p q own others) :
    ∃ needed, c.adapt q = .ok needed ∧ others.get? own = some (needed.getD q).freeze := by
  cases h with
  | given hadapt => exact ⟨none, hadapt, Arena.get?_set_self _ _ _ hq⟩
  | @copy w hadapt =>
    refine ⟨some w, hadapt, ?_⟩
    rw [← Arena.add_set_fst problems p q.freeze w]
    exact Arena.get?_add_self (problems.set p q.freeze) w.freeze

/-- Every creation that succeeds does so for that reason: the new solver shows what it was to show, and the session
has grown by that solver. -/
theorem creates_of_create (h : perform (create name parameters (.ok p)) s = (.ok v, t)) :
    ∃ view, s.Creates name parameters p view ∧ t.Shows v view ∧ s.Grows t v := by
  obtain ⟨c, values, q, own, u, declared, settings, hc, hread, hbuilt, hconfigure, ht⟩ := create_of_ok h
  have hcreate := h
  rw [perform_create hc hread hbuilt.found] at hcreate
  obtain ⟨_, _, hbuild, -⟩ := bind_of_ok hcreate
  obtain ⟨hprocedure, howns⟩ := owner_of_build hbuild
  obtain ⟨needed, hneeded, hown⟩ := hbuilt.takes.owns hbuilt.found
  obtain ⟨held, hheld, hholds⟩ := parameters_of_putAll hbuilt.declared
  obtain ⟨hfits, hconfigured⟩ := hholds.of_configure (nodup_keys_of_readParameters hread) hconfigure
  have hconfined : Settings.Confined ⟨s.parameters, {}⟩ settings := by
    have hdeclare := Settings.confined_putAll c.defaults ⟨s.parameters, {}⟩
    have hgive := Settings.confined_configure values declared
    rw [hbuilt.declared] at hdeclare
    rw [hconfigure] at hgive
    exact hdeclare.trans hgive
  have hproblems : t.problems = u.problems := by rw [ht]
  have hparameters : t.parameters = settings.parameters := by rw [ht]
  have hsolver : t.solvers.get? v = some { kind := c, problem := some own, store := settings.store } := by
    rw [ht]
    exact Arena.get?_set_self _ _ _ hbuilt.solver
  refine ⟨⟨c, (needed.getD q).freeze, .unsolved, 0, Settings.configured held values⟩, ?_, ?_, ?_⟩
  · exact ⟨hc, ⟨hprocedure, howns⟩, ⟨q, needed, hbuilt.found, hneeded, rfl⟩,
      ⟨held, values, hheld, hread, hfits, rfl⟩, rfl, rfl⟩
  · refine ⟨_, hsolver, rfl, ?_, rfl, rfl, rfl, ?_⟩
    · rw [hproblems]
      exact hown
    · rw [hparameters]
      exact hconfigured
  · constructor
    case solvers =>
      intro r w hw
      have hne : r ≠ v := by
        rw [hbuilt.ref]
        exact (Arena.add_fst_ne_of_get? hw _).symm
      refine ⟨hne, ?_⟩
      rw [ht, hbuilt.state]
      exact (Arena.get?_set_of_ne _ _ hne.symm).trans (Arena.get?_add_of_get? _ _ _ hw)
    case parameters =>
      intro c q hq
      rw [hparameters]
      exact hconfined.others c q List.not_mem_nil hq
    case problems =>
      intro p' q' hq'
      rw [hproblems]
      by_cases hp : p = p'
      · subst hp
        obtain rfl : q = q' := Option.some.inj (hbuilt.found.symm.trans hq')
        exact .inr hbuilt.given
      · exact .inl (hbuilt.takes.get?_of_ne hp hq')
    case registry => rw [ht, hbuilt.state]
    case classes => rw [ht, hbuilt.state]
    case fresh =>
      intro w hw c hc
      rw [hsolver] at hw
      cases hw
      exact (hconfined.refs c hc).resolve_left List.not_mem_nil

/-- What makes a creation succeed decides what the new solver shows. -/
theorem Creates.exists_shows (h : s.Creates name parameters p view) :
    ∃ v t, perform (create name parameters (.ok p)) s = (.ok v, t) ∧ t.Shows v view ∧ s.Grows t v := by
  obtain ⟨v, t, hcreate⟩ := h.exists_create
  obtain ⟨view', hview', hshows, hgrows⟩ := creates_of_create hcreate
  obtain rfl : view = view' := h.unique hview'
  exact ⟨v, t, hcreate, hshows, hgrows⟩

/-- A solver with a frozen problem shows the same when the session has grown by another solver, with which it shares
no parameter. -/
theorem Shows.of_grows (h : s.Shows r view) (hfrozen : view.problem.frozen = true) (hst : s.Grows t v) :
    t.Shows r view ∧ r ≠ v ∧ t.Apart r v := by
  obtain ⟨w, hw, hshows⟩ := h
  obtain ⟨hne, hsame⟩ := hst.solvers r w hw
  have hlive : ∀ c ∈ Settings.refs w.store, ∃ q, s.parameters.get? c = some q := by
    intro c hc
    obtain ⟨entry, hentry, rfl⟩ := List.mem_map.1 hc
    exact Settings.Refer.good hshows.settings.entries entry hentry
  refine ⟨⟨w, hsame, hshows.kind, ?_, hshows.outcome, hshows.calls, hshows.callback, ?_⟩, hne, ?_⟩
  · obtain ⟨own, hown, hproblem⟩ := Option.bind_eq_some_iff.1 hshows.problem
    rw [hown, Option.bind_some]
    cases hst.problems own _ hproblem with
    | inl hkept => exact hkept
    | inr hfroze => rw [hfroze, Problem.freeze_of_frozen hfrozen]
  · refine ⟨Settings.Refer.mono (fun entry hentry ↦ ?_) hshows.settings.entries, hshows.settings.distinct⟩
    obtain ⟨q, hq⟩ := hlive entry.2 (List.mem_map_of_mem hentry)
    exact (hst.parameters entry.2 q hq).trans hq.symm
  · intro w' x hw' hx c hc hmem
    obtain rfl : w = w' := Option.some.inj (hsame.symm.trans hw')
    obtain ⟨q, hq⟩ := hlive c hc
    cases (hst.fresh x hx c hmem).symm.trans hq

/-- What there was before two solvers were created belongs to neither of them. -/
theorem foreign_of_grows {u : Session} {c : Ref Parameter} {q : Parameter} (hst : s.Grows t r) (htu : t.Grows u r')
    (hview : t.Shows r view) (hview' : u.Shows r' view') (hc : s.parameters.get? c = some q) :
    u.Foreign [r, r'] c q := by
  have hkept := hst.parameters c q hc
  obtain ⟨v, hv, -⟩ := hview
  obtain ⟨w, hw, -⟩ := hview'
  have hfirst : c ∉ Settings.refs v.store := by
    intro hmem
    cases (hst.fresh v hv c hmem).symm.trans hc
  have hsecond : c ∉ Settings.refs w.store := by
    intro hmem
    cases (htu.fresh w hw c hmem).symm.trans hkept
  refine ⟨htu.parameters c q hkept, fun r₀ hr₀ ↦ ?_⟩
  cases List.mem_pair.1 hr₀ with
  | inl hr => exact ⟨v, by rw [hr, (htu.solvers r v hv).2], hfirst⟩
  | inr hr => exact ⟨w, by rw [hr, hw], hsecond⟩

theorem Registers.congr {c : SolverClass} (h : s.Registers name c) (hregistry : t.registry = s.registry)
    (hclasses : t.classes = s.classes) : t.Registers name c := by
  obtain ⟨ref, hname, hc⟩ := h
  exact ⟨ref, by rw [hregistry, hname], by rw [hclasses, hc]⟩

/-- What is done to single solvers does not matter to a creation. -/
theorem Creates.of_confined (h : s.Creates name parameters p view) (hst : Confined r s t) :
    t.Creates name parameters p view where
  registers := h.registers.congr hst.registry hst.classes
  concrete := h.concrete
  problem := by
    rw [hst.problems]
    exact h.problem
  parameters := h.parameters
  outcome := h.outcome
  calls := h.calls

/-- A class of solvers takes over a frozen problem as it would take over the open one. -/
theorem adapt_freeze (c : SolverClass) (q : Problem Float) : c.adapt q.freeze = c.adapt q := rfl

/-- A creation that has succeeded can be repeated: another one will succeed, and its solver will show the same. -/
theorem Creates.of_grows (h : s.Creates name parameters p view) (hst : s.Grows t v) :
    t.Creates name parameters p view where
  registers := h.registers.congr hst.registry hst.classes
  concrete := h.concrete
  problem := by
    obtain ⟨q, needed, hq, hneeded, hproblem⟩ := h.problem
    cases hst.problems p q hq with
    | inl hkept => exact ⟨q, needed, hkept, hneeded, hproblem⟩
    | inr hfroze =>
      refine ⟨q.freeze, needed, hfroze, (adapt_freeze _ q).trans hneeded, ?_⟩
      rw [hproblem]
      cases needed with
      | none => rfl
      | some w => rfl
  parameters := h.parameters
  outcome := h.outcome
  calls := h.calls

end Creation

/-! ## Configurations -/

/-- A value of a configuration: one that the caller has made, or the vector that belongs to a parameter, which
everyone who has fetched it shares. -/
inductive ConfigValue
  | made (value : Value)
  | shared (c : Ref Parameter)

section Configurations

variable {config : Table ConfigValue} {values : List (String × Content)}

/-- What a parameter is given that is made of a value. -/
def ConfigValue.content (s : Session) : ConfigValue → Reading Float Content
  | made value => value.contentPart s
  | shared c => match s.parameters.get? c with
    | some q => q.get (.ok .vector)
    | none => .error (.unfit .missing)

/-- The values of a configuration by key, as parameters. -/
def readConfig (s : Session) (config : Table ConfigValue) : List (String × Reading Float Content) :=
  (config.map (·.content s)).entries

/-- A value that is of a type that parameters have is the same in all sessions. -/
theorem contentPart_of_ok {value : Value} {content : Content} (h : value.contentPart s = .ok content) (t : Session) :
    value.contentPart t = .ok content := by
  unfold Value.contentPart Value.content at *
  split at h <;> first | exact h | cases h

theorem ConfigValue.content_of_ok {value : ConfigValue} {content : Content} (h : value.content s = .ok content)
    (hkept : ∀ c q, s.parameters.get? c = some q → t.parameters.get? c = some q) :
    value.content t = .ok content := by
  cases value with
  | made value => exact contentPart_of_ok h t
  | shared c =>
    unfold ConfigValue.content at h ⊢
    dsimp only at h ⊢
    cases hc : s.parameters.get? c with
    | none =>
      rw [hc] at h
      cases h
    | some q =>
      rw [hc] at h
      rw [hkept c q hc]
      exact h

/-- A configuration that could be read once reads the same as long as the parameters that there were are left
alone. -/
theorem readConfig_eq (h : readParameters (s.readConfig config) = .ok values)
    (hkept : ∀ c q, s.parameters.get? c = some q → t.parameters.get? c = some q) :
    t.readConfig config = s.readConfig config := by
  unfold readParameters readConfig at h
  rw [Table.ofPairs_entries] at h
  refine List.map_congr_left fun entry hentry ↦ ?_
  obtain ⟨pair, hpair⟩ := Reading.exists_of_mapM h (List.mem_map_of_mem hentry)
  obtain ⟨content, hcontent, -⟩ := Reading.map_eq_ok_iff.1 hpair
  have hsame := ConfigValue.content_of_ok hcontent hkept
  dsimp only at hcontent ⊢
  rw [hsame, hcontent]

end Configurations

/-! ## Independence -/

section Independence

variable {name : String} {config : Table ConfigValue} {p : Ref (Problem Float)} {s₁ s₂ : Session} {r₁ r₂ : Ref Solver}

/-- What is true of two solvers of one configuration after any operations on them. -/
structure Independent (name : String) (config : Table ConfigValue) (p : Ref (Problem Float)) (s s₁ : Session)
    (r₁ : Ref Solver) (s₂ : Session) (r₂ : Ref Solver) (ops : List (Ref Solver × Operation)) : Prop where
  /-- Each of the solvers answers what it would if there were no operations on the other one. -/
  alone : ∀ r, r = r₁ ∨ r = r₂ → ofSolver r (s₂.serve ops).1 = s₂.alone r (ofSolver r ops)
  /-- It even answers what it would if the other one had never been made. -/
  only : ∀ r, r = r₁ ∨ r = r₂ → ofSolver r (s₂.serve ops).1 = s₁.alone r₁ (ofSolver r ops)
  /-- The values of the configuration are what they were, and so are all parameters that there were. -/
  values : (s₂.serve ops).2.readConfig config = s.readConfig config
  parameters : ∀ c q, s.parameters.get? c = some q → (s₂.serve ops).2.parameters.get? c = some q
  /-- So a solver that is created afterwards is as new as the first one was. -/
  again : ∃ r t, perform (create name ((s₂.serve ops).2.readConfig config) (.ok p)) (s₂.serve ops).2 = (.ok r, t) ∧
    ∀ own, t.alone r own = s₁.alone r₁ own

/-- A second solver can be created as the first one was, and the two do not interfere, whatever operations there are
on them, and in whatever order these come. -/
theorem independent_of_create (h : perform (create name (s.readConfig config) (.ok p)) s = (.ok r₁, s₁)) :
    ∃ r₂ s₂, perform (create name (s₁.readConfig config) (.ok p)) s₁ = (.ok r₂, s₂) ∧ r₁ ≠ r₂ ∧
      ∀ ops : List (Ref Solver × Operation), (∀ op ∈ ops, op.1 = r₁ ∨ op.1 = r₂) →
        Independent name config p s s₁ r₁ s₂ r₂ ops := by
  obtain ⟨view, hcreates, hview, hgrows⟩ := creates_of_create h
  obtain ⟨_, values, -, hvalues, -⟩ := hcreates.parameters
  -- Wherever the first creation could be repeated, the configuration makes a solver that shows the same.
  have hrepeat {t : Session} (ht : t.Creates name (s.readConfig config) p view)
      (hkept : ∀ c q, s.parameters.get? c = some q → t.parameters.get? c = some q) :
      ∃ r u, perform (create name (t.readConfig config) (.ok p)) t = (.ok r, u) ∧ u.Shows r view ∧ t.Grows u r := by
    rw [readConfig_eq hvalues hkept]
    exact ht.exists_shows
  have hcreates₁ := hcreates.of_grows hgrows
  obtain ⟨r₂, s₂, hcreate₂, hview₂, hgrows₂⟩ := hrepeat hcreates₁ hgrows.parameters
  obtain ⟨hview₁, hne, hapart⟩ := hview.of_grows hcreates.frozen hgrows₂
  refine ⟨r₂, s₂, hcreate₂, hne, fun ops hops ↦ ?_⟩
  have hseparate : s₂.Separate [r₁, r₂] := separate_pair hview₁ hview₂ fun _ ↦ hapart
  have hmem {r : Ref Solver} (hr : r = r₁ ∨ r = r₂) : r ∈ [r₁, r₂] := List.mem_pair.2 hr
  have hops' : ∀ op ∈ ops, op.1 ∈ [r₁, r₂] := fun op hop ↦ hmem (hops op hop)
  have hshows (r : Ref Solver) (hr : r = r₁ ∨ r = r₂) : s₂.Shows r view := by
    cases hr with
    | inl hr => rwa [hr]
    | inr hr => rwa [hr]
  have hkept (c : Ref Parameter) (q : Parameter) (hc : s.parameters.get? c = some q) :
      (s₂.serve ops).2.parameters.get? c = some q := by
    have hforeign := foreign_of_grows hgrows hgrows₂ hview hview₂ hc
    exact (hseparate.serve (Foreign · [r₁, r₂] c q) (fun _ _ _ hr hst hs ↦ hs.of_confined hr hst) hops' hforeign).held
  refine ⟨fun r hr ↦ ?_, fun r hr ↦ ?_, readConfig_eq hvalues hkept, hkept, ?_⟩
  · exact hseparate.ofSolver_serve hops' (hmem hr) (hshows r hr) (hshows r hr)
  · exact hseparate.ofSolver_serve hops' (hmem hr) (hshows r hr) hview
  · have hlast : (s₂.serve ops).2.Creates name (s.readConfig config) p view :=
      hseparate.serve (Creates · name (s.readConfig config) p view) (fun _ _ _ _ hst hs ↦ hs.of_confined hst) hops'
        (hcreates₁.of_grows hgrows₂)
    obtain ⟨r, u, hcreate, hview', -⟩ := hrepeat hlast hkept
    exact ⟨r, u, hcreate, alone_eq_of_shows hview' hview⟩

/-- A program that reports the value of a parameter of its solver, counts it up, and writes to another one. -/
def ascend : Program :=
  .look fun seen ↦ match seen.parameters.lookup "steps" with
    | some ⟨.int n, _⟩ => .attempt (.update "steps" (.ok (.int (n + 1)))) fun _ ↦
        .attempt (.setEntry "weights" 0 (.ok 0)) fun _ ↦
        .attempt (.act (.store (.ok (.failed (toString n) none)))) fun _ ↦ .done
    | _ => .fail (.raised "ValueError" "no steps")

def ascending : SolverClass :=
  { name := "Ascending", defaults := [("steps", .ok (.int 5), "how many")], procedure := some (.program ascend) }

/-- A session with a problem, where the class is registered, and where a solver of the class has a vector. -/
def ascendingSession : Session :=
  ({} : Session).after [.declare { objective := .ok (.constant "level" 1 [2]) }, .defineClass ascending,
    .register "ascending" (.ok ⟨4⟩) false, .build ascending (some (.ok ⟨0⟩)),
    .changeStore (.solver ⟨0⟩) (Settings.put "weights" (.ok (.vector [1, 2])) "")]

/-- Two solvers of that class, which were given that vector, are used in turn. -/
theorem independent_of_create_ascending :
    let config := Table.ofPairs [("steps", ConfigValue.made (.int 7)), ("weights", .shared ⟨1⟩)]
    ∃ r₁ s₁ r₂ s₂, perform (create "ascending" (ascendingSession.readConfig config) (.ok ⟨0⟩)) ascendingSession =
        (.ok r₁, s₁) ∧ r₁ ≠ r₂ ∧
      Independent "ascending" config ⟨0⟩ ascendingSession s₁ r₁ s₂ r₂
        [(r₁, .minimum), (r₂, .put "steps" (.ok (.int 9)) ""), (r₁, .reset), (r₂, .minimum), (r₁, .minimum)] := by
  intro config
  obtain ⟨r₁, s₁, h⟩ : ∃ r₁ s₁, perform (create "ascending" (ascendingSession.readConfig config) (.ok ⟨0⟩))
      ascendingSession = (.ok r₁, s₁) := ⟨_, _, by rfl⟩
  obtain ⟨r₂, s₂, -, hne, hindependent⟩ := independent_of_create h
  refine ⟨r₁, s₁, r₂, s₂, h, hne, hindependent _ ?_⟩
  simp

end Independence

end Session

end Extremum
