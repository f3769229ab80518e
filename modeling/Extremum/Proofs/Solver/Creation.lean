import Extremum.Proofs.Session.Call
import Extremum.Proofs.Settings

/-!
# Creation by name, all or nothing

A creation that is refused leaves every problem as it was, although a solver may have been built, and the
problem been frozen, before the value that does not fit is met. A creation that succeeds leaves the problem
frozen and a solver whose store holds what its class declares, with the caller's values in place of the
declared ones, and after that the caller's other parameters.
-/

namespace Extremum

/-- The parameters of a new solver of a class by key, unless the class declares one without a proper value. -/
def SolverClass.parameters (c : SolverClass) : Except (Error Float) (List (String × Parameter)) :=
  (fun pairs ↦ (Table.ofPairs pairs).entries) <$> Settings.declared c.defaults

/-- Solvers of the class can be built around a problem. -/
structure SolverClass.Concrete (c : SolverClass) : Prop where
  procedure : c.procedure.isSome = true
  owner : c.ownsProblem = true

namespace Session

variable {s t : Session} {name : String} {parameters : List (String × Reading Float Content)}
  {c : SolverClass} {r own : Ref (Problem Float)} {p : Problem Float} {values : List (String × Content)}
  {held : List (String × Parameter)}

/-- Why a creation around a problem is refused, and with which error. The first reason that applies counts. -/
inductive Refusal (s : Session) (name : String) (parameters : List (String × Reading Float Content))
    (p : Problem Float) : Error Float → Prop
  /-- Nothing is registered under the name. -/
  | unknown (h : s.registry.get? (Text.lower name) = none) :
      Refusal s name parameters p (.unknownSolver name s.available)
  /-- A value is of no type that parameters have. -/
  | unsupported {c : SolverClass} {e : Error Float} (hc : s.Registers name c)
      (h : readParameters parameters = .error e) : Refusal s name parameters p e
  /-- The problem cannot be widened to what the class needs. -/
  | narrowed {c : SolverClass} {values : List (String × Content)} {e : Error Float}
      (hc : s.Registers name c) (hconcrete : c.Concrete)
      (hread : readParameters parameters = .ok values) (h : c.adapt p = .error e) :
      Refusal s name parameters p e
  /-- A value is of another type than the parameter that the class declares under its key. -/
  | conflicting {c : SolverClass} {values : List (String × Content)} {needed : Option (Problem Float)}
      {held : List (String × Parameter)} {e : Error Float} (hc : s.Registers name c)
      (hconcrete : c.Concrete) (hread : readParameters parameters = .ok values)
      (hneeded : c.adapt p = .ok needed) (hheld : c.parameters = .ok held)
      (h : Settings.misfit? held values = some e) : Refusal s name parameters p e

/-- Every problem is what it was, and so is what is registered. -/
structure Untouched (s t : Session) : Prop where
  problems : ∀ r p, s.problems.get? r = some p → t.problems.get? r = some p
  registry : t.registry = s.registry
  classes : t.classes = s.classes

theorem Untouched.refl (s : Session) : Untouched s s :=
  ⟨fun _ _ h ↦ h, rfl, rfl⟩

/-! ## Parameters -/

/-- Parameters that were read have distinct keys, since those under one key count as one. -/
theorem nodup_keys_of_readParameters (h : readParameters parameters = .ok values) :
    (values.map Prod.fst).Nodup := by
  have hkeys : values.map Prod.fst = (Table.ofPairs parameters).entries.map Prod.fst := by
    have hread := Reading.mapM_eq_ok_iff.1 h
    clear h
    generalize (Table.ofPairs parameters).entries = entries at hread
    induction hread with
    | nil => rfl
    | cons hfirst _ ih =>
      obtain ⟨content, -, rfl⟩ := Reading.map_eq_ok_iff.1 hfirst
      rw [List.map_cons, List.map_cons, ih]
  rw [hkeys]
  exact (Table.ofPairs parameters).nodup_keys

/-- Defaults that can be declared are held by every store they are put into. -/
theorem putAll_of_parameters (h : c.parameters = .ok held) (known : Arena Parameter) :
    ∃ settings, perform (Settings.putAll c.defaults) ⟨known, {}⟩ = (.ok (), settings) ∧
      settings.Holds held := by
  obtain ⟨pairs, hpairs, rfl⟩ := Reading.map_eq_ok_iff.1 h
  have hput := (Settings.Holds.empty known).putAll hpairs
  rw [← Table.entries_ofPairs] at hput
  exact hput

theorem parameters_of_putAll {known : Arena Parameter} {settings : Settings}
    (h : perform (Settings.putAll c.defaults) ⟨known, {}⟩ = (.ok (), settings)) :
    ∃ held, c.parameters = .ok held ∧ settings.Holds held := by
  cases hdeclared : Settings.declared c.defaults with
  | error e =>
    obtain ⟨t, ht⟩ := Settings.putAll_of_error hdeclared ⟨known, {}⟩
    rw [ht] at h
    cases h
  | ok pairs =>
    have hparameters : c.parameters = .ok (Table.ofPairs pairs).entries :=
      Reading.map_eq_ok_iff.2 ⟨pairs, hdeclared, rfl⟩
    obtain ⟨t, ht, hheld⟩ := putAll_of_parameters hparameters known
    rw [ht] at h
    cases h
    exact ⟨_, hparameters, hheld⟩

/-! ## Taking over -/

/-- A solver of a concrete class can be built around a problem that the class can take over. -/
theorem perform_build {needed : Option (Problem Float)} {settings : Settings} (hconcrete : c.Concrete)
    (hp : s.problems.get? r = some p) (hneeded : c.adapt p = .ok needed)
    (hput : perform (Settings.putAll c.defaults) ⟨s.parameters, {}⟩ = (.ok (), settings)) :
    ∃ own v t, perform (build c (some (.ok r))) s = (.ok v, t) ∧ Built c r s v t p own settings := by
  rw [build_eq hconcrete.procedure hconcrete.owner]
  cases needed with
  | none =>
    rw [perform_bind_of_ok (perform_takeOver_of_none hp hneeded)]
    exact ⟨_, _, _, perform_assemble_of_ok hput, hp, .given hneeded, hput, rfl, rfl⟩
  | some w =>
    rw [perform_bind_of_ok (perform_takeOver_of_some hp hneeded)]
    exact ⟨_, _, _, perform_assemble_of_ok hput, hp, .copy hneeded, hput, rfl, rfl⟩

theorem Takes.get?_of_ne {problems others : Arena (Problem Float)} {r' : Ref (Problem Float)}
    {q : Problem Float} (h : Takes c problems r p own others) (hne : r ≠ r')
    (hq : problems.get? r' = some q) : others.get? r' = some q := by
  have hset : (problems.set r p.freeze).get? r' = some q := by
    rw [Arena.get?_set_of_ne _ _ hne, hq]
  cases h with
  | given _ => exact hset
  | copy _ => exact Arena.get?_add_of_get? _ _ _ hset

/-- Opening the given problem again, unless it was frozen before, puts back what taking over has changed. -/
theorem Takes.undone {problems others : Arena (Problem Float)} (hp : problems.get? r = some p)
    (h : Takes c problems r p own others) {r' : Ref (Problem Float)} {q : Problem Float}
    (hq : problems.get? r' = some q) :
    (if p.frozen then others else others.set r p.freeze.unfreeze).get? r' = some q := by
  have hgiven := h.get?_given hp
  by_cases hr : r = r'
  · subst hr
    obtain rfl : q = p := Option.some.inj (hq.symm.trans hp)
    cases hfrozen : q.frozen with
    | true =>
      rw [if_pos rfl, hgiven, Problem.freeze_of_frozen hfrozen]
    | false =>
      rw [if_neg Bool.false_ne_true, Problem.unfreeze_freeze hfrozen]
      exact Arena.get?_set_self _ _ _ hgiven
  · have hother := h.get?_of_ne hr hq
    split
    · exact hother
    · rw [Arena.get?_set_of_ne _ _ hr, hother]

/-! ## Creation -/

/-- A creation whose name is known and whose values can be read goes on to build a solver. -/
theorem perform_create (hc : s.Registers name c) (hread : readParameters parameters = .ok values)
    (hp : s.problems.get? r = some p) :
    perform (create name parameters (.ok r)) s = perform (do
      let v ← build c (some (.ok r))
      equip v r p.frozen values
      logDebug ".solver.factory" ("Created solver " ++ Text.quoted name ++ " (" ++ c.name ++ ")")
      return v : Run (Ref Solver)) s := by
  unfold create
  rw [perform_bind_of_ok (perform_lookUp hc), hread, perform_bind_of_ok (perform_lift _ s)]
  dsimp only
  rw [perform_bind_of_ok (perform_problem hp)]

/-- A creation comes down to the configuration of the solver that has been built; when that fails, the
problems are what they were. -/
theorem perform_create_configuring {needed : Option (Problem Float)} (hc : s.Registers name c)
    (hconcrete : c.Concrete) (hread : readParameters parameters = .ok values)
    (hp : s.problems.get? r = some p) (hneeded : c.adapt p = .ok needed) (hheld : c.parameters = .ok held) :
    match Settings.misfit? held values with
    | some e => ∃ t, perform (create name parameters (.ok r)) s = (.error e, t) ∧ s.Untouched t
    | none => ∃ v t, perform (create name parameters (.ok r)) s = (.ok v, t) := by
  obtain ⟨settings, hput, hholds⟩ := putAll_of_parameters hheld s.parameters
  obtain ⟨own, v, u, hbuild, hbuilt⟩ := perform_build hconcrete hp hneeded hput
  have hfits := hholds.configure (nodup_keys_of_readParameters hread)
  rw [perform_create hc hread hp, perform_bind_of_ok hbuild]
  cases hmisfit : Settings.misfit? held values with
  | some e =>
    rw [hmisfit] at hfits
    obtain ⟨settings', hconfigure⟩ := hfits
    rw [← hbuilt.settings_eq] at hconfigure
    have hequip := perform_equip hbuilt.solver hbuilt.given p.frozen hconfigure
    rw [perform_bind_of_error hequip]
    refine ⟨_, rfl, fun _ _ hq ↦ hbuilt.takes.undone hp hq, ?_, ?_⟩
    · rw [hbuilt.state]
    · rw [hbuilt.state]
  | none =>
    rw [hmisfit] at hfits
    obtain ⟨settings', hconfigure, -⟩ := hfits
    rw [← hbuilt.settings_eq] at hconfigure
    rw [perform_bind_of_ok (perform_equip hbuilt.solver hbuilt.given p.frozen hconfigure)]
    exact ⟨v, _, rfl⟩

/-- Each of the reasons to refuse a creation leaves problems and registry as they were. -/
theorem untouched_of_refusal (hp : s.problems.get? r = some p) {e : Error Float}
    (h : s.Refusal name parameters p e) :
    ∃ t, perform (create name parameters (.ok r)) s = (.error e, t) ∧ s.Untouched t := by
  cases h with
  | unknown h =>
    unfold create
    exact ⟨s, perform_bind_of_error (perform_lookUp_of_none h) _, .refl s⟩
  | unsupported hc h =>
    unfold create
    rw [perform_bind_of_ok (perform_lookUp hc), h]
    exact ⟨s, perform_bind_of_error (perform_lift _ s) _, .refl s⟩
  | narrowed hc hconcrete hread h =>
    rw [perform_create hc hread hp, build_eq hconcrete.procedure hconcrete.owner]
    refine ⟨s, perform_bind_of_error (perform_bind_of_error ?_ _) _, .refl s⟩
    exact perform_takeOver_of_error hp h
  | conflicting hc hconcrete hread hneeded hheld h =>
    have hcreate := perform_create_configuring hc hconcrete hread hp hneeded hheld
    rw [h] at hcreate
    exact hcreate

/-- What a solver that was created by name holds. -/
theorem created_of_ok {v : Ref Solver} (hp : s.problems.get? r = some p)
    (h : perform (create name parameters (.ok r)) s = (.ok v, t)) :
    ∃ c held values solver, s.Registers name c ∧ c.parameters = .ok held ∧
      readParameters parameters = .ok values ∧ t.problems.get? r = some p.freeze ∧
      t.solvers.get? v = some solver ∧ solver.kind = c ∧
      Settings.Holds ⟨t.parameters, solver.store⟩ (Settings.configured held values) := by
  obtain ⟨c, values, q, own, u, declared, settings, hc, hread, hbuilt, hconfigure, ht⟩ := create_of_ok h
  obtain rfl : q = p := Option.some.inj (hbuilt.found.symm.trans hp)
  obtain ⟨held, hheld, hholds⟩ := parameters_of_putAll hbuilt.declared
  obtain ⟨-, hconfigured⟩ := hholds.of_configure (nodup_keys_of_readParameters hread) hconfigure
  refine ⟨c, held, values, { kind := c, problem := some own, store := settings.store }, hc, hheld, hread, ?_, ?_,
    rfl, ?_⟩
  · rw [ht]
    exact hbuilt.given
  · rw [ht]
    exact Arena.get?_set_self _ _ _ hbuilt.solver
  · rw [ht]
    exact hconfigured

/-- Whether a creation of a concrete class succeeds is decided by the reasons for a refusal alone. -/
theorem ok_of_not_refused (hp : s.problems.get? r = some p) (hc : s.Registers name c)
    (hconcrete : c.Concrete) (hheld : c.parameters = .ok held)
    (hnone : ∀ e, ¬s.Refusal name parameters p e) :
    ∃ v t, perform (create name parameters (.ok r)) s = (.ok v, t) := by
  cases hread : readParameters parameters with
  | error e => exact absurd (.unsupported hc hread) (hnone e)
  | ok values =>
    cases hneeded : c.adapt p with
    | error e => exact absurd (.narrowed hc hconcrete hread hneeded) (hnone e)
    | ok needed =>
      have hcreate := perform_create_configuring hc hconcrete hread hp hneeded hheld
      cases hmisfit : Settings.misfit? held values with
      | some e => exact absurd (.conflicting hc hconcrete hread hneeded hheld hmisfit) (hnone e)
      | none =>
        rw [hmisfit] at hcreate
        exact hcreate

/-- A creation around a problem that is refused for any of the four reasons leaves all problems and the
registry as they were. One that succeeds leaves the problem frozen, and its solver holds the parameters that
the class declares with the caller's values, followed by the caller's other parameters. If what the class
declares has proper values, there is no third way. -/
theorem create_all_or_nothing (hp : s.problems.get? r = some p) :
    (∀ e, s.Refusal name parameters p e →
      ∃ t, perform (create name parameters (.ok r)) s = (.error e, t) ∧ s.Untouched t) ∧
    (∀ v t, perform (create name parameters (.ok r)) s = (.ok v, t) →
      ∃ c held values solver, s.Registers name c ∧ c.parameters = .ok held ∧
        readParameters parameters = .ok values ∧ t.problems.get? r = some p.freeze ∧
        t.solvers.get? v = some solver ∧ solver.kind = c ∧
        (⟨t.parameters, solver.store⟩ : Settings).contents = Settings.configured held values ∧
        solver.store.keys = (Settings.configured held values).map Prod.fst) ∧
    (∀ c held, s.Registers name c → c.Concrete → c.parameters = .ok held →
      (∃ e, s.Refusal name parameters p e) ∨
        ∃ v t, perform (create name parameters (.ok r)) s = (.ok v, t)) := by
  refine ⟨fun e he ↦ untouched_of_refusal hp he, ?_, ?_⟩
  · intro v t h
    obtain ⟨c, held, values, solver, hc, hheld, hread, hfrozen, hsolver, hkind, hholds⟩ := created_of_ok hp h
    exact ⟨c, held, values, solver, hc, hheld, hread, hfrozen, hsolver, hkind, hholds.contents_eq, hholds.keys⟩
  · intro c held hc hconcrete hheld
    by_cases hrefused : ∃ e, s.Refusal name parameters p e
    · exact .inl hrefused
    · exact .inr (ok_of_not_refused hp hc hconcrete hheld fun e he ↦ hrefused ⟨e, he⟩)

/-- A class of solvers that declares one parameter. -/
def tuned : SolverClass :=
  { name := "Tuned", defaults := [("steps", .ok (.int 5), "how many")], procedure := some (.script []) }

def onlyProblem : Problem Float where
  objective := .constant "level" 1 [2]
  objectiveClass := .tier .linear
  constraintClasses := [.tier .linear]
  bounds := [Interval.free]
  scales := [1]

/-- A session with that problem, where the class is registered. -/
def tunedSession : Session :=
  ({} : Session).after [.declare { objective := .ok (.constant "level" 1 [2]) }, .defineClass tuned,
    .register "tuned" (.ok ⟨4⟩) false]

/-- A creation that fails at its second key leaves no trace, and one that fits freezes the problem. -/
theorem create_all_or_nothing_tuned :
    (∃ t, perform (create "tuned" [("mode", .ok (.bool true)), ("steps", .ok (.text "all"))] (.ok ⟨0⟩))
      tunedSession = (.error (.parameterStore "int" "str"), t) ∧ tunedSession.Untouched t) ∧
    ∃ v t, perform (create "tuned" [("mode", .ok (.bool true)), ("steps", .ok (.int 7))] (.ok ⟨0⟩))
      tunedSession = (.ok v, t) ∧ t.problems.get? ⟨0⟩ = some onlyProblem.freeze := by
  have hp : tunedSession.problems.get? ⟨0⟩ = some onlyProblem := by rfl
  have hc : tunedSession.Registers "tuned" tuned := ⟨⟨4⟩, by rfl, by rfl⟩
  have hheld : tuned.parameters = .ok [("steps", ⟨.int 5, "how many"⟩)] := by rfl
  have hneeded : tuned.adapt onlyProblem = .ok none := by rfl
  constructor
  · have hread : readParameters [("mode", .ok (.bool true)), ("steps", .ok (.text "all"))] =
        .ok [("mode", .bool true), ("steps", .text "all")] := by rfl
    have hmisfit : Settings.misfit? [("steps", ⟨.int 5, "how many"⟩)]
        [("mode", .bool true), ("steps", .text "all")] = some (.parameterStore "int" "str") := by rfl
    exact (create_all_or_nothing hp).1 _ (.conflicting hc ⟨rfl, rfl⟩ hread hneeded hheld hmisfit)
  · obtain ⟨v, t, h⟩ : ∃ v t, perform (create "tuned" [("mode", .ok (.bool true)), ("steps", .ok (.int 7))]
        (.ok ⟨0⟩)) tunedSession = (.ok v, t) := ⟨_, _, by rfl⟩
    obtain ⟨-, -, -, -, -, -, -, hfrozen, -⟩ := (create_all_or_nothing hp).2.1 v t h
    exact ⟨v, t, h, hfrozen⟩

end Session

end Extremum
