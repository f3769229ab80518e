import Extremum.Proofs.Problem.Widening
import Extremum.Proofs.Solver.Creation

/-!
# What a class of solvers demands of a problem

A class of solvers may ask for an objective of some class and for constraints of some classes. Where it asks for
nothing, the problem's own classes will do. A solver can be built around a well-formed problem exactly if the
problem can be widened to what is asked for, and then it works on the widened problem: on the very problem that
it was given if nothing had to be widened, and on a copy otherwise. Widening looks at classes only; that all
functions have the derivatives which the solver may ask them for follows from well-formedness
(`build_meets_demand`).
-/

namespace Extremum

/-- A function has the derivatives that any class it belongs to promises. -/
theorem Function.provides_of_isA {f : Function Float} {c : FunctionClass} {t : Tier} (hf : f.isA c = true)
    (hc : c.isSubclass (.tier t) = true) : f.provides t = .ok () := by
  have htier : f.tier.isSubtier t = true := by
    rw [← Function.isA_tier]
    exact FunctionClass.isSubclass_trans hf hc
  unfold Function.provides
  rw [if_pos htier]

/-! ## What is asked for -/

namespace SolverClass

variable {c : SolverClass} {p w : Problem Float}

/-- The class of objectives that the class of solvers needs: its own demand, or what the problem has. -/
def wantedObjective (c : SolverClass) (p : Problem Float) : Reading Float FunctionClass :=
  (·.getD p.objectiveClass) <$> c.objectiveClass

/-- The classes of constraints that the class of solvers needs: its own demand, or what the problem has. -/
def wantedConstraints (c : SolverClass) (p : Problem Float) :
    Reading Float (List (Reading Float FunctionClass)) :=
  c.constraintClasses >>= fun classes ↦ classes.getD (.ok (p.constraintClasses.map .ok))

/-- The problem, widened to what the class of solvers needs. -/
def widened (c : SolverClass) (p : Problem Float) : Except (Error Float) (Problem Float) :=
  p.widen (some <$> c.wantedObjective p) (some (c.wantedConstraints p))

theorem sameClasses_iff {items : List (Reading Float FunctionClass)} {classes : List FunctionClass} :
    sameClasses items classes = true ↔ items = classes.map .ok := by
  induction items generalizing classes with
  | nil => cases classes <;> simp [sameClasses]
  | cons item rest ih =>
    cases classes with
    | nil => cases item <;> simp [sameClasses]
    | cons c others =>
      cases item with
      | error e => simp [sameClasses]
      | ok d => simp [sameClasses, ih]

/-- A widened problem is a copy at the classes that are wanted. -/
theorem widened_eq_ok (h : c.widened p = .ok w) :
    c.wantedObjective p = .ok w.objectiveClass ∧ c.wantedConstraints p = .ok (w.constraintClasses.map .ok) ∧
      w = { p.copy with objectiveClass := w.objectiveClass, constraintClasses := w.constraintClasses } := by
  unfold widened at h
  cases hwanted : c.wantedObjective p with
  | error e =>
    rw [hwanted] at h
    cases h
  | ok o =>
    rw [hwanted] at h
    obtain ⟨rfl, hgiven, hcopy⟩ := Problem.widen_eq_ok h
    exact ⟨rfl, hgiven, hcopy⟩

/-- A problem that can be widened is taken over as it is if it is declared at the right classes already, and as
the widened copy otherwise. -/
theorem adapt_of_widened (h : c.widened p = .ok w) :
    c.adapt p = .ok (if w.objectiveClass = p.objectiveClass ∧ w.constraintClasses = p.constraintClasses
      then none else some w) := by
  obtain ⟨hobjective, hconstraints, -⟩ := widened_eq_ok h
  have hwiden : p.widen (.ok (some w.objectiveClass)) (some (.ok (w.constraintClasses.map .ok))) = .ok w := by
    rw [← hconstraints, ← h]
    unfold widened
    rw [hobjective]
    rfl
  obtain ⟨declared, hdeclared, ho⟩ := Reading.map_eq_ok_iff.1 hobjective
  obtain ⟨classes, hclasses, hc⟩ := Reading.bind_eq_ok_iff.1 hconstraints
  unfold adapt
  refine Reading.bind_eq_ok_iff.2 ⟨declared, hdeclared, ?_⟩
  refine Reading.bind_eq_ok_iff.2 ⟨classes, hclasses, ?_⟩
  dsimp only
  rw [ho, hc, hwiden]
  by_cases hsame : w.objectiveClass = p.objectiveClass
  · rw [if_pos hsame]
    refine Reading.bind_eq_ok_iff.2 ⟨_, rfl, ?_⟩
    by_cases hequal : w.constraintClasses = p.constraintClasses
    · rw [if_pos (sameClasses_iff.2 (congrArg (List.map Except.ok) hequal)), if_pos ⟨hsame, hequal⟩]
      rfl
    · have hdiffer : ¬sameClasses (w.constraintClasses.map .ok) p.constraintClasses = true := by
        intro h
        have hmaps := sameClasses_iff.1 h
        exact hequal (List.map_injective_iff.2 (fun _ _ heq ↦ Except.ok.inj heq) hmaps)
      rw [if_neg hdiffer, if_neg fun h ↦ hequal h.2]
      rfl
  · rw [if_neg hsame, if_neg fun h ↦ hsame h.1]
    rfl

theorem widened_of_adapt (hp : p.WellFormed) {needed : Option (Problem Float)} (h : c.adapt p = .ok needed) :
    ∃ w, c.widened p = .ok w := by
  unfold adapt at h
  obtain ⟨declared, hdeclared, h⟩ := Reading.bind_eq_ok_iff.1 h
  obtain ⟨classes, hclasses, h⟩ := Reading.bind_eq_ok_iff.1 h
  have hwidened : c.widened p = p.widen (.ok (some (declared.getD p.objectiveClass)))
      (some (classes.getD (.ok (p.constraintClasses.map .ok)))) := by
    unfold widened wantedObjective wantedConstraints
    rw [hdeclared, hclasses]
    rfl
  have hlast {needed : Option (Problem Float)}
      (hx : some <$> p.widen (.ok (some (declared.getD p.objectiveClass)))
        (some (classes.getD (.ok (p.constraintClasses.map .ok)))) = .ok needed) :
      ∃ w, c.widened p = .ok w := by
    obtain ⟨w, hw, -⟩ := Reading.map_eq_ok_iff.1 hx
    exact ⟨w, hwidened.trans hw⟩
  dsimp only at h
  split at h
  · rename_i hobjective
    obtain ⟨items, hitems, h⟩ := Reading.bind_eq_ok_iff.1 h
    split at h
    · rename_i hsame
      rw [sameClasses_iff.1 hsame] at hitems
      rw [hwidened, hobjective, hitems]
      exact ⟨p.copy, Problem.widen_self hp⟩
    · exact hlast h
  · exact hlast h

end SolverClass

/-! ## Solvers built as asked for -/

namespace Session

variable {s t : Session} {c : SolverClass} {r own : Ref (Problem Float)} {p w : Problem Float} {v : Ref Solver}

/-- A solver has been built around a problem, and it owns the problem as its class needs it. -/
structure Meets (s : Session) (c : SolverClass) (r : Ref (Problem Float)) (p : Problem Float) (v : Ref Solver)
    (t : Session) (own : Ref (Problem Float)) (w : Problem Float) : Prop where
  solver : ∃ x, t.solvers.get? v = some x ∧ x.kind = c ∧ x.problem = some own
  /-- The owned problem is declared at the very classes that are needed. -/
  objectiveClass : c.wantedObjective p = .ok w.objectiveClass
  constraintClasses : c.wantedConstraints p = .ok (w.constraintClasses.map .ok)
  /-- In all other respects it is the problem that was given. -/
  rest : w = { p.copy with objectiveClass := w.objectiveClass, constraintClasses := w.constraintClasses }
  /-- It is the very problem that was given if that is declared there, and a new one otherwise. -/
  same : own = r ↔ w.objectiveClass = p.objectiveClass ∧ w.constraintClasses = p.constraintClasses
  new : own ≠ r → s.problems.get? own = none
  /-- Both are frozen, and the problem that was given is otherwise what it was. -/
  owned : t.problems.get? own = some w.freeze
  given : t.problems.get? r = some p.freeze
  /-- All functions have the derivatives that the classes promise. -/
  objective : w.objective.isA w.objectiveClass = true ∧
    ∀ tier, w.objectiveClass.isSubclass (.tier tier) = true → w.objective.provides tier = .ok ()
  constraints : ∀ d ∈ w.constraints, ∃ e ∈ w.constraintClasses, d.function.isA e = true ∧
    ∀ tier, e.isSubclass (.tier tier) = true → d.function.provides tier = .ok ()

/-- A class takes over a problem that can be widened. -/
theorem Takes.owned_widened {problems others : Arena (Problem Float)} (hp : problems.get? r = some p)
    (hw : c.widened p = .ok w) (h : Takes c problems r p own others) :
    others.get? own = some w.freeze ∧ (own ≠ r → problems.get? own = none) ∧
      (own = r ↔ w.objectiveClass = p.objectiveClass ∧ w.constraintClasses = p.constraintClasses) := by
  have hadapt := SolverClass.adapt_of_widened hw
  obtain ⟨-, -, hcopy⟩ := SolverClass.widened_eq_ok hw
  cases h with
  | given hnone =>
    rw [hnone] at hadapt
    split at hadapt
    · rename_i hsame
      have hfreeze : w.freeze = p.freeze := by
        rw [hcopy, hsame.1, hsame.2]
        rfl
      rw [hfreeze]
      exact ⟨Arena.get?_set_self _ _ _ hp, fun hne ↦ absurd rfl hne, ⟨fun _ ↦ hsame, fun _ ↦ rfl⟩⟩
    · cases hadapt
  | @copy w' hsome =>
    rw [hsome] at hadapt
    split at hadapt
    · cases hadapt
    · rename_i hdiffer
      cases hadapt
      have hne : (problems.add w).1 ≠ r := Arena.add_fst_ne_of_get? hp w
      have hnew : problems.get? (problems.add w).1 = none := by
        by_contra hfound
        obtain ⟨q, hq⟩ := Option.ne_none_iff_exists'.1 hfound
        exact Arena.add_fst_ne_of_get? hq w rfl
      have howned := Arena.get?_add_self (problems.set r p.freeze) w.freeze
      rw [Arena.add_set_fst] at howned
      exact ⟨howned, fun _ ↦ hnew, ⟨fun heq ↦ absurd heq hne, fun h ↦ absurd h hdiffer⟩⟩

/-- A class takes over a problem only if it can widen it. -/
theorem widened_of_takes {problems others : Arena (Problem Float)} (hwf : p.WellFormed)
    (h : Takes c problems r p own others) : ∃ w, c.widened p = .ok w := by
  cases h with
  | given hnone => exact SolverClass.widened_of_adapt hwf hnone
  | copy hsome => exact SolverClass.widened_of_adapt hwf hsome

/-- A construction that succeeded has met all demands of the class. -/
theorem meets_of_built {settings : Settings} (hwf : p.WellFormed) (hw : c.widened p = .ok w)
    (h : Built c r s v t p own settings) : Meets s c r p v t own w := by
  obtain ⟨howned, hnew, hsame⟩ := h.takes.owned_widened h.found hw
  obtain ⟨hobjective, hconstraints, hcopy⟩ := SolverClass.widened_eq_ok hw
  have hwide : w.WellFormed := Problem.wellFormed_of_widen hwf hw
  exact {
    solver := ⟨_, h.solver, rfl, rfl⟩
    objectiveClass := hobjective
    constraintClasses := hconstraints
    rest := hcopy
    same := hsame
    new := hnew
    owned := howned
    given := h.given
    objective := ⟨hwide.objective, fun _ ↦ Function.provides_of_isA hwide.objective⟩
    constraints := by
      intro d hd
      obtain ⟨e, he, hpermitted⟩ := (hwide.constraints d hd).permitted
      exact ⟨e, he, hpermitted, fun _ ↦ Function.provides_of_isA hpermitted⟩ }

/-- A problem that cannot be widened is not touched. -/
theorem build_of_not_widened {e : Error Float} (hp : s.problems.get? r = some p) (hwf : p.WellFormed)
    (he : c.widened p = .error e) : ∃ e', perform (build c (some (.ok r))) s = (.error e', s) := by
  cases hprocedure : c.procedure with
  | none =>
    unfold build
    rw [hprocedure]
    exact ⟨_, rfl⟩
  | some procedure =>
    cases howns : c.ownsProblem with
    | false =>
      unfold build ownProblem
      rw [hprocedure, howns]
      exact ⟨_, rfl⟩
    | true =>
      rw [build_eq (by rw [hprocedure]; rfl) howns]
      cases hadapt : c.adapt p with
      | error e' => exact ⟨e', perform_bind_of_error (perform_takeOver_of_error hp hadapt) _⟩
      | ok needed =>
        obtain ⟨w, hw⟩ := SolverClass.widened_of_adapt hwf hadapt
        rw [he] at hw
        cases hw

/-- Solvers of a class can be built around a well-formed problem exactly if the class is concrete, its parameters
can be declared, and the problem can be widened to what the class asks for. If it cannot be widened, nothing
happens. If a solver is built, the problem that it owns meets the demand. -/
theorem build_meets_demand (hp : s.problems.get? r = some p) (hwf : p.WellFormed) (c : SolverClass) :
    ((∃ v t, perform (build c (some (.ok r))) s = (.ok v, t)) ↔
      c.Concrete ∧ (∃ held, c.parameters = .ok held) ∧ ∃ w, c.widened p = .ok w) ∧
    (∀ e, c.widened p = .error e → ∃ e', perform (build c (some (.ok r))) s = (.error e', s)) ∧
    ∀ v t, perform (build c (some (.ok r))) s = (.ok v, t) → ∃ own w, c.widened p = .ok w ∧
      Meets s c r p v t own w := by
  have hmeets : ∀ v t, perform (build c (some (.ok r))) s = (.ok v, t) → c.Concrete ∧
      (∃ held, c.parameters = .ok held) ∧ ∃ own w, c.widened p = .ok w ∧ Meets s c r p v t own w := by
    intro v t h
    obtain ⟨hprocedure, howner⟩ := owner_of_build h
    obtain ⟨q, own, settings, hbuilt⟩ := build_of_ok h
    obtain rfl : q = p := Option.some.inj (hbuilt.found.symm.trans hp)
    obtain ⟨held, hheld, -⟩ := parameters_of_putAll hbuilt.declared
    obtain ⟨w, hw⟩ := widened_of_takes hwf hbuilt.takes
    exact ⟨⟨hprocedure, howner⟩, ⟨held, hheld⟩, own, w, hw, meets_of_built hwf hw hbuilt⟩
  refine ⟨⟨fun ⟨v, t, h⟩ ↦ ?_, fun ⟨hconcrete, ⟨held, hheld⟩, w, hw⟩ ↦ ?_⟩, fun e he ↦ ?_, fun v t h ↦ ?_⟩
  · obtain ⟨hconcrete, hheld, own, w, hw, -⟩ := hmeets v t h
    exact ⟨hconcrete, hheld, w, hw⟩
  · obtain ⟨settings, hput, -⟩ := putAll_of_parameters hheld s.parameters
    obtain ⟨own, v, t, h, -⟩ := perform_build hconcrete hp (SolverClass.adapt_of_widened hw) hput
    exact ⟨v, t, h⟩
  · exact build_of_not_widened hp hwf he
  · exact (hmeets v t h).2.2

/-- A class of solvers that needs gradients of the objective, and values of the constraints. -/
def descent : SolverClass where
  name := "Descent"
  objectiveClass := .ok (some (.tier .derivable))
  constraintClasses := .ok (some (.ok [.ok (.tier .value)]))
  procedure := some (.script [])

/-- After `widenedOnce` such a solver can be built around the first problem, which is linear, and works on a
copy. Around the second one, whose objective has values only, it cannot be built. -/
theorem build_meets_demand_descent :
    (∃ v t own, ∃ w : Problem Float,
      perform (build descent (some (.ok ⟨0⟩))) (({} : Session).after widenedOnce) = (.ok v, t) ∧ own ≠ ⟨0⟩ ∧
        t.problems.get? own = some w.freeze ∧ w.objectiveClass = .tier .derivable ∧
        w.objective.provides .derivable = .ok ()) ∧
    ∃ e, perform (build descent (some (.ok ⟨1⟩))) (({} : Session).after widenedOnce) =
      (.error e, ({} : Session).after widenedOnce) := by
  constructor
  · obtain ⟨p, hp, hlinear⟩ : ∃ p, (({} : Session).after widenedOnce).problems.get? ⟨0⟩ = some p ∧
      p.objectiveClass = .tier .linear := ⟨_, by rfl, rfl⟩
    obtain ⟨v, t, h⟩ : ∃ v t, perform (build descent (some (.ok ⟨0⟩))) (({} : Session).after widenedOnce) =
      (.ok v, t) := ⟨_, _, by rfl⟩
    have hwf := wellFormed_of_reached rfl widenedOnce hp
    obtain ⟨own, w, -, hmeets⟩ := (build_meets_demand hp hwf descent).2.2 v t h
    have hderivable : w.objectiveClass = .tier .derivable := (Except.ok.inj hmeets.objectiveClass).symm
    refine ⟨v, t, own, w, h, fun hsame ↦ ?_, hmeets.owned, hderivable, ?_⟩
    · have hunchanged := (hmeets.same.1 hsame).1
      rw [hderivable, hlinear] at hunchanged
      cases hunchanged
    · apply hmeets.objective.2
      rw [hderivable]
      rfl
  · have hp : (({} : Session).after widenedOnce).problems.get? ⟨1⟩ = some widenedLast := by rfl
    have hwf := wellFormed_of_reached rfl widenedOnce hp
    exact (build_meets_demand hp hwf descent).2.1 _ (by rfl)

end Session

end Extremum
