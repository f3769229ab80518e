import Extremum.Proofs.Session.Call
import Extremum.Proofs.Session.Equations

/-!
# The order in which problems widen

A problem can be widened to a list of other problems, each of which can be widened again. Since the order of
classes is reflexive and transitive, so is this relation between problems: asking for nothing gives a copy, and
what two widenings lead to, one widening leads to as well. The order of classes is antisymmetric, so an objective
that was declared at a more general class never gets its class back. Main statement: `widen_in_order`.
-/

namespace Extremum

/-! ## The order of classes -/

namespace FunctionClass

/-- A number that is smaller for every other class above. -/
def depth : FunctionClass → Nat
  | tier t => t.rank
  | kernel k => k.tier.rank + 1
  | derived _ _ base => base.depth + 1

/-- The classes above a class are fewer and fewer on the way up. -/
theorem depth_lt_of_isSubclass {c d : FunctionClass} (h : c.isSubclass d = true) (hne : c ≠ d) :
    d.depth < c.depth := by
  induction c with
  | tier t =>
    cases d with
    | tier s =>
      have hrank : s.rank ≤ t.rank := of_decide_eq_true ((isSubclass_tier t s).symm.trans h)
      apply Nat.lt_of_le_of_ne hrank
      intro heq
      exact hne (congrArg tier (Tier.rank_injective heq.symm))
    | kernel k => simp [isSubclass] at h
    | derived declaration name base => simp [isSubclass] at h
  | kernel k =>
    cases d with
    | tier s =>
      have hrank : s.rank ≤ k.tier.rank := of_decide_eq_true ((isSubclass_tier_iff (kernel k) s).symm.trans h)
      exact Nat.lt_succ_of_le hrank
    | kernel k' => exact absurd (by simpa [isSubclass] using h) hne
    | derived declaration name base => simp [isSubclass] at h
  | derived declaration name base ih =>
    have hbase : base.isSubclass d = true := by
      rw [isSubclass, beq_false_of_ne hne, Bool.false_or] at h
      exact h
    by_cases heq : base = d
    · rw [← heq]
      exact Nat.lt_succ_self base.depth
    · exact Nat.lt_trans (ih hbase heq) (Nat.lt_succ_self base.depth)

/-- Two classes that are above each other are the same. -/
theorem isSubclass_antisymm {c d : FunctionClass} (hcd : c.isSubclass d = true) (hdc : d.isSubclass c = true) :
    c = d := by
  by_contra hne
  have hdown := depth_lt_of_isSubclass hcd hne
  have hup := depth_lt_of_isSubclass hdc (Ne.symm hne)
  omega

end FunctionClass

namespace Problem

variable {p q w : Problem Float}

/-! ## What widening reads -/

theorem all_eq_ok_iff {items : List (Reading Float FunctionClass)} {classes : List FunctionClass} :
    Reading.all items = .ok classes ↔ items = classes.map .ok := by
  have hpairs : items = classes.map .ok ↔ List.Forall₂ Eq items (classes.map .ok) := by
    rw [List.forall₂_eq_eq_eq]
  rw [hpairs, List.forall₂_map_right_iff]
  exact Reading.mapM_eq_ok_iff

/-- Classes for constraints are read if all of them are classes and there is one. -/
theorem readClasses_eq_ok_iff {given : Reading Float (List (Reading Float FunctionClass))}
    {classes : List FunctionClass} :
    readClasses given = .ok classes ↔ given = .ok (classes.map .ok) ∧ classes ≠ [] := by
  constructor
  · intro h
    have hnonempty := readClasses_ne_nil h
    unfold readClasses at h
    obtain ⟨items, hitems, h⟩ := Reading.bind_eq_ok_iff.1 h
    split at h
    · cases h
    · exact ⟨hitems.trans (congrArg Except.ok (all_eq_ok_iff.1 h)), hnonempty⟩
  · rintro ⟨rfl, hnonempty⟩
    have hitems : ¬(classes.map Except.ok : List (Reading Float FunctionClass)).isEmpty = true := by
      rw [List.isEmpty_iff, List.map_eq_nil_iff]
      exact hnonempty
    unfold readClasses
    refine Reading.bind_eq_ok_iff.2 ⟨_, rfl, ?_⟩
    rw [if_neg hitems]
    exact all_eq_ok_iff.2 rfl

/-! ## The relation between a problem and a widened one -/

/-- A problem is an open copy of another one, declared at classes that are more general or the same. -/
structure Widens (p q : Problem Float) : Prop where
  objective : p.objectiveClass.isSubclass q.objectiveClass = true
  constraints : ∀ d ∈ p.constraintClasses, ∃ e ∈ q.constraintClasses, d.isSubclass e = true
  classes : q.constraintClasses ≠ []
  copied : q = { p.copy with objectiveClass := q.objectiveClass, constraintClasses := q.constraintClasses }

/-- Whatever is asked for or left out, widening that succeeds leads to a problem in this relation. -/
theorem widens_of_widen {objectiveClass : Reading Float (Option FunctionClass)}
    {constraintClasses : Option (Reading Float (List (Reading Float FunctionClass)))} (hp : p.WellFormed)
    (h : p.widen objectiveClass constraintClasses = .ok q) : p.Widens q := by
  obtain ⟨wanted, -, c, hc, classes, hclasses, hcovered, rfl⟩ := widen_eq_ok_iff.1 h
  have hnonempty : classes ≠ [] :=
    forall_of_readOr (P := (· ≠ [])) hclasses hp.classes fun _ _ hread ↦ readClasses_ne_nil hread
  exact ⟨isSubclass_of_widerObjective hc, hcovered, hnonempty, rfl⟩

/-- What a copy is that was widened to given classes. -/
theorem widen_eq_ok {o : FunctionClass} {given : Reading Float (List (Reading Float FunctionClass))}
    (h : p.widen (.ok (some o)) (some given) = .ok q) :
    o = q.objectiveClass ∧ given = .ok (q.constraintClasses.map .ok) ∧
      q = { p.copy with objectiveClass := q.objectiveClass, constraintClasses := q.constraintClasses } := by
  obtain ⟨wanted, hwanted, c, hc, classes, hclasses, -, rfl⟩ := widen_eq_ok_iff.1 h
  cases hwanted
  exact ⟨(widerObjective_eq_ok_iff.1 hc).2, (readClasses_eq_ok_iff.1 hclasses).1, rfl⟩

namespace Widens

/-- Asking for the classes of a problem in the relation leads to that problem. -/
protected theorem widen (h : p.Widens q) :
    p.widen (.ok (some q.objectiveClass)) (some (.ok (q.constraintClasses.map .ok))) = .ok q := by
  have hobjective := widerObjective_eq_ok_iff.2 ⟨h.objective, rfl⟩
  have hclasses := readClasses_eq_ok_iff.2 ⟨rfl, h.classes⟩
  exact widen_eq_ok_iff.2 ⟨_, rfl, _, hobjective, _, hclasses, h.constraints, h.copied.symm⟩

theorem refl (hp : p.WellFormed) : p.Widens p.copy where
  objective := FunctionClass.isSubclass_refl _
  constraints d hd := ⟨d, hd, FunctionClass.isSubclass_refl d⟩
  classes := hp.classes
  copied := rfl

/-- Widening twice is widening once. -/
theorem trans (h : p.Widens q) (h' : q.Widens w) : p.Widens w where
  objective := FunctionClass.isSubclass_trans h.objective h'.objective
  constraints := by
    intro d hd
    obtain ⟨e, he, hde⟩ := h.constraints d hd
    obtain ⟨f, hf, hef⟩ := h'.constraints e he
    exact ⟨f, hf, FunctionClass.isSubclass_trans hde hef⟩
  classes := h'.classes
  copied := by
    have hlast := h'.copied
    rw [h.copied] at hlast
    exact hlast

/-- What a problem permits, it permits once it is widened. -/
theorem permits {f : Function Float} (h : p.Widens q) (hf : p.permits f = true) : q.permits f = true := by
  unfold Problem.permits at hf ⊢
  obtain ⟨d, hd, hisA⟩ := List.any_eq_true.1 hf
  obtain ⟨e, he, hde⟩ := h.constraints d hd
  exact List.any_eq_true.2 ⟨e, he, FunctionClass.isSubclass_trans hisA hde⟩

/-- A constraint that the problem takes while it is open, the widened one takes as well. -/
theorem addConstraint {f : Given (Function Float)} {bounds : BoundsPart Float}
    {scales : Option (ScalesPart Float)} {p' : Problem Float} (h : p.Widens q)
    (hadd : p.copy.addConstraint f bounds scales = .ok p') :
    q.addConstraint f bounds scales = .ok { q with constraints := p'.constraints } := by
  have hopen : q.frozen = false := by
    rw [h.copied]
    rfl
  have hinputs : q.inputSize = p.inputSize := by
    rw [h.copied]
    rfl
  have hconstraints : q.constraints = p.constraints := by
    rw [h.copied]
    rfl
  obtain ⟨-, f, rfl, hpermitted, hsize, c, hread, rfl⟩ := addConstraint_eq_ok_iff.1 hadd
  refine addConstraint_eq_ok_iff.2 ⟨hopen, f, rfl, h.permits hpermitted, hsize.trans hinputs.symm, c, hread, ?_⟩
  rw [hconstraints]
  rfl

end Widens

/-- A well-formed problem can be widened to where it is declared already. -/
theorem widen_self (hp : p.WellFormed) :
    p.widen (.ok (some p.objectiveClass)) (some (.ok (p.constraintClasses.map .ok))) = .ok p.copy :=
  (Widens.refl hp).widen

/-- To leave a class open is to ask for the class that is declared. -/
theorem widen_nothing : p.widen (.ok none) none = .ok p.copy := by
  have hcovered : ∀ d ∈ p.constraintClasses, ∃ e ∈ p.constraintClasses, d.isSubclass e = true :=
    fun d hd ↦ ⟨d, hd, FunctionClass.isSubclass_refl d⟩
  exact widen_eq_ok_iff.2 ⟨none, rfl, _, rfl, _, rfl, hcovered, rfl⟩

/-! ## Widening in order -/

/-- What the order of classes says about all problems that a problem can be widened to. -/
structure Widenings (p : Problem Float) : Prop where
  /-- Asking for nothing leads to a copy. -/
  nothing : p.widen (.ok none) none = .ok p.copy
  /-- A widened problem is open, and all that differs besides are the classes. -/
  same : ∀ o cs q, p.widen o cs = .ok q → q.frozen = false ∧ q.objective = p.objective ∧
    q.constraints = p.constraints ∧ q.bounds = p.bounds ∧ q.scales = p.scales ∧ q.start = p.start ∧
    q.names = p.names
  /-- Where two widenings lead to, one widening leads to, with the classes named at once. -/
  compose : ∀ o cs o' cs' q w, p.widen o cs = .ok q → q.widen o' cs' = .ok w →
    p.widen (.ok (some w.objectiveClass)) (some (.ok (w.constraintClasses.map .ok))) = .ok w
  /-- A function that belongs to a class for constraints still does after widening. -/
  permits : ∀ o cs q f, p.widen o cs = .ok q → p.permits f = true → q.permits f = true
  /-- So no constraint is refused after widening that was not refused before. -/
  accepts : ∀ o cs q f bounds scales p', p.widen o cs = .ok q →
    p.copy.addConstraint f bounds scales = .ok p' →
    q.addConstraint f bounds scales = .ok { q with constraints := p'.constraints }
  /-- Only an objective that has kept its class can be declared at that class again. -/
  noReturn : ∀ c cs q q', p.widen (.ok (some c)) cs = .ok q →
    q.widen (.ok (some p.objectiveClass)) none = .ok q' → c = p.objectiveClass

theorem objectiveClass_of_widen {c : FunctionClass}
    {constraintClasses : Option (Reading Float (List (Reading Float FunctionClass)))}
    (h : p.widen (.ok (some c)) constraintClasses = .ok q) :
    p.objectiveClass.isSubclass c = true ∧ q.objectiveClass = c := by
  obtain ⟨wanted, hwanted, c', hc, classes, -, -, rfl⟩ := widen_eq_ok_iff.1 h
  cases hwanted
  obtain ⟨hsub, rfl⟩ := widerObjective_eq_ok_iff.1 hc
  exact ⟨hsub, rfl⟩

/-- Widening follows the order of classes, for every well-formed problem. -/
theorem WellFormed.widenings (hp : p.WellFormed) : p.Widenings where
  nothing := widen_nothing
  same o cs q h := by
    rw [(widens_of_widen hp h).copied]
    exact ⟨rfl, rfl, rfl, rfl, rfl, rfl, rfl⟩
  compose o cs o' cs' q w h h' :=
    ((widens_of_widen hp h).trans (widens_of_widen (wellFormed_of_widen hp h) h')).widen
  permits o cs q f h hf := (widens_of_widen hp h).permits hf
  accepts o cs q f bounds scales p' h hadd := (widens_of_widen hp h).addConstraint hadd
  noReturn c cs q q' h h' := by
    obtain ⟨hup, hq⟩ := objectiveClass_of_widen h
    obtain ⟨hdown, -⟩ := objectiveClass_of_widen h'
    rw [hq] at hdown
    exact FunctionClass.isSubclass_antisymm hdown hup

end Problem

/-! ## Widening in a session -/

namespace Session

variable {s : Session} {r : Ref (Problem Float)} {p : Problem Float}

theorem perform_copy (hp : s.problems.get? r = some p) :
    perform (copy r) s = (.ok (s.problems.add p.copy).1, { s with problems := (s.problems.add p.copy).2 }) := by
  unfold copy
  rw [perform_bind_of_ok (perform_problem hp), perform_addProblem]

theorem perform_widen (hp : s.problems.get? r = some p) (o : Reading Float (Option FunctionClass))
    (cs : Option (Reading Float (List (Reading Float FunctionClass)))) :
    perform (widen r o cs) s = match p.widen o cs with
      | .ok q => (.ok (s.problems.add q).1, { s with problems := (s.problems.add q).2 })
      | .error e => (.error e, s) := by
  unfold widen
  rw [perform_bind_of_ok (perform_problem hp), perform_bind, perform_lift]
  cases p.widen o cs <;> rfl

/-- Widening is a preorder on problems, up to the class of the objective even an order. A widened problem is a new
one, and no problem that there was before is touched, neither by a widening that succeeds nor by one that fails. -/
theorem widen_in_order (hp : s.problems.get? r = some p) (hwf : p.WellFormed) :
    p.Widenings ∧ perform (widen r (.ok none) none) s = perform (copy r) s ∧
      ∀ o cs, ∃ answer t, perform (widen r o cs) s = (answer, t) ∧
        (∀ r' p', s.problems.get? r' = some p' → t.problems.get? r' = some p') ∧
        match p.widen o cs with
        | .ok q => ∃ own, answer = .ok own ∧ t.problems.get? own = some q
        | .error e => answer = .error e ∧ t = s := by
  refine ⟨hwf.widenings, ?_, fun o cs ↦ ?_⟩
  · rw [perform_widen hp, hwf.widenings.nothing, perform_copy hp]
  · rw [perform_widen hp]
    cases p.widen o cs with
    | error e => exact ⟨.error e, s, rfl, fun _ _ h ↦ h, rfl, rfl⟩
    | ok q =>
      refine ⟨_, _, rfl, fun _ _ h ↦ Arena.get?_add_of_get? _ q _ h, _, rfl, ?_⟩
      exact Arena.get?_add_self s.problems q

/-- A class that a user derived from the twice derivable functions. -/
def smooth : FunctionClass :=
  .derived 7 "Smooth" (.tier .twiceDerivable)

/-- The problem of `widenedOnce` that was frozen, with its classes or with more general ones. -/
def levelAt (o : FunctionClass) (cs : List FunctionClass) (frozen : Bool) : Problem Float :=
  { widenedLast with objectiveClass := o, constraintClasses := cs, frozen }

/-- The frozen problem is declared for linear constraints. It is widened to take quadratic and smooth ones, and
then to take all functions that have a gradient; asking for those at once leads to the same problem. The class of
its objective is given up in the first step and not to be had again in the second. -/
theorem widen_in_order_widenedOnce :
    let p := levelAt (.tier .linear) [.tier .linear] true
    let q := levelAt (.tier .quadratic) [smooth, .tier .quadratic] false
    let w := levelAt (.tier .quadratic) [.tier .derivable] false
    (({} : Session).after widenedOnce).problems.get? ⟨0⟩ = some p ∧
      p.widen (.ok (some (.tier .quadratic))) (some (.ok [.ok smooth, .ok (.tier .quadratic)])) = .ok q ∧
      q.widen (.ok none) (some (.ok [.ok (.tier .derivable)])) = .ok w ∧
      p.widen (.ok (some (.tier .quadratic))) (some (.ok [.ok (.tier .derivable)])) = .ok w ∧
      ∀ q', q.widen (.ok (some (.tier .linear))) none ≠ .ok q' := by
  intro p q w
  have hp : (({} : Session).after widenedOnce).problems.get? ⟨0⟩ = some p := by rfl
  have hfirst :
      p.widen (.ok (some (.tier .quadratic))) (some (.ok [.ok smooth, .ok (.tier .quadratic)])) = .ok q := by rfl
  have hsecond : q.widen (.ok none) (some (.ok [.ok (.tier .derivable)])) = .ok w := by rfl
  have hordered := (widen_in_order hp (wellFormed_of_reached rfl widenedOnce hp)).1
  refine ⟨hp, hfirst, hsecond, hordered.compose _ _ _ _ _ _ hfirst hsecond, fun q' h ↦ ?_⟩
  cases hordered.noReturn _ _ _ _ hfirst h

end Session

end Extremum
