import Extremum.Proofs.Problem.Mutation

/-!
# Where constraints come from

Problems are made out of problems: a copy, a widened copy and the copy that a solver works on all begin with the
constraints that their source has at that moment, and go their own way from there. A ledger keeps, for each
problem, the calls that have added its constraints, on the problem itself or on one that it descends from before
the two have parted. Main statement: `accounts_of_reached`, the ledger accounts for all constraints of all
problems, whatever was called and whichever calls failed.
-/

namespace Extremum

namespace Call

/-- Whether a call is to add a constraint. -/
def Constrains : Call → Prop
  | addConstraint .. => True
  | _ => False

/-- Whether a call adds a constraint to a problem, which it does unless it fails. -/
def adds (c : Call) (s : Session) (r : Ref (Problem Float)) : Bool :=
  match c with
  | addConstraint target .. => target == r && (perform c.run s).1.isOk
  | _ => false

/-- The problem out of which a call makes new ones. -/
def source : Call → Option (Ref (Problem Float))
  | copy r | widen r .. | build _ (some (.ok r)) | create _ _ (.ok r) => some r
  | _ => none

theorem adds_eq_false {c : Call} (hc : ¬c.Constrains) (s : Session) (r : Ref (Problem Float)) :
    c.adds s r = false := by
  cases c with
  | addConstraint r f bounds scales => exact absurd trivial hc
  | _ => rfl

end Call

/-- A constraint is what a call has asked for. -/
inductive Constraint.StemsFrom : Constraint Float → Call → Prop
  | read {r : Ref (Problem Float)} {f : Function Float} {bounds : BoundsPart Float}
      {scales : Option (ScalesPart Float)} {c : Constraint Float}
      (h : Problem.readConstraint f bounds scales = .ok c) : StemsFrom c (.addConstraint r (.ok f) bounds scales)

/-- For each problem, the calls that have added its constraints. -/
abbrev Ledger := Ref (Problem Float) → List Call

/-- The ledger after a call: a problem that is there gets an entry if the call adds a constraint to it, and a new
one takes over the entries of its source. What stands under references that are not in use means nothing. -/
def Ledger.enter (ledger : Ledger) (s : Session) (c : Call) : Ledger := fun r ↦
  match s.problems.get? r with
  | some _ => if c.adds s r then ledger r ++ [c] else ledger r
  | none => c.source.elim [] ledger

theorem Ledger.enter_of_some {ledger : Ledger} {s : Session} {c : Call} {r : Ref (Problem Float)}
    {p : Problem Float} (hp : s.problems.get? r = some p) :
    ledger.enter s c r = if c.adds s r then ledger r ++ [c] else ledger r := by
  rw [enter, hp]

theorem Ledger.enter_of_none {ledger : Ledger} {s : Session} {c : Call} {r : Ref (Problem Float)}
    (hnone : s.problems.get? r = none) : ledger.enter s c r = c.source.elim [] ledger := by
  rw [enter, hnone]

/-- The ledger after calls, one after the other. -/
def Ledger.after (ledger : Ledger) (s : Session) : List Call → Ledger
  | [] => ledger
  | c :: rest => (ledger.enter s c).after (s.next c) rest

/-- The calls that have added the constraints of each problem, if there was no problem before them. -/
def Session.additions (s : Session) (calls : List Call) : Ledger :=
  Ledger.after (fun _ ↦ []) s calls

/-- The constraints of each problem are those that the calls in the ledger have asked for, in that order. -/
def Ledger.Accounts (ledger : Ledger) (s : Session) : Prop :=
  ∀ r p, s.problems.get? r = some p → List.Forall₂ Constraint.StemsFrom p.constraints (ledger r)

/-! ## What problems do with constraints -/

namespace Problem

variable {p q : Problem Float}

/-- A problem is declared without constraints. -/
theorem constraints_of_declare {d : Declaration} (h : declare d = .ok p) : p.constraints = [] :=
  (declares_of_declare h).constraints

/-- Widening takes over all constraints. -/
theorem constraints_of_widen {objectiveClass : Reading Float (Option FunctionClass)}
    {constraintClasses : Option (Reading Float (List (Reading Float FunctionClass)))}
    (h : p.widen objectiveClass constraintClasses = .ok q) : q.constraints = p.constraints := by
  obtain ⟨wanted, -, c, -, classes, -, -, rfl⟩ := widen_eq_ok_iff.1 h
  rfl

end Problem

/-- Only one of the mutations touches constraints. -/
theorem Mutation.constraints_of_apply {p q : Problem Float} {m : Mutation} (h : m.apply p = .ok q)
    (hm : ∀ f bounds scales, m ≠ .addConstraint f bounds scales) : q.constraints = p.constraints := by
  cases m with
  | addConstraint f bounds scales => exact absurd rfl (hm f bounds scales)
  | setStart point =>
    obtain ⟨-, start, -, rfl⟩ := Problem.setStart_eq_ok_iff.1 h
    rfl
  | setBound index bound =>
    obtain ⟨-, i, -, interval, -, rfl⟩ := Problem.setBound_eq_ok_iff.1 h
    rfl
  | setBounds bounds =>
    obtain ⟨-, intervals, -, rfl⟩ := Problem.setBounds_eq_ok_iff.1 h
    rfl
  | setScale index scale =>
    obtain ⟨-, i, -, x, -, rfl⟩ := Problem.setScale_eq_ok_iff.1 h
    rfl

namespace Session

variable {β : Type} {s t : Session} {r : Ref (Problem Float)} {p q : Problem Float}
  {source : Option (Ref (Problem Float))} {ledger : Ledger}

/-! ## Inheritance -/

/-- The constraints that a problem begins with are those of its source, and none if it has no source. -/
inductive Begins (s : Session) : Option (Ref (Problem Float)) → List (Constraint Float) → Prop
  | alone : Begins s none []
  | source {r : Ref (Problem Float)} {p : Problem Float} (hp : s.problems.get? r = some p) :
      Begins s (some r) p.constraints

/-- Old problems have kept their constraints, and new ones have begun with those of their source. -/
structure Inherits (source : Option (Ref (Problem Float))) (s t : Session) : Prop where
  old : ∀ r p, s.problems.get? r = some p → ∃ q, t.problems.get? r = some q ∧ q.constraints = p.constraints
  new : ∀ r q, s.problems.get? r = none → t.problems.get? r = some q → s.Begins source q.constraints

namespace Inherits

theorem of_problems (h : t.problems = s.problems) : Inherits source s t where
  old r p hp := ⟨p, by rw [h, hp], rfl⟩
  new r q hnone hq := by
    rw [h, hnone] at hq
    cases hq

theorem of_advances {stored ran : Ref Solver → Prop} (s t : Session) (h : Advances stored ran s t) :
    Inherits source s t :=
  of_problems h.problems

/-- What begins later begins with the same: the source has kept its constraints, too. -/
theorem begins {constraints : List (Constraint Float)} (h : Inherits source s t)
    (hlater : t.Begins source constraints) : s.Begins source constraints := by
  cases hlater with
  | alone => exact .alone
  | @source r q hq =>
    cases hr : s.problems.get? r with
    | none => exact h.new r q hr hq
    | some p =>
      obtain ⟨q', hq', hsame⟩ := h.old r p hr
      cases hq.symm.trans hq'
      rw [hsame]
      exact .source hr

instance : IsPreorder Session (Inherits source) where
  refl _ := of_problems rfl
  trans s t u hst htu := {
    old := by
      intro r p hp
      obtain ⟨q, hq, hpq⟩ := hst.old r p hp
      obtain ⟨w, hw, hqw⟩ := htu.old r q hq
      exact ⟨w, hw, hqw.trans hpq⟩
    new := by
      intro r w hnone hw
      cases ht : t.problems.get? r with
      | none => exact hst.begins (htu.new r w ht hw)
      | some q =>
        -- The problem has come into being on the way, and has been kept since.
        obtain ⟨w', hw', hqw⟩ := htu.old r q ht
        cases hw.symm.trans hw'
        rw [hqw]
        exact hst.new r q hnone ht }

/-- Replacing a problem by one with the same constraints adds none. -/
theorem of_set (hp : s.problems.get? r = some p) (hq : q.constraints = p.constraints) :
    Inherits source s (perform (setProblem r q) s).2 where
  old r' p' hp' := by
    rw [perform_setProblem]
    by_cases hr : r = r'
    · subst hr
      cases hp.symm.trans hp'
      exact ⟨q, Arena.get?_set_self _ _ _ hp, hq⟩
    · exact ⟨p', by rw [Arena.get?_set_of_ne _ _ hr, hp'], rfl⟩
  new r' q' hnone hq' := by
    rw [perform_setProblem] at hq'
    obtain hold | ⟨rfl, -⟩ := Arena.get?_set_eq_some hq'
    · cases hnone.symm.trans hold
    · cases hnone.symm.trans hp

/-- A problem that is added has to begin with the constraints of its source. -/
theorem of_add (hq : s.Begins source q.constraints) :
    Inherits source s (perform (addProblem q) s).2 where
  old r p hp := ⟨p, Arena.get?_add_of_get? _ _ _ hp, rfl⟩
  new r q' hnone hq' := by
    obtain hold | ⟨-, rfl⟩ := Arena.get?_add_eq_some hq'
    · cases hnone.symm.trans hold
    · exact hq

theorem of_add_source (hp : s.problems.get? r = some p) (hq : q.constraints = p.constraints) :
    Inherits (some r) s (perform (addProblem q) s).2 := by
  apply of_add
  rw [hq]
  exact .source hp

end Inherits

/-! ## Operations that make problems or change them -/

theorem inherits_of_advances {m : Run β} (hm : Keeps (Advances (fun _ ↦ False) fun _ ↦ False) m) :
    Keeps (Inherits source) m :=
  hm.mono Inherits.of_advances

theorem inherits_declare (d : Declaration) : Keeps (Inherits none) (declare d) := by
  intro s
  unfold declare
  rw [perform_bind, perform_lift]
  cases h : Problem.declare d with
  | error e => exact refl_of _ s
  | ok p =>
    refine .of_add ?_
    rw [Problem.constraints_of_declare h]
    exact .alone

theorem inherits_change (r : Ref (Problem Float)) {m : Mutation}
    (hm : ∀ f bounds scales, m ≠ .addConstraint f bounds scales) :
    Keeps (Inherits source) (change r (m.apply ·)) := by
  refine keeps_problem_bind fun s p hp ↦ ?_
  rw [perform_bind, perform_lift]
  dsimp only
  cases h : m.apply p with
  | error e => exact refl_of _ s
  | ok q => exact .of_set hp (Mutation.constraints_of_apply h hm)

theorem inherits_freeze (r : Ref (Problem Float)) : Keeps (Inherits source) (freeze r) :=
  keeps_problem_bind fun _ _ hp ↦ .of_set hp rfl

theorem inherits_unfreeze (r : Ref (Problem Float)) : Keeps (Inherits source) (unfreeze r) :=
  keeps_problem_bind fun _ _ hp ↦ .of_set hp rfl

theorem inherits_copy (r : Ref (Problem Float)) : Keeps (Inherits (some r)) (copy r) :=
  keeps_problem_bind fun _ _ hp ↦ .of_add_source hp rfl

theorem inherits_widen (r : Ref (Problem Float)) (objectiveClass : Reading Float (Option FunctionClass))
    (constraintClasses : Option (Reading Float (List (Reading Float FunctionClass)))) :
    Keeps (Inherits (some r)) (widen r objectiveClass constraintClasses) := by
  refine keeps_problem_bind fun s p hp ↦ ?_
  rw [perform_bind, perform_lift]
  cases h : p.widen objectiveClass constraintClasses with
  | error e => exact refl_of _ s
  | ok q => exact .of_add_source hp (Problem.constraints_of_widen h)

/-- What a class of solvers takes over, or the copy that it needs, has the constraints of the given problem. -/
theorem inherits_takeOver (c : SolverClass) (given : Given (Ref (Problem Float))) :
    Keeps (Inherits (Call.build c (some given)).source) (takeOver c given) := by
  cases given with
  | error name => exact Keeps.throw _
  | ok r =>
    exact keeps_takeOver_of c inherits_freeze fun _ _ _ _ _ hp hw ↦
      .of_add_source hp (Problem.constraints_of_widen hw)

theorem inherits_build (c : SolverClass) (given : Option (Given (Ref (Problem Float)))) :
    Keeps (Inherits (Call.build c given).source) (build c given) := by
  refine keeps_build_of c given ?_ ?_
  · rintro taken rfl
    exact inherits_takeOver c taken
  · exact fun problem ↦ inherits_of_advances (keeps_assemble c problem)

theorem inherits_equip (r : Ref Solver) (p : Ref (Problem Float)) (wasFrozen : Bool)
    (values : List (String × Content)) : Keeps (Inherits source) (equip r p wasFrozen values) := by
  unfold equip
  refine Keeps.tryCatch (inherits_of_advances (keeps_changeStore _ _)) fun e ↦ ?_
  cases wasFrozen with
  | true => exact Keeps.throw e
  | false => exact Keeps.bind (inherits_unfreeze p) fun _ ↦ Keeps.throw e

theorem inherits_create (name : String) (parameters : List (String × Reading Float Content))
    (given : Given (Ref (Problem Float))) :
    Keeps (Inherits (Call.create name parameters given).source) (create name parameters given) := by
  unfold create
  refine Keeps.bind (inherits_of_advances (keeps_lookUp name)) fun c ↦
    Keeps.bind (inherits_of_advances (keeps_lift _)) fun values ↦ ?_
  cases given with
  | error shown => exact Keeps.throw _
  | ok r =>
    refine keeps_problem_bind fun s p hp ↦ ?_
    refine Keeps.bind (inherits_build c (some (.ok r))) (fun v ↦ ?_) s
    refine Keeps.bind (inherits_equip v r p.frozen values) fun _ ↦ ?_
    exact Keeps.bind (inherits_of_advances (keeps_logDebug _ _)) fun _ ↦ Keeps.pure v

/-! ## One call and many -/

/-- A call that adds no constraint leaves old problems with those that they have, and gives new ones those of the
problem that it makes them of. -/
theorem inherits_next {c : Call} (hc : ¬c.Constrains) (s : Session) : Inherits c.source s (s.next c) := by
  by_cases hedits : c.Edits
  · unfold next
    cases c with
    | declare d => exact keeps_discard (inherits_declare d) s
    | addConstraint r f bounds scales => exact absurd trivial hc
    | setStart r point => exact inherits_change r (m := .setStart point) (fun _ _ _ ↦ Mutation.noConfusion) s
    | setBound r index bound =>
      exact inherits_change r (m := .setBound index bound) (fun _ _ _ ↦ Mutation.noConfusion) s
    | setBounds r bounds => exact inherits_change r (m := .setBounds bounds) (fun _ _ _ ↦ Mutation.noConfusion) s
    | setScale r index scale =>
      exact inherits_change r (m := .setScale index scale) (fun _ _ _ ↦ Mutation.noConfusion) s
    | freeze r => exact inherits_freeze r s
    | copy r => exact keeps_discard (inherits_copy r) s
    | widen r objectiveClass constraintClasses =>
      exact keeps_discard (inherits_widen r objectiveClass constraintClasses) s
    | build c given => exact keeps_discard (inherits_build c given) s
    | create name parameters given => exact keeps_discard (inherits_create name parameters given) s
    | _ => exact absurd hedits id
  · exact .of_advances _ _ (advances_next hedits s)

/-- A call for a constraint adds what it has asked for, or it fails and nothing happens. -/
theorem next_of_constrains {c : Call} (hc : c.Constrains) (s : Session) :
    (s.next c = s ∧ ∀ r, c.adds s r = false) ∨
      ∃ r p q d, s.problems.get? r = some p ∧ (s.next c).problems = s.problems.set r q ∧
        q.constraints = p.constraints ++ [d] ∧ d.StemsFrom c ∧ ∀ r', c.adds s r' = (r == r') := by
  cases c with
  | addConstraint r f bounds scales =>
    have hrefused (e : Error Float) (h : perform (addConstraint r f bounds scales) s = (.error e, s)) :
        s.next (.addConstraint r f bounds scales) = s ∧
          ∀ r', (Call.addConstraint r f bounds scales).adds s r' = false := by
      refine ⟨congrArg Prod.snd h, fun r' ↦ ?_⟩
      rw [Call.adds, Call.run, h]
      exact Bool.and_false _
    cases hp : s.problems.get? r with
    | none => exact .inl (hrefused _ (perform_bind_of_error (perform_problem_of_none hp) _))
    | some p =>
      obtain ⟨e, -, hrun⟩ | ⟨q, log, hadd, hrun⟩ := perform_mutation hp (.addConstraint f bounds scales)
      · exact .inl (hrefused e hrun)
      · right
        have hadds (r' : Ref (Problem Float)) :
            (Call.addConstraint r f bounds scales).adds s r' = (r == r') := by
          change (r == r' && (perform (Mutation.addConstraint f bounds scales |>.call r).run s).1.isOk) = _
          rw [hrun]
          exact Bool.and_true _
        have hproblems := congrArg (fun result ↦ result.2.problems) hrun
        cases Mutation.effect_of_addConstraint hadd with
        | addConstraint hpermitted hinputs hread =>
          exact ⟨r, p, _, _, hp, hproblems, rfl, .read hread, hadds⟩
  | _ => exact absurd hc id

/-- The constraints that a problem begins with are accounted for by the ledger of its source. -/
theorem Begins.accounts {constraints : List (Constraint Float)} (h : s.Begins source constraints)
    (haccounts : ledger.Accounts s) : List.Forall₂ Constraint.StemsFrom constraints (source.elim [] ledger) := by
  cases h with
  | alone => exact .nil
  | source hp => exact haccounts _ _ hp

/-- A call that adds a constraint is entered for the one problem that gets it. -/
theorem accounts_next_of_constrains {c : Call} (hc : c.Constrains) (h : ledger.Accounts s) :
    (ledger.enter s c).Accounts (s.next c) := by
  intro r q hq
  obtain ⟨hsame, hnone⟩ | ⟨target, p, p', d, hp, hproblems, hadded, hd, hadds⟩ := next_of_constrains hc s
  · rw [hsame] at hq
    rw [Ledger.enter_of_some hq, hnone r, if_neg Bool.false_ne_true]
    exact h r q hq
  · rw [hproblems] at hq
    by_cases hr : target = r
    · subst hr
      cases hq.symm.trans (Arena.get?_set_self _ _ _ hp)
      rw [Ledger.enter_of_some hp, hadds, beq_self_eq_true, if_pos rfl, hadded]
      exact List.rel_append (h target p hp) (.cons hd .nil)
    · rw [Arena.get?_set_of_ne _ _ hr] at hq
      rw [Ledger.enter_of_some hq, hadds, beq_false_of_ne hr, if_neg Bool.false_ne_true]
      exact h r q hq

/-- What one call does is accounted for by its entry. -/
theorem accounts_next (h : ledger.Accounts s) (c : Call) : (ledger.enter s c).Accounts (s.next c) := by
  by_cases hc : c.Constrains
  · exact accounts_next_of_constrains hc h
  · intro r q hq
    have hinherits := inherits_next hc s
    cases hr : s.problems.get? r with
    | none =>
      rw [Ledger.enter_of_none hr]
      exact (hinherits.new r q hr hq).accounts h
    | some p =>
      obtain ⟨q', hq', hsame⟩ := hinherits.old r p hr
      cases hq.symm.trans hq'
      rw [Ledger.enter_of_some hr, Call.adds_eq_false hc, if_neg Bool.false_ne_true, hsame]
      exact h r p hr

/-- The ledger accounts for all constraints, whatever was called. -/
theorem accounts_after (h : ledger.Accounts s) (calls : List Call) :
    (ledger.after s calls).Accounts (s.after calls) := by
  induction calls generalizing s ledger with
  | nil => exact h
  | cons c rest ih => exact ih (accounts_next h c)

/-- Whatever was called since there were no problems, the constraints of every problem are those that the calls in
the ledger have asked for. -/
theorem accounts_of_reached (hnone : s.problems = {}) (calls : List Call) :
    (s.additions calls).Accounts (s.after calls) := by
  apply accounts_after
  intro r p hp
  rw [hnone] at hp
  cases hp

end Session

end Extremum
