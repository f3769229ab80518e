import Extremum.Proofs.Session.Call

/-!
# Mutations of problems

The five ways in which callers change a problem in place. A mutation goes through several readings and checks,
each of which may fail; it has an effect only if all of them succeed, and then it has replaced one field, or
one entry of it, and nothing else. A frozen problem refuses every mutation with the same error, before anything
is read. Main statement: `mutation_all_or_one`, for every problem that callers can reach.
-/

namespace Extremum

/-- A change of a problem in place, with the arguments as the caller gave them. -/
inductive Mutation
  | addConstraint (f : Given (Function Float)) (bounds : BoundsPart Float)
    (scales : Option (ScalesPart Float))
  | setStart (point : Option (Reading Float (Tensor Float)))
  | setBound (index : Int) (bound : BoundPart Float)
  | setBounds (bounds : Reading Float (List (BoundPart Float)))
  | setScale (index : Int) (scale : Written Float Float)

/-- One entry of a list is another, and all others are what they were. -/
structure Replaced {β : Type} (before : List β) (i : Nat) (entry : β) (after : List β) : Prop where
  length : after.length = before.length
  self : after[i]? = some entry
  others : ∀ j, j ≠ i → after[j]? = before[j]?

/-- Setting an entry replaces it and nothing else. -/
theorem replaced_set {β : Type} {entries : List β} {i : Nat} (hi : i < entries.length) (entry : β) :
    Replaced entries i entry (entries.set i entry) where
  length := List.length_set
  self := List.getElem?_set_self hi
  others _ hj := List.getElem?_set_ne hj.symm

namespace Mutation

/-- The call that asks for a mutation of the problem at a reference. -/
def call (r : Ref (Problem Float)) : Mutation → Call
  | addConstraint f bounds scales => .addConstraint r f bounds scales
  | setStart point => .setStart r point
  | setBound index bound => .setBound r index bound
  | setBounds bounds => .setBounds r bounds
  | setScale index scale => .setScale r index scale

def apply (p : Problem Float) : Mutation → Except (Error Float) (Problem Float)
  | addConstraint f bounds scales => p.addConstraint f bounds scales
  | setStart point => p.setStart point
  | setBound index bound => p.setBound index bound
  | setBounds bounds => p.setBounds bounds
  | setScale index scale => p.setScale index scale

/-- What a mutation that is not refused has done: the one field that it names holds what the caller gave, or has
one entry more or one other entry. All other fields are the old ones. -/
inductive Effect (p : Problem Float) : Mutation → Problem Float → Prop
  | addConstraint {f : Function Float} {bounds : BoundsPart Float} {scales : Option (ScalesPart Float)}
      {c : Constraint Float} (hpermitted : p.permits f = true) (hinputs : f.inputSize = p.inputSize)
      (hread : Problem.readConstraint f bounds scales = .ok c) :
      Effect p (.addConstraint (.ok f) bounds scales) { p with constraints := p.constraints ++ [c] }
  | removeStart : Effect p (.setStart none) { p with start := none }
  | setStart {point : Reading Float (Tensor Float)} {x : List Float}
      (hread : Problem.readStart p.inputSize point = .ok x) :
      Effect p (.setStart (some point)) { p with start := some x }
  | setBound {i : Nat} {bound : BoundPart Float} {interval : Interval Float} {bounds : List (Interval Float)}
      (hread : bound.read "argument bound" = .ok interval) (hbounds : Replaced p.bounds i interval bounds) :
      Effect p (.setBound i bound) { p with bounds }
  | setBounds {given : Reading Float (List (BoundPart Float))} {bounds : List (Interval Float)}
      (hread : Problem.readBounds p.inputSize given = .ok bounds) :
      Effect p (.setBounds given) { p with bounds }
  | setScale {i : Nat} {scale : Written Float Float} {x : Float} {scales : List Float}
      (hread : readScale "argument scale" scale = .ok x) (hscales : Replaced p.scales i x scales) :
      Effect p (.setScale i scale) { p with scales }

variable {p q : Problem Float} {m : Mutation}

/-! ## What one mutation does -/

/-- A frozen problem is not even compared with the arguments. -/
theorem apply_of_frozen (hp : p.frozen = true) (m : Mutation) : m.apply p = .error .frozenProblem := by
  have hclosed := Problem.checkOpen_of_frozen hp
  cases m with
  | addConstraint f bounds scales => rw [apply, Problem.addConstraint.eq_def, hclosed]; rfl
  | setStart point => rw [apply, Problem.setStart, hclosed]; rfl
  | setBound index bound => rw [apply, Problem.setBound, hclosed]; rfl
  | setBounds bounds => rw [apply, Problem.setBounds, hclosed]; rfl
  | setScale index scale => rw [apply, Problem.setScale, hclosed]; rfl

/-- One constraint more, and all else as it was. -/
theorem effect_of_addConstraint {f : Given (Function Float)} {bounds : BoundsPart Float}
    {scales : Option (ScalesPart Float)} (h : p.addConstraint f bounds scales = .ok q) :
    Effect p (.addConstraint f bounds scales) q := by
  obtain ⟨-, f, rfl, hpermitted, hinputs, c, hread, rfl⟩ := Problem.addConstraint_eq_ok_iff.1 h
  exact .addConstraint hpermitted hinputs hread

theorem effect_of_setStart {point : Option (Reading Float (Tensor Float))} (h : p.setStart point = .ok q) :
    Effect p (.setStart point) q := by
  obtain ⟨-, start, hstart, rfl⟩ := Problem.setStart_eq_ok_iff.1 h
  cases point with
  | none =>
    cases hstart
    exact .removeStart
  | some point =>
    obtain ⟨x, hread, rfl⟩ := Reading.map_eq_ok_iff.1 hstart
    exact .setStart hread

/-- One other bound, and all else as it was; the position is there because the problem is well-formed. -/
theorem effect_of_setBound {index : Int} {bound : BoundPart Float} (hp : p.WellFormed)
    (h : p.setBound index bound = .ok q) : Effect p (.setBound index bound) q := by
  obtain ⟨-, i, ⟨rfl, hi⟩, interval, hread, rfl⟩ := Problem.setBound_eq_ok_iff.1 h
  rw [← hp.length_bounds] at hi
  exact .setBound hread (replaced_set hi interval)

/-- Other bounds, one for each argument, and all else as it was. -/
theorem effect_of_setBounds {bounds : Reading Float (List (BoundPart Float))}
    (h : p.setBounds bounds = .ok q) : Effect p (.setBounds bounds) q := by
  obtain ⟨-, intervals, hread, rfl⟩ := Problem.setBounds_eq_ok_iff.1 h
  exact .setBounds hread

theorem effect_of_setScale {index : Int} {scale : Written Float Float} (hp : p.WellFormed)
    (h : p.setScale index scale = .ok q) : Effect p (.setScale index scale) q := by
  obtain ⟨-, i, ⟨rfl, hi⟩, x, hread, rfl⟩ := Problem.setScale_eq_ok_iff.1 h
  rw [← hp.length_scales] at hi
  exact .setScale hread (replaced_set hi x)

/-- A mutation that succeeds has found the problem open, and has had its effect. -/
theorem effect_of_apply (hp : p.WellFormed) (h : m.apply p = .ok q) : p.frozen = false ∧ m.Effect p q := by
  constructor
  · cases hfrozen : p.frozen with
    | false => rfl
    | true =>
      rw [apply_of_frozen hfrozen] at h
      cases h
  · cases m with
    | addConstraint f bounds scales => exact effect_of_addConstraint h
    | setStart point => exact effect_of_setStart h
    | setBound index bound => exact effect_of_setBound hp h
    | setBounds bounds => exact effect_of_setBounds h
    | setScale index scale => exact effect_of_setScale hp h

end Mutation

/-! ## Mutations in a session -/

namespace Session

variable {s : Session} {r : Ref (Problem Float)} {p : Problem Float} {m : Mutation}

/-- A mutation changes the problem at its reference, or fails and changes nothing. -/
theorem perform_change {step : Problem Float → Except (Error Float) (Problem Float)}
    (hp : s.problems.get? r = some p) :
    perform (change r step) s = match step p with
      | .ok q => (.ok (), { s with problems := s.problems.set r q })
      | .error e => (.error e, s) := by
  unfold change
  rw [perform_bind_of_ok (perform_problem hp), perform_bind, perform_lift]
  cases step p <;> rfl

/-- A call that mutates a problem either fails and leaves the session as it was, or puts the mutated problem in
the place of the old one; besides that it may write to the log. -/
theorem perform_mutation (hp : s.problems.get? r = some p) (m : Mutation) :
    (∃ e, m.apply p = .error e ∧ perform (m.call r).run s = (.error e, s)) ∨
    ∃ q log, m.apply p = .ok q ∧
      perform (m.call r).run s = (.ok (), { s with problems := s.problems.set r q, log }) := by
  have hchange : ∀ step : Problem Float → Except (Error Float) (Problem Float),
      (∃ e, step p = .error e ∧ perform (change r step) s = (.error e, s)) ∨
      ∃ q log, step p = .ok q ∧
        perform (change r step) s = (.ok (), { s with problems := s.problems.set r q, log }) := by
    intro step
    rw [perform_change hp]
    cases step p with
    | error e => exact .inl ⟨e, rfl, rfl⟩
    | ok q => exact .inr ⟨q, s.log, rfl, rfl⟩
  cases m with
  | addConstraint f bounds scales =>
    -- The one mutation that also reports what it has added.
    change (∃ e, p.addConstraint f bounds scales = .error e ∧
        perform (addConstraint r f bounds scales) s = (.error e, s)) ∨
      ∃ q log, p.addConstraint f bounds scales = .ok q ∧
        perform (addConstraint r f bounds scales) s = (.ok (), { s with problems := s.problems.set r q, log })
    unfold addConstraint
    rw [perform_bind_of_ok (perform_problem hp), perform_bind, perform_lift]
    cases p.addConstraint f bounds scales with
    | error e => exact .inl ⟨e, rfl, rfl⟩
    | ok q =>
      dsimp only
      rw [perform_bind_of_ok (perform_setProblem r q s)]
      cases q.constraints.getLast? with
      | none => exact .inr ⟨q, s.log, rfl, rfl⟩
      | some c => exact .inr ⟨q, _, rfl, perform_logDebug _ _ _⟩
  | setStart point => exact hchange (Problem.setStart · point)
  | setBound index bound => exact hchange (Problem.setBound · index bound)
  | setBounds bounds => exact hchange (Problem.setBounds · bounds)
  | setScale index scale => exact hchange (Problem.setScale · index scale)

/-- Mutations are all or nothing. On every problem that calls have led to, a mutation that fails, at whatever
part of its arguments, leaves the whole session as it was. One that succeeds has found the problem open, has put
the mutated one in its place, and has changed nothing else but the log. A frozen problem refuses all mutations
in the same way, also those whose arguments could not be read. -/
theorem mutation_all_or_one (hnone : s.problems = {}) (calls : List Call)
    (hp : (s.after calls).problems.get? r = some p) (m : Mutation) :
    (p.frozen = true → ∃ e : Error Float, e.kindName = "InvalidProblemError" ∧
      ∀ m' : Mutation, perform (m'.call r).run (s.after calls) = (.error e, s.after calls)) ∧
    (∀ e u, perform (m.call r).run (s.after calls) = (.error e, u) → u = s.after calls) ∧
    ∀ u, perform (m.call r).run (s.after calls) = (.ok (), u) →
      p.frozen = false ∧ ∃ q, m.Effect p q ∧ u.problems.get? r = some q ∧
        u = { s.after calls with problems := (s.after calls).problems.set r q, log := u.log } := by
  have hwf : p.WellFormed := wellFormed_of_reached hnone calls hp
  refine ⟨fun hfrozen ↦ ⟨.frozenProblem, rfl, fun m' ↦ ?_⟩, fun e u h ↦ ?_, fun u h ↦ ?_⟩
  · have hrefused := Mutation.apply_of_frozen hfrozen m'
    obtain ⟨e, hfails, hrun⟩ | ⟨q, log, hmutated, -⟩ := perform_mutation hp m'
    · rw [hrefused] at hfails
      cases hfails
      exact hrun
    · rw [hrefused] at hmutated
      cases hmutated
  · obtain ⟨e', -, hrun⟩ | ⟨q, log, -, hrun⟩ := perform_mutation hp m
    · rw [hrun] at h
      cases h
      rfl
    · rw [hrun] at h
      cases h
  · obtain ⟨e, -, hrun⟩ | ⟨q, log, hmutated, hrun⟩ := perform_mutation hp m
    · rw [hrun] at h
      cases h
    · rw [hrun] at h
      cases h
      obtain ⟨hopen, heffect⟩ := Mutation.effect_of_apply hwf hmutated
      exact ⟨hopen, q, heffect, Arena.get?_set_self _ _ _ hp, rfl⟩

/-- After `widenedOnce` the first problem is frozen. The second one refuses a scale for its second argument, of
which there is none, and takes a starting point. -/
theorem mutation_all_or_one_widenedOnce :
    (∃ e : Error Float,
      perform (Mutation.setBound 5 .other |>.call ⟨0⟩).run (({} : Session).after widenedOnce) =
        (.error e, ({} : Session).after widenedOnce) ∧ e.kindName = "InvalidProblemError") ∧
    (({} : Session).after widenedOnce).next (Mutation.setScale 1 ⟨.ok 2, "2"⟩ |>.call ⟨1⟩) =
      ({} : Session).after widenedOnce ∧
    ((({} : Session).after widenedOnce).next
      (Mutation.setStart (some (.ok (.vector [3]))) |>.call ⟨1⟩)).problems.get? ⟨1⟩ =
        some { widenedLast with start := some [3] } := by
  obtain ⟨p, hp, hfrozen⟩ : ∃ p, (({} : Session).after widenedOnce).problems.get? ⟨0⟩ = some p ∧
    p.frozen = true := ⟨_, by rfl, rfl⟩
  have hopen : (({} : Session).after widenedOnce).problems.get? ⟨1⟩ = some widenedLast := by rfl
  refine ⟨?_, ?_, ?_⟩
  · obtain ⟨e, hkind, hrefused⟩ := (mutation_all_or_one rfl widenedOnce hp (.setStart none)).1 hfrozen
    exact ⟨e, hrefused _, hkind⟩
  · obtain ⟨e, u, hrun⟩ : ∃ e u, perform (Mutation.setScale 1 ⟨.ok 2, "2"⟩ |>.call ⟨1⟩).run
      (({} : Session).after widenedOnce) = (.error e, u) := ⟨_, _, by rfl⟩
    have hsame := (mutation_all_or_one rfl widenedOnce hopen _).2.1 e u hrun
    rw [next, hrun, hsame]
  · obtain ⟨u, hrun⟩ : ∃ u, perform (Mutation.setStart (some (.ok (.vector [3]))) |>.call ⟨1⟩).run
      (({} : Session).after widenedOnce) = (.ok (), u) := ⟨_, by rfl⟩
    obtain ⟨-, q, heffect, hq, -⟩ := (mutation_all_or_one rfl widenedOnce hopen _).2.2 u hrun
    rw [next, hrun, hq]
    cases heffect with
    | setStart hread =>
      cases hread
      rfl

end Session

end Extremum
