import Extremum.Proofs.Session.Progress

/-!
# Runs of calls

What callers do to a session, call by call. A call may fail; the session goes on from what it left behind. Each
call keeps the relations of progress, with the solver that it is about as the only one that may be stored in or
be run, and so does every run of calls that does not concern a solver. Calls that are not about problems do not
touch any.

Every problem of a session is well-formed if the calls that led there began without problems, whichever of them
failed on the way (`wellFormed_of_reached`). Nothing is asked of the calls: declarations, changes, copies and the
constructions of solvers may come in any order and with any arguments.
-/

namespace Extremum

/-- A call of the library that may change a session. -/
inductive Call
  | declare (d : Declaration)
  | addConstraint (r : Ref (Problem Float)) (f : Given (Function Float)) (bounds : BoundsPart Float)
    (scales : Option (ScalesPart Float))
  | setStart (r : Ref (Problem Float)) (point : Option (Reading Float (Tensor Float)))
  | setBound (r : Ref (Problem Float)) (index : Int) (bound : BoundPart Float)
  | setBounds (r : Ref (Problem Float)) (bounds : Reading Float (List (BoundPart Float)))
  | setScale (r : Ref (Problem Float)) (index : Int) (scale : Written Float Float)
  | freeze (r : Ref (Problem Float))
  | copy (r : Ref (Problem Float))
  | widen (r : Ref (Problem Float)) (objectiveClass : Reading Float (Option FunctionClass))
    (constraintClasses : Option (Reading Float (List (Reading Float FunctionClass))))
  | defineClass (c : SolverClass)
  | register (name : String) (given : Given (Ref SolverClass)) (overwrite : Bool)
  | unregister (name : String)
  | build (c : SolverClass) (given : Option (Given (Ref (Problem Float))))
  | create (name : String) (parameters : List (String × Reading Float Content))
    (given : Given (Ref (Problem Float)))
  | changeStore (place : Session.StorePlace) (change : Settings.Change Unit)
  | setCallback (r : Ref Solver) (callback : Given (Option Callback))
  | notify (r : Ref Solver) (i : Iterate)
  | minimum (r : Ref Solver)
  | solve (r : Ref Solver)
  | store (r : Ref Solver) (given : Given Outcome)
  | reset (r : Ref Solver)

namespace Call

/-- What a call does; its answer is left out. -/
def run : Call → Run Unit
  | declare d => discard (Session.declare d)
  | addConstraint r f bounds scales => Session.addConstraint r f bounds scales
  | setStart r point => Session.change r (·.setStart point)
  | setBound r index bound => Session.change r (·.setBound index bound)
  | setBounds r bounds => Session.change r (·.setBounds bounds)
  | setScale r index scale => Session.change r (·.setScale index scale)
  | freeze r => Session.freeze r
  | copy r => discard (Session.copy r)
  | widen r objectiveClass constraintClasses => discard (Session.widen r objectiveClass constraintClasses)
  | defineClass c => discard (Session.addSolverClass c)
  | register name given overwrite => Session.register name given overwrite
  | unregister name => Session.unregister name
  | build c given => discard (Session.build c given)
  | create name parameters given => discard (Session.create name parameters given)
  | changeStore place change => Session.changeStore place change
  | setCallback r callback => Session.setCallback r callback
  | notify r i => discard (Session.notify r i)
  | minimum r => discard (Session.minimum r)
  | solve r => Session.solve r
  | store r given => Session.storeOutcome r given
  | reset r => Session.reset r

/-- Whether a call may run the procedure of a solver. -/
def Runs (r : Ref Solver) : Call → Prop
  | minimum r' | solve r' => r' = r
  | _ => False

/-- Whether a call may change the outcome of a solver. -/
def Stores (r : Ref Solver) : Call → Prop
  | minimum r' | solve r' | store r' _ | reset r' => r' = r
  | _ => False

/-- Whether a call may add a problem or change one. -/
def Edits : Call → Prop
  | declare _ | addConstraint .. | setStart .. | setBound .. | setBounds .. | setScale .. | freeze _ | copy _
  | widen .. | build .. | create .. => True
  | _ => False

end Call

namespace Session

def next (s : Session) (c : Call) : Session :=
  (perform c.run s).2

def after (s : Session) (calls : List Call) : Session :=
  calls.foldl next s

variable {s : Session}

@[simp] theorem after_nil (s : Session) : s.after [] = s := rfl

@[simp] theorem after_cons (s : Session) (c : Call) (calls : List Call) :
    s.after (c :: calls) = (s.next c).after calls := rfl

theorem after_append (s : Session) (calls others : List Call) :
    s.after (calls ++ others) = (s.after calls).after others :=
  List.foldl_append

/-- A call that is not about problems leaves them all as they are. -/
theorem advances_next {c : Call} (hc : ¬c.Edits) (s : Session) :
    Advances (c.Stores ·) (c.Runs ·) s (s.next c) := by
  unfold next
  cases c with
  | defineClass c => exact keeps_discard (keeps_addSolverClass c) s
  | register name given overwrite => exact keeps_register name given overwrite s
  | unregister name => exact keeps_unregister name s
  | changeStore place change => exact keeps_changeStore place change s
  | setCallback r callback => exact keeps_setCallback r callback s
  | notify r i => exact keeps_discard (keeps_notify r i) s
  | minimum r => exact keeps_discard (keeps_minimum rfl rfl) s
  | solve r => exact keeps_solve rfl rfl s
  | store r given => exact keeps_storeOutcome rfl given s
  | reset r => exact keeps_reset rfl s
  | _ => exact absurd trivial hc

/-- One call makes nothing but progress, whether it fails or not. -/
theorem progress_next (s : Session) (c : Call) : Progress (c.Stores ·) (c.Runs ·) s (s.next c) := by
  by_cases hc : c.Edits
  · unfold next
    cases c with
    | declare d => exact keeps_discard (keeps_declare d) s
    | addConstraint r f bounds scales => exact keeps_addConstraint r f bounds scales s
    | setStart r point => exact keeps_change r (fun _ _ h ↦ .start h) s
    | setBound r index bound => exact keeps_change r (fun _ _ h ↦ .bound h) s
    | setBounds r bounds => exact keeps_change r (fun _ _ h ↦ .bounds h) s
    | setScale r index scale => exact keeps_change r (fun _ _ h ↦ .scale h) s
    | freeze r => exact keeps_freeze r s
    | copy r => exact keeps_discard (keeps_copy r) s
    | widen r objectiveClass constraintClasses =>
      exact keeps_discard (keeps_widen r objectiveClass constraintClasses) s
    | build c given => exact keeps_discard (keeps_build c given) s
    | create name parameters given => exact keeps_discard (keeps_create name parameters given) s
    | _ => exact absurd hc id
  · exact .of_advances _ _ (advances_next hc s)

/-- After a run, a solver has another outcome only if one of the calls may have stored one, and has been run
only if one of the calls may have run it. -/
theorem progress_after (s : Session) (calls : List Call) :
    Progress (fun r ↦ ∃ c ∈ calls, c.Stores r) (fun r ↦ ∃ c ∈ calls, c.Runs r) s (s.after calls) := by
  induction calls generalizing s with
  | nil => exact refl_of _ s
  | cons c rest ih =>
    have hfirst : Progress (fun r ↦ ∃ d ∈ c :: rest, d.Stores r) (fun r ↦ ∃ d ∈ c :: rest, d.Runs r)
        s (s.next c) :=
      (progress_next s c).mono (fun _ h ↦ ⟨c, List.mem_cons_self, h⟩)
        (fun _ h ↦ ⟨c, List.mem_cons_self, h⟩)
    have hrest : Progress (fun r ↦ ∃ d ∈ c :: rest, d.Stores r) (fun r ↦ ∃ d ∈ c :: rest, d.Runs r)
        (s.next c) ((s.next c).after rest) :=
      (ih (s.next c)).mono (fun _ ⟨d, hd, h⟩ ↦ ⟨d, List.mem_cons_of_mem c hd, h⟩)
        (fun _ ⟨d, hd, h⟩ ↦ ⟨d, List.mem_cons_of_mem c hd, h⟩)
    rw [after_cons]
    exact trans_of _ hfirst hrest

/-! ## Problems that callers can reach -/

/-- What one call leaves behind. -/
theorem wellFormed_next (hall : ∀ r p, s.problems.get? r = some p → p.WellFormed) (c : Call) :
    ∀ r p, (s.next c).problems.get? r = some p → p.WellFormed :=
  (progress_next s c).problems.wellFormed hall

/-- What calls leave behind, one after the other. -/
theorem wellFormed_after (hall : ∀ r p, s.problems.get? r = some p → p.WellFormed) (calls : List Call) :
    ∀ r p, (s.after calls).problems.get? r = some p → p.WellFormed := by
  induction calls generalizing s with
  | nil => exact hall
  | cons c rest ih => exact ih (wellFormed_next hall c)

/-- Whatever was called since there were no problems, every problem is well-formed. -/
theorem wellFormed_of_reached (hnone : s.problems = {}) (calls : List Call) {r : Ref (Problem Float)}
    {p : Problem Float} (hp : (s.after calls).problems.get? r = some p) : p.WellFormed := by
  apply wellFormed_after _ calls r p hp
  intro r p hfound
  rw [hnone] at hfound
  cases hfound

/-- A problem is declared and gets a constraint, is frozen and refuses a change, and is widened. -/
def widenedOnce : List Call :=
  [.declare { objective := .ok (.constant "level" 1 [2]) },
    .addConstraint ⟨0⟩ (.ok (.constant "level" 1 [2])) (.interval .free) none,
    .freeze ⟨0⟩,
    .setStart ⟨0⟩ none,
    .widen ⟨0⟩ (.ok (some (.tier .value))) none]

/-- What the run adds last. -/
def widenedLast : Problem Float where
  objective := .constant "level" 1 [2]
  objectiveClass := .tier .value
  constraintClasses := [.tier .linear]
  bounds := [Interval.free]
  scales := [1]
  constraints := [⟨.constant "level" 1 [2], [Interval.free], [1]⟩]

/-- The run that widens a problem reaches the widened problem, which is well-formed. -/
theorem wellFormed_widenedLast :
    (({} : Session).after widenedOnce).problems.get? ⟨1⟩ = some widenedLast ∧ widenedLast.WellFormed := by
  have hreached : (({} : Session).after widenedOnce).problems.get? ⟨1⟩ = some widenedLast := by rfl
  exact ⟨hreached, wellFormed_of_reached rfl widenedOnce hreached⟩

end Session

end Extremum
