import Extremum.Arena
import Extremum.Proofs.Problem.WellFormed
import Mathlib.Logic.Relation

/-!
# Edits of problems

All that can happen to the problems of a session: a new one is added, which is declared or made out of one that
is there, or one that is there is changed. Two properties hold after any number of edits if they hold before:
all problems are well-formed, and a frozen problem is what it is.
-/

namespace Extremum.Problem

/-- What one problem can be changed into. -/
inductive Change (p : Problem Float) : Problem Float → Prop
  | start {q : Problem Float} {point : Option (Reading Float (Tensor Float))}
      (h : p.setStart point = .ok q) : Change p q
  | bound {q : Problem Float} {index : Int} {bound : BoundPart Float}
      (h : p.setBound index bound = .ok q) : Change p q
  | bounds {q : Problem Float} {bounds : Reading Float (List (BoundPart Float))}
      (h : p.setBounds bounds = .ok q) : Change p q
  | scale {q : Problem Float} {index : Int} {scale : Written Float Float}
      (h : p.setScale index scale = .ok q) : Change p q
  | constraint {q : Problem Float} {f : Given (Function Float)} {bounds : BoundsPart Float}
      {scales : Option (ScalesPart Float)} (h : p.addConstraint f bounds scales = .ok q) : Change p q
  | freeze : Change p p.freeze

/-- What can be added to problems. -/
inductive Arises (problems : Arena (Problem Float)) : Problem Float → Prop
  | declared {d : Declaration} {p : Problem Float} (h : declare d = .ok p) : Arises problems p
  | copied {r : Ref (Problem Float)} {p : Problem Float} (hp : problems.get? r = some p) :
      Arises problems p.copy
  | widened {r : Ref (Problem Float)} {p q : Problem Float}
      {objectiveClass : Reading Float (Option FunctionClass)}
      {constraintClasses : Option (Reading Float (List (Reading Float FunctionClass)))}
      (hp : problems.get? r = some p) (h : p.widen objectiveClass constraintClasses = .ok q) :
      Arises problems q

/-- One step of problems. -/
inductive Edit (problems : Arena (Problem Float)) : Arena (Problem Float) → Prop
  | add {p : Problem Float} (h : Arises problems p) : Edit problems (problems.add p).2
  | change {r : Ref (Problem Float)} {p q : Problem Float} (hp : problems.get? r = some p)
      (h : Change p q) : Edit problems (problems.set r q)

/-- Any number of steps of problems. -/
abbrev Edits : Arena (Problem Float) → Arena (Problem Float) → Prop :=
  Relation.ReflTransGen Edit

variable {p q : Problem Float} {problems others : Arena (Problem Float)}

/-! ## Well-formed problems -/

/-- Whatever a problem is changed into, it stays well-formed. -/
theorem Change.wellFormed (hp : p.WellFormed) (h : Change p q) : q.WellFormed := by
  cases h with
  | start h => exact wellFormed_of_setStart hp h
  | bound h => exact wellFormed_of_setBound hp h
  | bounds h => exact wellFormed_of_setBounds hp h
  | scale h => exact wellFormed_of_setScale hp h
  | constraint h => exact wellFormed_of_addConstraint hp h
  | freeze => exact wellFormed_freeze hp

/-- What is added to well-formed problems is well-formed. -/
theorem Arises.wellFormed (hall : ∀ r p, problems.get? r = some p → p.WellFormed)
    (h : Arises problems q) : q.WellFormed := by
  cases h with
  | declared h => exact wellFormed_of_declare h
  | copied hp => exact wellFormed_copy (hall _ _ hp)
  | widened hp h => exact wellFormed_of_widen (hall _ _ hp) h

theorem Edits.wellFormed (h : Edits problems others)
    (hall : ∀ r p, problems.get? r = some p → p.WellFormed) :
    ∀ r p, others.get? r = some p → p.WellFormed := by
  induction h with
  | refl => exact hall
  | tail _ hedit ih =>
    intro r p hp
    cases hedit with
    | add harises =>
      rcases Arena.get?_add_eq_some hp with hold | ⟨-, rfl⟩
      · exact ih r p hold
      · exact harises.wellFormed ih
    | change hchanged hchange =>
      rcases Arena.get?_set_eq_some hp with hold | ⟨-, rfl⟩
      · exact ih r p hold
      · exact hchange.wellFormed (ih _ _ hchanged)

/-! ## Frozen problems -/

theorem checkOpen_of_frozen (hp : p.frozen = true) : p.checkOpen = .error .frozenProblem := by
  rw [checkOpen, hp]
  rfl

/-- Every change of a frozen problem is refused, and freezing it once more does nothing. -/
theorem Change.eq_of_frozen (hp : p.frozen = true) (h : Change p q) : q = p := by
  have hclosed := checkOpen_of_frozen hp
  cases h with
  | start h => rw [setStart, hclosed] at h; cases h
  | bound h => rw [setBound, hclosed] at h; cases h
  | bounds h => rw [setBounds, hclosed] at h; cases h
  | scale h => rw [setScale, hclosed] at h; cases h
  | constraint h => rw [addConstraint.eq_def, hclosed] at h; cases h
  | freeze => exact freeze_of_frozen hp

/-- Frozen problems stay what they are. -/
theorem Edits.get?_of_frozen (h : Edits problems others) {r : Ref (Problem Float)}
    (hr : problems.get? r = some p) (hp : p.frozen = true) : others.get? r = some p := by
  induction h with
  | refl => exact hr
  | tail _ hedit ih =>
    cases hedit with
    | add harises => exact Arena.get?_add_of_get? _ _ _ ih
    | @change s before after hbefore hchange =>
      by_cases hrs : s = r
      · subst hrs
        have hsame : before = p := Option.some.inj (hbefore.symm.trans ih)
        rw [hsame] at hchange
        rw [hchange.eq_of_frozen hp]
        exact Arena.get?_set_self _ _ _ ih
      · rw [Arena.get?_set_of_ne _ _ hrs]
        exact ih

/-! ## Problems that stay -/

theorem Edits.add_freeze (h : Arises problems p) : Edits problems (problems.add p.freeze).2 := by
  have hadded : Edit problems (problems.add p).2 := .add h
  have hfrozen : Edit (problems.add p).2 ((problems.add p).2.set (problems.add p).1 p.freeze) :=
    .change (Arena.get?_add_self problems p) .freeze
  rw [Arena.set_add_self] at hfrozen
  exact (Relation.ReflTransGen.single hadded).tail hfrozen

end Extremum.Problem
