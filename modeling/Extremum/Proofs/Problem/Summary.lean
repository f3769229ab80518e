import Extremum.Proofs.Problem.Feasibility
import Extremum.Proofs.Problem.Lineage
import Extremum.Proofs.Problem.Widening

/-!
# What summaries count

The numbers in the summary of a problem are counted anew from what the problem holds, whenever somebody asks. They
say something about the past nevertheless: there are as many constraints as there were calls that added one, to the
problem or to those that it descends from, and each of these calls has brought a bound for every output. Copies and
widened copies have the summary of their source, but that they are open and that a widened objective may promise
less. Main statement: `summary_of_reached`.
-/

namespace Extremum

/-! ## Tiers in order -/

theorem Tier.idxOf_le_of_isSubtier {t u : Tier} (h : t.isSubtier u = true) :
    Tier.all.idxOf t ≤ Tier.all.idxOf u := by
  revert h
  cases t <;> cases u <;> decide

/-- A more general class is of the same tier or of one that promises less. -/
theorem FunctionClass.isSubtier_leastTier {c d : FunctionClass} (h : c.isSubclass d = true) :
    c.leastTier.isSubtier d.leastTier = true := by
  have hown : d.isSubclass (.tier d.leastTier) = true := by
    rw [isSubclass_tier_iff, Tier.isSubtier_refl]
  rw [← isSubclass_tier_iff]
  exact isSubclass_trans h hown

/-! ## Counts -/

/-- The bounds on the outputs of all constraints. -/
def Problem.constraintBounds (p : Problem Float) : List (Interval Float) :=
  p.constraints.flatMap (·.bounds)

/-- What the numbers in a summary of a problem count, given the calls that have added its constraints. -/
structure Summary.Counts (n : Summary) (p : Problem Float) (added : List Call) : Prop where
  constraints : n.constraints = added.length
  outputs : n.constraintOutputs = (p.constraints.map (·.outputSize)).sum
  bounds : n.constraintOutputs = p.constraintBounds.length
  equalities : n.equalities = (p.constraintBounds.filter fun i ↦ i.lower == i.upper).length
  equalities_le : n.equalities ≤ n.constraintOutputs
  boundedArguments_le : n.boundedArguments ≤ n.inputSize

/-- The summary of a widened problem is that of its source, but for two entries. -/
structure Summary.Widens (n m : Summary) : Prop where
  same : m = { n with frozen := false, objectiveTier := m.objectiveTier }
  /-- The tier promises the same or less. -/
  tier : Tier.all.idxOf n.objectiveTier ≤ Tier.all.idxOf m.objectiveTier

namespace Problem

variable {p q : Problem Float}

/-- There is a bound for every output of every constraint. -/
theorem WellFormed.length_constraintBounds (hp : p.WellFormed) : p.constraintBounds.length = p.constraintOutputs := by
  have hlengths : p.constraints.map (·.bounds.length) = p.constraints.map Constraint.outputSize :=
    List.map_congr_left fun c hc ↦ (hp.constraints c hc).length_bounds
  rw [constraintBounds, List.length_flatMap, hlengths, constraintOutputs_eq_sum]

/-- The numbers in the summary of a well-formed problem are counts of what was added. -/
theorem WellFormed.summary_counts {added : List Call} (hp : p.WellFormed)
    (hadded : List.Forall₂ Constraint.StemsFrom p.constraints added) : p.summary.Counts p added where
  constraints := hadded.length_eq
  outputs := p.constraintOutputs_eq_sum
  bounds := hp.length_constraintBounds.symm
  equalities := List.countP_eq_length_filter
  equalities_le := Nat.le_trans List.countP_le_length (Nat.le_of_eq hp.length_constraintBounds)
  boundedArguments_le := Nat.le_trans List.countP_le_length (Nat.le_of_eq hp.length_bounds)

theorem summary_copy (p : Problem Float) : p.copy.summary = { p.summary with frozen := false } := rfl

/-- The summary of a widened problem can be told from that of its source. -/
theorem Widens.summary (h : p.Widens q) : p.summary.Widens q.summary where
  same := by
    rw [h.copied]
    rfl
  tier := Tier.idxOf_le_of_isSubtier (FunctionClass.isSubtier_leastTier h.objective)

end Problem

/-! ## Summaries in a session -/

namespace Session

variable {s : Session} {r : Ref (Problem Float)} {p : Problem Float}

/-- The summary of every problem that calls have led to counts what they have built. -/
theorem summary_of_reached (hnone : s.problems = {}) (calls : List Call)
    (hp : (s.after calls).problems.get? r = some p) :
    p.summary.Counts p (s.additions calls r) ∧
      (∃ own t q, perform (copy r) (s.after calls) = (.ok own, t) ∧ t.problems.get? own = some q ∧
        q.summary = { p.summary with frozen := false }) ∧
      ∀ o cs own t, perform (widen r o cs) (s.after calls) = (.ok own, t) →
        ∃ q, t.problems.get? own = some q ∧ p.summary.Widens q.summary := by
  have hwf : p.WellFormed := wellFormed_of_reached hnone calls hp
  refine ⟨hwf.summary_counts (accounts_of_reached hnone calls r p hp), ?_, fun o cs own t h ↦ ?_⟩
  · exact ⟨_, _, p.copy, perform_copy hp, Arena.get?_add_self _ _, p.summary_copy⟩
  · rw [perform_widen hp] at h
    cases hwiden : p.widen o cs with
    | error e =>
      rw [hwiden] at h
      cases h
    | ok q =>
      rw [hwiden] at h
      cases h
      exact ⟨q, Arena.get?_add_self _ _, (Problem.widens_of_widen hwf hwiden).summary⟩

def exactlyTwo : Interval Float :=
  ⟨2, 2, Problem.fromZeroToTwo.upper_defined, Problem.fromZeroToTwo.upper_defined, by decide⟩

/-- After `widenedOnce` the widened problem gets an equality, while the frozen one refuses a constraint and what is no
function is refused in any case. The widened problem is copied, and gets another constraint afterwards. -/
def branched : List Call :=
  let level : Given (Function Float) := .ok (.constant "level" 1 [2])
  widenedOnce ++ [
    .addConstraint ⟨1⟩ level (.interval exactlyTwo) none,
    .addConstraint ⟨0⟩ level (.interval .free) none,
    .addConstraint ⟨1⟩ (.error "str") (.interval .free) none,
    .copy ⟨1⟩,
    .addConstraint ⟨1⟩ level (.interval .free) none]

/-- The copy has the two constraints that had been added when it was made, and its source has three. -/
theorem summary_of_reached_branched :
    ∃ p q, (({} : Session).after branched).problems.get? ⟨1⟩ = some p ∧ p.summary.constraints = 3 ∧
      (({} : Session).after branched).problems.get? ⟨2⟩ = some q ∧ q.summary.constraints = 2 ∧
      q.summary.equalities ≤ 2 := by
  obtain ⟨p, hp⟩ : ∃ p, (({} : Session).after branched).problems.get? ⟨1⟩ = some p := ⟨_, by rfl⟩
  obtain ⟨q, hq, houtputs⟩ : ∃ q, (({} : Session).after branched).problems.get? ⟨2⟩ = some q ∧
    q.summary.constraintOutputs = 2 := ⟨_, by rfl, by rfl⟩
  have hsource := (summary_of_reached rfl branched hp).1.constraints
  have hcopy := (summary_of_reached rfl branched hq).1
  refine ⟨p, q, hp, hsource, hq, hcopy.constraints, ?_⟩
  rw [← houtputs]
  exact hcopy.equalities_le

end Session

end Extremum
