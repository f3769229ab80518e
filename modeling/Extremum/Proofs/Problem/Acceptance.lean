import Extremum.Proofs.Problem.Mutation
import Extremum.Value.Parts

/-!
# Which constraints a problem accepts

A caller adds a constraint with any three values: a function, bounds and scales. A pair may be one bound or a sequence
of two, and what it is depends on what is in it. Here is said, value by value, which bounds and scales these are, and
for which functions they will do; the readers of the library find the same (`readConstraint_eq_ok_iff`). Main
statement: `adds_of_open`, for every open problem of a session.
-/

namespace Extremum

/-! ## Bounds and scales as values -/

namespace Value

/-- A value is one bound: an interval, or a pair that converts to two defined limits in the right order. -/
inductive IsBound : Value → Interval Float → Prop
  | interval (i : Interval Float) : IsBound (.interval i) i
  | pair {first second : Value} {lower upper : Float} (hfirst : first.toFloat = .ok lower)
      (hsecond : second.toFloat = .ok upper) (hlower : lower.isNaN = false) (hupper : upper.isNaN = false)
      (hle : lower ≤ upper) :
      IsBound (.tuple [first, second]) ⟨lower, upper, hlower, hupper, (Binary64.le_iff_not_lt hlower hupper).1 hle⟩

/-- A value counts as a single bound: an interval, or a tuple that has something else than intervals and tuples. -/
def IsSingle (v : Value) : Prop :=
  (∃ i, v = .interval i) ∨ ∃ items, v = .tuple items ∧ ∃ item ∈ items, (∀ i, item ≠ .interval i) ∧ ∀ t, item ≠ .tuple t

/-- The bounds, one by one, that a value counts as: it alone, or what it is a sequence of. -/
inductive BoundEntries (s : Session) (v : Value) : List Value → Prop
  | single (h : v.IsSingle) : BoundEntries s v [v]
  | listed {entries : List Value} (h : ¬v.IsSingle) (hentries : v.items s = .ok entries) : BoundEntries s v entries

/-- A value converts to a scale. -/
def IsScaleOf (v : Value) (x : Float) : Prop :=
  v.toFloat = .ok x ∧ IsScale x

/-- The scales of `m` outputs that a value stands for: all one if it is absent, a single one if it is a real number, and
otherwise those that it is a sequence of. -/
inductive ScaleEntries (s : Session) (m : Nat) : Value → List Float → Prop
  | absent : ScaleEntries s m .none (List.replicate m 1)
  | number {v : Value} {x : Float} (hreal : v.isReal = true) (hx : v.IsScaleOf x) : ScaleEntries s m v [x]
  | listed {v : Value} {entries : List Value} {xs : List Float} (hpresent : v ≠ .none) (hreal : v.isReal = false)
      (hentries : v.items s = .ok entries) (hxs : List.Forall₂ IsScaleOf entries xs) : ScaleEntries s m v xs

variable {s : Session} {v : Value}

/-- Reading a bound succeeds exactly for values that are one. -/
theorem read_boundPart_iff {what : String} {i : Interval Float} : v.boundPart.read what = .ok i ↔ v.IsBound i := by
  constructor
  · intro h
    unfold boundPart at h
    split at h
    · cases h
      exact .interval i
    · rename_i first second
      obtain ⟨lower, hlower, h⟩ := Reading.bind_eq_ok_iff.1 h
      obtain ⟨upper, hupper, h⟩ := Reading.bind_eq_ok_iff.1 h
      obtain ⟨rfl, rfl⟩ := Interval.ofLimits_eq_ok_iff.1 h
      obtain ⟨hdefined, hdefined', hle⟩ := i.proper
      exact .pair hlower hupper hdefined hdefined' hle
    · cases h
    · cases h
  · intro h
    cases h with
    | interval i => rfl
    | pair hfirst hsecond hlower hupper hle =>
      refine Reading.bind_eq_ok_iff.2 ⟨_, hfirst, Reading.bind_eq_ok_iff.2 ⟨_, hsecond, ?_⟩⟩
      exact Interval.ofLimits_eq_ok_iff.2 ⟨rfl, rfl⟩

theorem isBoundLike_boundPart_eq_false_iff :
    v.boundPart.isBoundLike = false ↔ (∀ i, v ≠ .interval i) ∧ ∀ t, v ≠ .tuple t := by
  unfold boundPart
  split <;> simp_all [BoundPart.isBoundLike]

theorem isSingle_tuple_iff {items : List Value} :
    (tuple items).IsSingle ↔ (items.map boundPart).all (·.isBoundLike) = false := by
  rw [List.all_map, List.all_eq_false]
  constructor
  · rintro (⟨i, hi⟩ | ⟨items', hitems, item, hitem, hneither⟩)
    · cases hi
    · cases hitems
      have hlike := isBoundLike_boundPart_eq_false_iff.2 hneither
      exact ⟨item, hitem, by rw [Function.comp_apply, hlike]; exact Bool.false_ne_true⟩
  · rintro ⟨item, hitem, hlike⟩
    exact .inr ⟨items, rfl, item, hitem, isBoundLike_boundPart_eq_false_iff.1 (Bool.eq_false_iff.2 hlike)⟩

/-- What counts as a single bound is read as one. -/
theorem items_boundsPart_of_isSingle (h : v.IsSingle) : (v.boundsPart s).items = .ok [v.boundPart] := by
  obtain ⟨i, rfl⟩ | ⟨items, rfl, hitem⟩ := id h
  · rfl
  · change Except.ok (if (items.map boundPart).all (·.isBoundLike) = true then _ else _) = _
    rw [if_neg (by rw [isSingle_tuple_iff.1 h]; exact Bool.false_ne_true)]

/-- Anything else is read item by item. -/
theorem items_boundsPart_of_not_isSingle (h : ¬v.IsSingle) :
    (v.boundsPart s).items = (v.items s).map (·.map boundPart) := by
  cases v with
  | interval i => exact absurd (.inl ⟨i, rfl⟩) h
  | tuple items =>
    change Except.ok (if (items.map boundPart).all (·.isBoundLike) = true then _ else _) = _
    rw [isSingle_tuple_iff, Bool.not_eq_false] at h
    rw [if_pos h]
    rfl
  | _ => rfl

/-- The bounds that the reader finds are those that a value counts as. -/
theorem items_boundsPart_iff {parts : List (BoundPart Float)} :
    (v.boundsPart s).items = .ok parts ↔ ∃ entries, v.BoundEntries s entries ∧ entries.map boundPart = parts := by
  by_cases hsingle : v.IsSingle
  · rw [items_boundsPart_of_isSingle hsingle]
    constructor
    · intro h
      cases h
      exact ⟨[v], .single hsingle, rfl⟩
    · rintro ⟨entries, hentries, rfl⟩
      cases hentries with
      | single => rfl
      | listed h => exact absurd hsingle h
  · rw [items_boundsPart_of_not_isSingle hsingle]
    constructor
    · intro h
      obtain ⟨entries, hentries, rfl⟩ := Reading.map_eq_ok_iff.1 h
      exact ⟨entries, .listed hsingle hentries, rfl⟩
    · rintro ⟨entries, hentries, rfl⟩
      cases hentries with
      | single h => exact absurd h hsingle
      | listed _ hentries => exact Reading.map_eq_ok_iff.2 ⟨entries, hentries, rfl⟩

/-- Reading a scale succeeds exactly for positive finite numbers. -/
theorem readScale_iff {what : String} {scale : Written Float Float} {x : Float} :
    readScale what scale = .ok x ↔ scale.value = .ok x ∧ IsScale x := by
  constructor
  · intro h
    refine ⟨?_, isScale_of_readScale h⟩
    obtain ⟨value, hvalue, h⟩ := Reading.bind_eq_ok_iff.1 h
    split at h
    · cases h
      exact hvalue
    · cases h
  · rintro ⟨hvalue, hfinite, hpositive⟩
    have hdefined : x.isNaN = false := Binary64.isNaN_of_isFinite hfinite
    have hle : ¬x ≤ 0 := (Binary64.lt_iff_not_le (by decide) hdefined).1 hpositive
    have hcheck : (Scalar.isFinite x && !(x ≤ 0 : Bool)) = true := by
      rw [decide_eq_false hle]
      exact Bool.and_eq_true_iff.2 ⟨hfinite, rfl⟩
    refine Reading.bind_eq_ok_iff.2 ⟨x, hvalue, ?_⟩
    rw [if_pos hcheck]
    rfl

theorem scalesPart_of_ne_none (h : v ≠ .none) : v.scalesPart s =
    some (if v.isReal then .number (v.scalePart s) else .sequence (v.argumentScalesPart s)) := by
  cases v with
  | none => exact absurd rfl h
  | _ => rfl

theorem mapM_scalePart_iff {what : String} {entries : List Value} {xs : List Float} :
    (entries.map (scalePart s)).mapM (readScale what) = .ok xs ↔ List.Forall₂ IsScaleOf entries xs := by
  rw [Reading.mapM_eq_ok_iff, List.forall₂_map_left_iff]
  have hentry (entry : Value) (x : Float) : readScale what (entry.scalePart s) = .ok x ↔ entry.IsScaleOf x :=
    readScale_iff
  simp only [hentry]

/-- The scales that the reader finds are those that a value stands for. -/
theorem read_scalesPart_iff {m : Nat} {what : String} {xs : List Float} :
    Problem.readOr (List.replicate m 1) (v.scalesPart s) (fun scales ↦ do
      (← scales.items).mapM (readScale what)) = .ok xs ↔ v.ScaleEntries s m xs := by
  by_cases hnone : v = .none
  · subst hnone
    constructor
    · intro h
      cases h
      exact .absent
    · intro h
      cases h with
      | absent => rfl
      | number hreal => cases hreal
      | listed hpresent => exact absurd rfl hpresent
  · rw [scalesPart_of_ne_none hnone]
    cases hreal : v.isReal with
    | true =>
      have hread : ([v].map (scalePart s)).mapM (readScale what) = .ok xs ↔ List.Forall₂ IsScaleOf [v] xs :=
        mapM_scalePart_iff
      constructor
      · intro h
        obtain ⟨x, rest, hx, hrest, rfl⟩ := List.forall₂_cons_left_iff.1 (hread.1 h)
        cases hrest
        exact .number hreal hx
      · intro h
        cases h with
        | absent => exact absurd rfl hnone
        | number _ hx => exact hread.2 (.cons hx .nil)
        | listed _ hnot => cases hreal.symm.trans hnot
    | false =>
      constructor
      · intro h
        obtain ⟨parts, hparts, h⟩ := Reading.bind_eq_ok_iff.1 h
        obtain ⟨entries, hentries, rfl⟩ := Reading.map_eq_ok_iff.1 hparts
        exact .listed hnone hreal hentries (mapM_scalePart_iff.1 h)
      · intro h
        cases h with
        | absent => exact absurd rfl hnone
        | number hyes => cases hreal.symm.trans hyes
        | listed _ _ hentries hxs =>
          have hparts : v.argumentScalesPart s = .ok _ := Reading.map_eq_ok_iff.2 ⟨_, hentries, rfl⟩
          exact Reading.bind_eq_ok_iff.2 ⟨_, hparts, mapM_scalePart_iff.2 hxs⟩

/-- Nothing but a function is read as one. -/
theorem functionPart_eq_ok_iff {f : Function Float} : v.functionPart s = .ok f ↔ v = .function f := by
  constructor
  · intro h
    unfold functionPart at h
    split at h
    · cases h
      rfl
    · cases h
  · rintro rfl
    rfl

end Value

/-! ## Constraints -/

/-- What three values make a constraint of a problem: a function that constraints may be, of as many arguments as the
problem has, with one bound and one scale for each of its outputs. -/
structure Problem.Accepts (s : Session) (p : Problem Float) (f bounds scales : Value) (c : Constraint Float) :
    Prop where
  function : f = .function c.function
  permitted : ∃ d ∈ p.constraintClasses, c.function.isA d = true
  inputs : c.function.inputSize = p.inputSize
  bounds : ∃ entries, bounds.BoundEntries s entries ∧ List.Forall₂ Value.IsBound entries c.bounds
  length_bounds : c.bounds.length = c.function.outputSize
  scales : scales.ScaleEntries s c.function.outputSize c.scales
  length_scales : c.scales.length = c.function.outputSize

namespace Problem

variable {s : Session} {p q : Problem Float} {f bounds scales : Value} {g : Function Float} {c : Constraint Float}

/-- What is read as a constraint of a function. -/
theorem readConstraint_eq_ok_iff : readConstraint g (bounds.boundsPart s) (scales.scalesPart s) = .ok c ↔
    c.function = g ∧ (∃ entries, bounds.BoundEntries s entries ∧ List.Forall₂ Value.IsBound entries c.bounds) ∧
      c.bounds.length = g.outputSize ∧ scales.ScaleEntries s g.outputSize c.scales ∧
      c.scales.length = g.outputSize := by
  have hread (entries : List Value) (intervals : List (Interval Float)) :
      (entries.map Value.boundPart).mapM (BoundPart.read "constraint bound") = .ok intervals ↔
        List.Forall₂ Value.IsBound entries intervals := by
    rw [Reading.mapM_eq_ok_iff, List.forall₂_map_left_iff]
    simp only [Value.read_boundPart_iff]
  unfold readConstraint
  rw [Reading.bind_eq_ok_iff]
  constructor
  · rintro ⟨parts, hparts, h⟩
    obtain ⟨intervals, hintervals, h⟩ := Reading.bind_eq_ok_iff.1 h
    dsimp only at h
    obtain ⟨hbounds, h⟩ := Reading.ite_throw_eq_ok_iff.1 h
    obtain ⟨xs, hxs, h⟩ := Reading.bind_eq_ok_iff.1 h
    obtain ⟨hscales, h⟩ := Reading.ite_throw_eq_ok_iff.1 h
    cases h
    obtain ⟨entries, hentries, rfl⟩ := Value.items_boundsPart_iff.1 hparts
    exact ⟨rfl, ⟨entries, hentries, (hread _ _).1 hintervals⟩, hbounds, Value.read_scalesPart_iff.1 hxs, hscales⟩
  · rintro ⟨rfl, ⟨entries, hentries, hintervals⟩, hbounds, hxs, hscales⟩
    refine ⟨_, Value.items_boundsPart_iff.2 ⟨entries, hentries, rfl⟩, ?_⟩
    refine Reading.bind_eq_ok_iff.2 ⟨c.bounds, (hread _ _).2 hintervals, ?_⟩
    refine Reading.ite_throw_eq_ok_iff.2 ⟨hbounds, ?_⟩
    refine Reading.bind_eq_ok_iff.2 ⟨c.scales, Value.read_scalesPart_iff.2 hxs, ?_⟩
    exact Reading.ite_throw_eq_ok_iff.2 ⟨hscales, rfl⟩

/-- What is asked of three values makes an open problem take them, and it takes nothing else. -/
theorem addConstraint_eq_ok_iff_accepts (hopen : p.frozen = false) :
    p.addConstraint (f.functionPart s) (bounds.boundsPart s) (scales.scalesPart s) = .ok q ↔
      ∃ c, p.Accepts s f bounds scales c ∧ { p with constraints := p.constraints ++ [c] } = q := by
  rw [addConstraint_eq_ok_iff]
  constructor
  · rintro ⟨-, g, hg, hpermitted, hinputs, c, hread, rfl⟩
    obtain ⟨rfl, hbounds, hcount, hscales, hcount'⟩ := readConstraint_eq_ok_iff.1 hread
    have hfunction := Value.functionPart_eq_ok_iff.1 hg
    exact ⟨c, ⟨hfunction, List.any_eq_true.1 hpermitted, hinputs, hbounds, hcount, hscales, hcount'⟩, rfl⟩
  · rintro ⟨c, haccepts, rfl⟩
    have hread := readConstraint_eq_ok_iff.2 ⟨rfl, haccepts.bounds, haccepts.length_bounds, haccepts.scales,
      haccepts.length_scales⟩
    exact ⟨hopen, c.function, Value.functionPart_eq_ok_iff.2 haccepts.function, List.any_eq_true.2 haccepts.permitted,
      haccepts.inputs, c, hread, rfl⟩

/-- Three values make one constraint at most. -/
theorem Accepts.unique {c' : Constraint Float} (h : p.Accepts s f bounds scales c)
    (h' : p.Accepts s f bounds scales c') : c = c' := by
  have hadded {c : Constraint Float} (h : p.Accepts s f bounds scales c) :
      p.unfreeze.addConstraint (f.functionPart s) (bounds.boundsPart s) (scales.scalesPart s) =
        .ok { p.unfreeze with constraints := p.constraints ++ [c] } :=
    (addConstraint_eq_ok_iff_accepts rfl).2 ⟨c, ⟨h.1, h.2, h.3, h.4, h.5, h.6, h.7⟩, rfl⟩
  have hsame := congrArg Problem.constraints (Except.ok.inj ((hadded h).symm.trans (hadded h')))
  exact List.singleton_inj.1 (List.append_cancel_left hsame)

end Problem

/-! ## Sessions -/

namespace Session

variable {s : Session} {r : Ref (Problem Float)} {p : Problem Float}

/-- A call that adds a constraint to a problem with three values of a caller. -/
def constrain (r : Ref (Problem Float)) (f bounds scales : Value) : Run Unit := do
  let s ← get
  addConstraint r (f.functionPart s) (bounds.boundsPart s) (scales.scalesPart s)

/-- What the session is once a constraint has been added to a problem, which is reported. -/
def withConstraint (s : Session) (r : Ref (Problem Float)) (p : Problem Float) (c : Constraint Float) : Session where
  __ := s
  problems := s.problems.set r { p with constraints := p.constraints ++ [c] }
  log := s.log.debug (Logging.rootName ++ ".problem.core")
    ("Added constraint " ++ toString p.constraints.length ++ ": " ++ c.function.text)

/-- What comes of such a call. It succeeds exactly for values that make a constraint, which is one. It is then the last
constraint of the problem, and nothing else is changed but the log. A call that fails changes nothing. -/
structure Adds (r : Ref (Problem Float)) (p : Problem Float) (f bounds scales : Value) (s : Session) : Prop where
  succeeds : (∃ t, perform (constrain r f bounds scales) s = (.ok (), t)) ↔ ∃ c, p.Accepts s f bounds scales c
  unique : ∀ c c', p.Accepts s f bounds scales c → p.Accepts s f bounds scales c' → c = c'
  adds : ∀ c, p.Accepts s f bounds scales c →
    perform (constrain r f bounds scales) s = (.ok (), s.withConstraint r p c)
  fails : ∀ e t, perform (constrain r f bounds scales) s = (.error e, t) → t = s

/-- What makes a constraint of an open problem is added to it. -/
theorem perform_constrain (hp : s.problems.get? r = some p) (hopen : p.frozen = false) {f bounds scales : Value}
    {c : Constraint Float} (h : p.Accepts s f bounds scales c) :
    perform (constrain r f bounds scales) s = (.ok (), s.withConstraint r p c) := by
  have hadded := (Problem.addConstraint_eq_ok_iff_accepts hopen).2 ⟨c, h, rfl⟩
  have hlast : (p.constraints ++ [c]).getLast? = some c := List.getLast?_concat
  have hcount : (p.constraints ++ [c]).length - 1 = p.constraints.length := by
    rw [List.length_append, List.length_singleton, Nat.add_sub_cancel]
  unfold constrain addConstraint
  rw [perform_bind_of_ok (perform_get s), perform_bind_of_ok (perform_problem hp), hadded,
    perform_bind_of_ok (perform_lift _ _), perform_bind_of_ok (perform_setProblem _ _ _)]
  dsimp only
  rw [hlast, hcount]
  rfl

/-- An open problem accepts the values that make a constraint and no others. -/
theorem adds_of_open (hp : s.problems.get? r = some p) (hopen : p.frozen = false) (f bounds scales : Value) :
    Adds r p f bounds scales s := by
  have hcall := perform_mutation hp (.addConstraint (f.functionPart s) (bounds.boundsPart s) (scales.scalesPart s))
  have hrun : perform (constrain r f bounds scales) s =
      perform (Mutation.addConstraint (f.functionPart s) (bounds.boundsPart s) (scales.scalesPart s) |>.call r).run s :=
    perform_bind_of_ok (perform_get s) _
  rw [← hrun] at hcall
  constructor
  case succeeds =>
    constructor
    · rintro ⟨t, ht⟩
      obtain ⟨e, -, hfails⟩ | ⟨q, log, hmutated, -⟩ := hcall
      · cases hfails.symm.trans ht
      · obtain ⟨c, hc, -⟩ := (Problem.addConstraint_eq_ok_iff_accepts hopen).1 hmutated
        exact ⟨c, hc⟩
    · rintro ⟨c, hc⟩
      exact ⟨_, perform_constrain hp hopen hc⟩
  case unique => exact fun c c' hc hc' ↦ hc.unique hc'
  case adds => exact fun c hc ↦ perform_constrain hp hopen hc
  case fails =>
    intro e t ht
    obtain ⟨e', -, hfails⟩ | ⟨q, log, -, hadds⟩ := hcall
    · cases hfails.symm.trans ht
      rfl
    · cases hadds.symm.trans ht

/-- Two bounds for a function of two outputs: a pair of a pair and an interval will do, and a pair of numbers, which is
one bound, will not. -/
theorem adds_of_open_pairs :
    let s : Session := { problems := ⟨[widenedLast]⟩ }
    let f := Value.function (.constant "levels" 1 [2, 3])
    let pair := Value.tuple [.bool false, .float 1]
    let scales := Value.list [.float 2, .bool true]
    (∃ t, perform (constrain ⟨0⟩ f (.tuple [pair, .interval .free]) scales) s = (.ok (), t)) ∧
      ¬∃ t, perform (constrain ⟨0⟩ f pair scales) s = (.ok (), t) := by
  intro s f pair scales
  have hp : s.problems.get? ⟨0⟩ = some widenedLast := rfl
  constructor
  · have hpair : pair.IsBound ⟨0, 1, by decide, by decide, by decide⟩ :=
      .pair rfl rfl (by decide) (by decide) (by decide)
    have hseveral : ¬(Value.tuple [pair, .interval .free]).IsSingle := by
      rw [Value.isSingle_tuple_iff]
      exact Bool.noConfusion
    have hscales : List.Forall₂ Value.IsScaleOf [.float 2, .bool true] [2, 1] :=
      .cons ⟨rfl, by constructor <;> decide⟩ (.cons ⟨rfl, isScale_one⟩ .nil)
    have haccepts : widenedLast.Accepts s f (.tuple [pair, .interval .free]) scales
        ⟨.constant "levels" 1 [2, 3], [⟨0, 1, by decide, by decide, by decide⟩, .free], [2, 1]⟩ :=
      { function := rfl
        permitted := ⟨_, List.mem_singleton_self _, rfl⟩
        inputs := rfl
        bounds := ⟨_, .listed hseveral rfl, .cons hpair (.cons (.interval _) .nil)⟩
        length_bounds := Eq.refl 2
        scales := .listed nofun rfl rfl hscales
        length_scales := Eq.refl 2 }
    exact (adds_of_open hp rfl _ _ _).succeeds.2 ⟨_, haccepts⟩
  · rw [(adds_of_open hp rfl _ _ _).succeeds]
    rintro ⟨c, haccepts⟩
    have hsingle : pair.IsSingle := Value.isSingle_tuple_iff.2 rfl
    have hfunction := Value.function.inj haccepts.function
    obtain ⟨entries, hentries, hbounds⟩ := haccepts.bounds
    cases hentries with
    | single =>
      have hlength := hbounds.length_eq.trans haccepts.length_bounds
      rw [← hfunction] at hlength
      cases hlength
    | listed hnot => exact hnot hsingle

end Session

end Extremum
