import Extremum.Proofs.Problem.Mutation
import Mathlib.Data.List.Pairwise
import Mathlib.Data.List.Perm.Basic

/-!
# Problems declared at once and step by step

The bounds, the scales and the starting point of a problem can be declared together with its objective, or be set
afterwards: the bounds at once or argument by argument, the scales argument by argument, in any order. Each step reads
its argument and writes one patch, and patches of different fields, or of different entries of one field, commute. So
all orders lead to one problem, and it is the declared one. Main statement: `declare_eq_ok_iff_stepwise`.
-/

namespace Extremum

/-! ## Patches -/

/-- What a step writes into a problem once its argument has been read. -/
inductive Patch
  | start (x : Option (List Float))
  | bound (i : Nat) (interval : Interval Float)
  | bounds (intervals : List (Interval Float))
  | scale (i : Nat) (x : Float)

namespace Patch

variable {p : Problem Float} {cs ds : List Patch}

def apply (p : Problem Float) : Patch → Problem Float
  | start x => { p with start := x }
  | bound i interval => { p with bounds := p.bounds.set i interval }
  | bounds intervals => { p with bounds := intervals }
  | scale i x => { p with scales := p.scales.set i x }

@[simp] theorem frozen_apply (p : Problem Float) (c : Patch) : (c.apply p).frozen = p.frozen := by
  cases c <;> rfl

@[simp] theorem inputSize_apply (p : Problem Float) (c : Patch) : (c.apply p).inputSize = p.inputSize := by
  cases c <;> rfl

/-- Two patches make one problem in either order. -/
def Commute (c d : Patch) : Prop :=
  ∀ p, d.apply (c.apply p) = c.apply (d.apply p)

instance : Std.Symm Commute where
  symm _ _ h p := (h p).symm

/-- Bounds of different arguments can be written in either order. -/
theorem commute_bound {i j : Nat} (h : i ≠ j) (interval other : Interval Float) :
    Commute (bound i interval) (bound j other) := by
  intro p
  simp only [apply, List.set_comm interval other h]

theorem commute_scale {i j : Nat} (h : i ≠ j) (x y : Float) : Commute (scale i x) (scale j y) := by
  intro p
  simp only [apply, List.set_comm x y h]

/-- Patches that commute make one problem in all orders. -/
theorem foldl_apply_of_perm (hperm : cs.Perm ds) (hcommute : cs.Pairwise Commute) (p : Problem Float) :
    cs.foldl apply p = ds.foldl apply p := by
  have hself : ∀ c ∈ cs, Commute c c := fun _ _ _ ↦ rfl
  have hall := hcommute.forall_of_forall hself
  exact hperm.foldl_eq' (fun c hc d hd q ↦ hall hc hd q) p

/-- A patch for each position, with the items of a list. -/
def each {β : Type} (patch : Nat → β → Patch) (items : List β) : List Patch :=
  items.zipIdx.map fun entry ↦ patch entry.2 entry.1

/-- Patches at different positions commute. -/
theorem pairwise_each {β : Type} {patch : Nat → β → Patch}
    (h : ∀ i j, i ≠ j → ∀ x y, Commute (patch i x) (patch j y)) (items : List β) :
    (each patch items).Pairwise Commute := by
  have hpositions : (items.zipIdx.map Prod.snd).Nodup := by
    rw [List.zipIdx_map_snd]
    exact List.nodup_range'
  have hpairs : items.zipIdx.Pairwise fun entry other ↦ entry.2 ≠ other.2 := List.pairwise_map.1 hpositions
  exact List.pairwise_map.2 (hpairs.imp fun hne ↦ h _ _ hne _ _)

/-- Entries that are set one after the other, up to the last, are in the end the whole list. -/
theorem foldl_set_zipIdx {β : Type} (items front old : List β) (h : old.length = items.length) :
    (items.zipIdx front.length).foldl (fun entries entry ↦ entries.set entry.2 entry.1) (front ++ old) =
      front ++ items := by
  induction items generalizing front old with
  | nil => rw [List.eq_nil_of_length_eq_zero h]; rfl
  | cons item rest ih =>
    obtain ⟨first, others, rfl⟩ := List.exists_cons_of_length_eq_add_one h
    have hset : (front ++ first :: others).set front.length item = (front ++ [item]) ++ others := by
      rw [List.set_append_right _ _ (Nat.le_refl _), Nat.sub_self, List.set_cons_zero, List.append_assoc]
      rfl
    have hlength : front.length + 1 = (front ++ [item]).length := by rw [List.length_append]; rfl
    rw [List.zipIdx_cons, List.foldl_cons]
    dsimp only
    rw [hset, hlength, ih _ others (Nat.succ.inj h), List.append_assoc]
    rfl

/-- A patch for each position puts the items in the place of a list in the problem, if each patch sets one entry. -/
theorem foldl_each {β : Type} {patch : Nat → β → Patch} (withList : List β → Problem Float)
    (hpatch : ∀ entries i item, (patch i item).apply (withList entries) = withList (entries.set i item))
    {old items : List β} (h : old.length = items.length) :
    (each patch items).foldl apply (withList old) = withList items :=
  calc (each patch items).foldl apply (withList old)
      = items.zipIdx.foldl (fun q entry ↦ (patch entry.2 entry.1).apply q) (withList old) := List.foldl_map
    _ = withList (items.zipIdx.foldl (fun entries entry ↦ entries.set entry.2 entry.1) old) :=
      List.foldl_hom withList fun entries entry ↦ hpatch entries entry.2 entry.1
    _ = withList items := congrArg withList (foldl_set_zipIdx items [] old h)

/-- Writing all bounds one after the other is writing them at once. -/
theorem foldl_each_bound {intervals : List (Interval Float)} (h : p.bounds.length = intervals.length) :
    (each bound intervals).foldl apply p = { p with bounds := intervals } :=
  foldl_each (fun bounds ↦ { p with bounds }) (fun _ _ _ ↦ rfl) h

theorem foldl_each_scale {xs : List Float} (h : p.scales.length = xs.length) :
    (each scale xs).foldl apply p = { p with scales := xs } :=
  foldl_each (fun scales ↦ { p with scales }) (fun _ _ _ ↦ rfl) h

end Patch

/-! ## Steps -/

namespace Mutation

variable {p q : Problem Float} {m : Mutation} {steps others : List Mutation} {n : Nat} {c : Patch}

/-- A step that sets bounds, scales or the starting point. -/
def Sets : Mutation → Prop
  | addConstraint .. => False
  | _ => True

/-- What a step writes into an open problem of `n` arguments, if its argument can be read. -/
inductive Writes (n : Nat) : Mutation → Patch → Prop
  | start {point : Option (Reading Float (Tensor Float))} {x : Option (List Float)}
      (h : Problem.readOr none point (fun point ↦ some <$> Problem.readStart n point) = .ok x) :
      Writes n (.setStart point) (.start x)
  | bound {i : Nat} {given : BoundPart Float} {interval : Interval Float} (hi : i < n)
      (h : given.read "argument bound" = .ok interval) : Writes n (.setBound i given) (.bound i interval)
  | bounds {given : Reading Float (List (BoundPart Float))} {intervals : List (Interval Float)}
      (h : Problem.readBounds n given = .ok intervals) : Writes n (.setBounds given) (.bounds intervals)
  | scale {i : Nat} {given : Written Float Float} {x : Float} (hi : i < n)
      (h : readScale "argument scale" given = .ok x) : Writes n (.setScale i given) (.scale i x)

/-- A step succeeds if its argument can be read, and then it writes its patch. -/
theorem apply_eq_ok_iff (hopen : p.frozen = false) (hm : m.Sets) :
    m.apply p = .ok q ↔ ∃ c, m.Writes p.inputSize c ∧ c.apply p = q := by
  cases m with
  | addConstraint f bounds scales => exact hm.elim
  | setStart point =>
    rw [apply, Problem.setStart_eq_ok_iff]
    constructor
    · rintro ⟨-, x, hx, rfl⟩
      exact ⟨.start x, .start hx, rfl⟩
    · rintro ⟨c, hwrites, rfl⟩
      cases hwrites with
      | start hx => exact ⟨hopen, _, hx, rfl⟩
  | setBound index given =>
    rw [apply, Problem.setBound_eq_ok_iff]
    constructor
    · rintro ⟨-, i, ⟨rfl, hi⟩, interval, hread, rfl⟩
      exact ⟨.bound i interval, .bound hi hread, rfl⟩
    · rintro ⟨c, hwrites, rfl⟩
      cases hwrites with
      | bound hi hread => exact ⟨hopen, _, ⟨rfl, hi⟩, _, hread, rfl⟩
  | setBounds given =>
    rw [apply, Problem.setBounds_eq_ok_iff]
    constructor
    · rintro ⟨-, intervals, hread, rfl⟩
      exact ⟨.bounds intervals, .bounds hread, rfl⟩
    · rintro ⟨c, hwrites, rfl⟩
      cases hwrites with
      | bounds hread => exact ⟨hopen, _, hread, rfl⟩
  | setScale index given =>
    rw [apply, Problem.setScale_eq_ok_iff]
    constructor
    · rintro ⟨-, i, ⟨rfl, hi⟩, x, hread, rfl⟩
      exact ⟨.scale i x, .scale hi hread, rfl⟩
    · rintro ⟨c, hwrites, rfl⟩
      cases hwrites with
      | scale hi hread => exact ⟨hopen, _, ⟨rfl, hi⟩, _, hread, rfl⟩

/-- Steps in another order write the same patches in another order, and make the same problem of commuting ones. -/
theorem exists_foldl_of_perm (hperm : steps.Perm others) {cs : List Patch} (hwrites : List.Forall₂ (Writes n) others cs)
    (hcommute : cs.Pairwise Patch.Commute) (p : Problem Float) :
    ∃ ds, List.Forall₂ (Writes n) steps ds ∧ ds.foldl Patch.apply p = cs.foldl Patch.apply p := by
  obtain ⟨ds, hds, hsame⟩ := List.perm_comp_forall₂ hperm hwrites
  have hfold := Patch.foldl_apply_of_perm hsame.symm hcommute p
  exact ⟨ds, hds, hfold.symm⟩

/-- A step for each position, with the items of a list. -/
def each {β : Type} (step : Nat → β → Mutation) (items : List β) : List Mutation :=
  items.zipIdx.map fun entry ↦ step entry.2 entry.1

/-- Steps for all positions write patches for all positions if all their arguments can be read. -/
theorem forall₂_each_iff {β γ : Type} {step : Nat → β → Mutation} {patch : Nat → γ → Patch} {R : β → γ → Prop}
    (hstep : ∀ i < n, ∀ item c, Writes n (step i item) c ↔ ∃ x, R item x ∧ c = patch i x) {items : List β}
    (hlength : items.length ≤ n) {cs : List Patch} :
    List.Forall₂ (Writes n) (each step items) cs ↔ ∃ xs, List.Forall₂ R items xs ∧ cs = Patch.each patch xs := by
  have hfrom (items : List β) (k : Nat) (hk : k + items.length ≤ n) (cs : List Patch) :
      List.Forall₂ (Writes n) ((items.zipIdx k).map fun entry ↦ step entry.2 entry.1) cs ↔
        ∃ xs, List.Forall₂ R items xs ∧ cs = (xs.zipIdx k).map fun entry ↦ patch entry.2 entry.1 := by
    induction items generalizing k cs with
    | nil => simp
    | cons item rest ih =>
      rw [List.length_cons] at hk
      rw [List.zipIdx_cons, List.map_cons, List.forall₂_cons_left_iff]
      constructor
      · rintro ⟨c, ds, hc, hds, rfl⟩
        obtain ⟨x, hx, rfl⟩ := (hstep k (by omega) item c).1 hc
        obtain ⟨xs, hxs, rfl⟩ := (ih (k + 1) (by omega) ds).1 hds
        exact ⟨x :: xs, .cons hx hxs, rfl⟩
      · rintro ⟨ys, hys, rfl⟩
        obtain ⟨x, xs, hx, hxs, rfl⟩ := List.forall₂_cons_left_iff.1 hys
        have hfirst := (hstep k (by omega) item (patch k x)).2 ⟨x, hx, rfl⟩
        have hrest := (ih (k + 1) (by omega) _).2 ⟨xs, hxs, rfl⟩
        exact ⟨_, _, hfirst, hrest, rfl⟩
  exact hfrom items 0 (by omega) cs

/-- Setting a bound writes what is read as an interval. -/
theorem writes_setBound_iff {i : Nat} (hi : i < n) (given : BoundPart Float) (c : Patch) :
    Writes n (.setBound i given) c ↔
      ∃ interval, given.read "argument bound" = .ok interval ∧ c = .bound i interval := by
  constructor
  · intro h
    cases h with
    | bound _ hread => exact ⟨_, hread, rfl⟩
  · rintro ⟨interval, hread, rfl⟩
    exact .bound hi hread

/-- Setting a scale writes what is read as a scale. -/
theorem writes_setScale_iff {i : Nat} (hi : i < n) (given : Written Float Float) (c : Patch) :
    Writes n (.setScale i given) c ↔ ∃ x, readScale "argument scale" given = .ok x ∧ c = .scale i x := by
  constructor
  · intro h
    cases h with
    | scale _ hread => exact ⟨_, hread, rfl⟩
  · rintro ⟨x, hread, rfl⟩
    exact .scale hi hread

/-! ## All bounds, all scales and the starting point -/

variable {bounds : List (BoundPart Float)} {scales : List (Written Float Float)}
  {point : Option (Reading Float (Tensor Float))} {intervals : List (Interval Float)} {xs : List Float}
  {x : Option (List Float)} {cs : List Patch}

abbrev ReadBounds (bounds : List (BoundPart Float)) (intervals : List (Interval Float)) : Prop :=
  List.Forall₂ (fun given interval ↦ given.read "argument bound" = .ok interval) bounds intervals

abbrev ReadScales (scales : List (Written Float Float)) (xs : List Float) : Prop :=
  List.Forall₂ (fun given x ↦ readScale "argument scale" given = .ok x) scales xs

abbrev ReadStart (n : Nat) (point : Option (Reading Float (Tensor Float))) (x : Option (List Float)) : Prop :=
  Problem.readOr none point (fun point ↦ some <$> Problem.readStart n point) = .ok x

/-- A list is read if all its items are, and there are as many as there should be. -/
theorem counted_eq_ok_iff {β γ : Type} {read : β → Except (Error Float) γ} {what : String} {items : List β}
    {results : List γ} :
    (do
      let results ← items.mapM read
      Problem.checkCount what n results
      return results) = .ok results ↔
        List.Forall₂ (fun item y ↦ read item = .ok y) items results ∧ items.length = n := by
  rw [Reading.bind_eq_ok_iff]
  constructor
  · rintro ⟨ys, hread, h⟩
    obtain ⟨u, hcount, h⟩ := Reading.bind_eq_ok_iff.1 h
    cases h
    have hlength := Problem.length_of_checkCount hcount
    exact ⟨Reading.mapM_eq_ok_iff.1 hread, (Reading.length_of_mapM hread).symm.trans hlength⟩
  · rintro ⟨hread, hlength⟩
    refine ⟨results, Reading.mapM_eq_ok_iff.2 hread, ?_⟩
    rw [Problem.checkCount, if_pos (hread.length_eq.symm.trans hlength)]
    rfl

/-- Bounds for `n` arguments are as many intervals that can be read. -/
theorem readBounds_eq_ok_iff :
    Problem.readBounds n (.ok bounds) = .ok intervals ↔ ReadBounds bounds intervals ∧ bounds.length = n :=
  counted_eq_ok_iff

/-- Scales for `n` arguments are as many positive finite numbers. -/
theorem readScales_eq_ok_iff :
    Problem.readScales n (.ok scales) = .ok xs ↔ ReadScales scales xs ∧ scales.length = n :=
  counted_eq_ok_iff

/-- Bounds are set for one argument after the other, or for all of them at once. -/
inductive BoundSteps (bounds : List (BoundPart Float)) : List Mutation → Prop
  | each : BoundSteps bounds (each (fun i given ↦ .setBound i given) bounds)
  | once : BoundSteps bounds [.setBounds (.ok bounds)]

/-- Steps that set the bounds, the scales and the starting point, in any order. -/
def Stepwise (bounds : List (BoundPart Float)) (scales : List (Written Float Float))
    (point : Option (Reading Float (Tensor Float))) (steps : List Mutation) : Prop :=
  ∃ first, BoundSteps bounds first ∧
    steps.Perm (first ++ (each (fun i given ↦ .setScale i given) scales ++ [.setStart point]))

/-- Patches that make intervals the bounds, and that others do not interfere with. -/
structure MakesBounds (intervals : List (Interval Float)) (cs : List Patch) : Prop where
  commute : cs.Pairwise Patch.Commute
  commute_scale : ∀ c ∈ cs, ∀ i x, c.Commute (.scale i x)
  commute_start : ∀ c ∈ cs, ∀ x, c.Commute (.start x)
  result : ∀ p : Problem Float, p.bounds.length = intervals.length →
    cs.foldl Patch.apply p = { p with bounds := intervals }

/-- Bounds that are set for one argument after the other become the bounds. -/
theorem makesBounds_each (intervals : List (Interval Float)) : MakesBounds intervals (Patch.each .bound intervals) where
  commute := Patch.pairwise_each (fun _ _ hne x y ↦ Patch.commute_bound hne x y) intervals
  commute_scale c hc _ _ := by
    obtain ⟨_, -, rfl⟩ := List.mem_map.1 hc
    exact fun _ ↦ rfl
  commute_start c hc _ := by
    obtain ⟨_, -, rfl⟩ := List.mem_map.1 hc
    exact fun _ ↦ rfl
  result _ h := Patch.foldl_each_bound h

/-- Bounds that are set at once become the bounds. -/
theorem makesBounds_once (intervals : List (Interval Float)) : MakesBounds intervals [.bounds intervals] where
  commute := List.pairwise_singleton _ _
  commute_scale c hc _ _ := by
    rw [List.mem_singleton.1 hc]
    exact fun _ ↦ rfl
  commute_start c hc _ := by
    rw [List.mem_singleton.1 hc]
    exact fun _ ↦ rfl
  result _ _ := rfl

/-- In both ways the bounds become what they are read as. -/
theorem BoundSteps.makesBounds {first : List Mutation} (h : BoundSteps bounds first) (hlength : bounds.length = n) :
    (∀ cs, List.Forall₂ (Writes n) first cs → ∃ intervals, ReadBounds bounds intervals ∧ MakesBounds intervals cs) ∧
    ∀ intervals, ReadBounds bounds intervals → ∃ cs, List.Forall₂ (Writes n) first cs ∧ MakesBounds intervals cs := by
  cases h with
  | each =>
    have hiff (cs : List Patch) : List.Forall₂ (Writes n) (Mutation.each (fun i given ↦ .setBound i given) bounds) cs ↔
        ∃ intervals, ReadBounds bounds intervals ∧ cs = Patch.each .bound intervals :=
      forall₂_each_iff (fun _ hi ↦ writes_setBound_iff hi) (Nat.le_of_eq hlength)
    refine ⟨fun cs hcs ↦ ?_, fun intervals hread ↦ ⟨_, (hiff _).2 ⟨intervals, hread, rfl⟩, makesBounds_each intervals⟩⟩
    obtain ⟨intervals, hread, rfl⟩ := (hiff cs).1 hcs
    exact ⟨intervals, hread, makesBounds_each intervals⟩
  | once =>
    refine ⟨fun cs hcs ↦ ?_, fun intervals hread ↦ ⟨[.bounds intervals], ?_, makesBounds_once intervals⟩⟩
    · obtain ⟨c, rest, hc, hrest, rfl⟩ := List.forall₂_cons_left_iff.1 hcs
      cases hrest
      cases hc with
      | bounds hread => exact ⟨_, (readBounds_eq_ok_iff.1 hread).1, makesBounds_once _⟩
    · exact .cons (.bounds (readBounds_eq_ok_iff.2 ⟨hread, hlength⟩)) .nil

/-- The steps in their first order write patches that commute, and make the problem with the bounds, the scales and the
starting point that the arguments are read as. -/
theorem makes_all {cs : List Patch} (hbounds : MakesBounds intervals cs) (xs : List Float) (x : Option (List Float)) :
    (cs ++ (Patch.each .scale xs ++ [Patch.start x])).Pairwise Patch.Commute ∧
    ∀ p : Problem Float, p.bounds.length = intervals.length → p.scales.length = xs.length →
      (cs ++ (Patch.each .scale xs ++ [Patch.start x])).foldl Patch.apply p =
        { p with bounds := intervals, scales := xs, start := x } := by
  constructor
  · have hscales := Patch.pairwise_each (fun _ _ hne x y ↦ Patch.commute_scale hne x y) xs
    rw [List.pairwise_append, List.pairwise_append]
    refine ⟨hbounds.commute, ⟨hscales, List.pairwise_singleton _ _, ?_⟩, ?_⟩
    · rintro c hc d hd
      obtain ⟨_, -, rfl⟩ := List.mem_map.1 hc
      rw [List.mem_singleton.1 hd]
      exact fun _ ↦ rfl
    · rintro c hc d hd
      rcases List.mem_append.1 hd with hd | hd
      · obtain ⟨_, -, rfl⟩ := List.mem_map.1 hd
        exact hbounds.commute_scale c hc _ _
      · rw [List.mem_singleton.1 hd]
        exact hbounds.commute_start c hc x
  · intro p hp hq
    rw [List.foldl_append, List.foldl_append, hbounds.result p hp,
      Patch.foldl_each_scale (p := { p with bounds := intervals }) hq]
    rfl

theorem forall₂_append_left_iff {β γ : Type} {R : β → γ → Prop} {front back : List β} {ys : List γ} :
    List.Forall₂ R (front ++ back) ys ↔ ∃ us vs, List.Forall₂ R front us ∧ List.Forall₂ R back vs ∧ ys = us ++ vs := by
  constructor
  · intro h
    induction front generalizing ys with
    | nil => exact ⟨[], ys, .nil, h, rfl⟩
    | cons item rest ih =>
      obtain ⟨y, zs, hy, hzs, rfl⟩ := List.forall₂_cons_left_iff.1 h
      obtain ⟨us, vs, hus, hvs, rfl⟩ := ih hzs
      exact ⟨y :: us, vs, .cons hy hus, hvs, rfl⟩
  · rintro ⟨us, vs, hus, hvs, rfl⟩
    exact List.rel_append hus hvs

/-- What the steps write in their first order. -/
theorem forall₂_writes_iff {first : List Mutation} (hscales : scales.length = n) :
    List.Forall₂ (Writes n) (first ++ (each (fun i given ↦ .setScale i given) scales ++ [.setStart point])) cs ↔
      ∃ us xs x, List.Forall₂ (Writes n) first us ∧ ReadScales scales xs ∧ ReadStart n point x ∧
        cs = us ++ (Patch.each .scale xs ++ [.start x]) := by
  have hscale (cs : List Patch) : List.Forall₂ (Writes n) (each (fun i given ↦ .setScale i given) scales) cs ↔
      ∃ xs, ReadScales scales xs ∧ cs = Patch.each .scale xs :=
    forall₂_each_iff (fun _ hi ↦ writes_setScale_iff hi) (Nat.le_of_eq hscales)
  rw [forall₂_append_left_iff]
  constructor
  · rintro ⟨us, vs, hus, hvs, rfl⟩
    obtain ⟨ws, ys, hws, hys, rfl⟩ := forall₂_append_left_iff.1 hvs
    obtain ⟨xs, hxs, rfl⟩ := (hscale ws).1 hws
    obtain ⟨c, rest, hc, hrest, rfl⟩ := List.forall₂_cons_left_iff.1 hys
    cases hrest
    cases hc with
    | start hx => exact ⟨us, xs, _, hus, hxs, hx, rfl⟩
  · rintro ⟨us, xs, x, hus, hxs, hx, rfl⟩
    have hstart : List.Forall₂ (Writes n) [.setStart point] [.start x] := .cons (.start hx) .nil
    exact ⟨us, _, hus, List.rel_append ((hscale _).2 ⟨xs, hxs, rfl⟩) hstart, rfl⟩

/-- In whatever order they come, the steps succeed if the arguments can be read. Then they make the problem with the
bounds, the scales and the starting point that these are read as. -/
theorem foldl_stepwise_iff (hsteps : Stepwise bounds scales point steps) (hbounds : bounds.length = n)
    (hscales : scales.length = n) (hp : p.bounds.length = n) (hp' : p.scales.length = n) :
    (∃ cs, List.Forall₂ (Writes n) steps cs ∧ cs.foldl Patch.apply p = q) ↔
      ∃ intervals xs x, ReadBounds bounds intervals ∧ ReadScales scales xs ∧ ReadStart n point x ∧
        { p with bounds := intervals, scales := xs, start := x } = q := by
  obtain ⟨first, hfirst, hperm⟩ := hsteps
  obtain ⟨hread, hmake⟩ := hfirst.makesBounds hbounds
  have hsizes {intervals : List (Interval Float)} {xs : List Float} (hintervals : ReadBounds bounds intervals)
      (hxs : ReadScales scales xs) : p.bounds.length = intervals.length ∧ p.scales.length = xs.length := by
    rw [hp, hp', ← hintervals.length_eq, ← hxs.length_eq]
    exact ⟨hbounds.symm, hscales.symm⟩
  constructor
  · rintro ⟨ds, hds, rfl⟩
    obtain ⟨cs, hcs, hsame⟩ := List.perm_comp_forall₂ hperm.symm hds
    obtain ⟨us, xs, x, hus, hxs, hx, rfl⟩ := (forall₂_writes_iff hscales).1 hcs
    obtain ⟨intervals, hintervals, hmakes⟩ := hread us hus
    obtain ⟨hcommute, hresult⟩ := makes_all hmakes xs x
    obtain ⟨hb, hs⟩ := hsizes hintervals hxs
    refine ⟨intervals, xs, x, hintervals, hxs, hx, ?_⟩
    rw [← hresult p hb hs]
    exact Patch.foldl_apply_of_perm hsame hcommute p
  · rintro ⟨intervals, xs, x, hintervals, hxs, hx, rfl⟩
    obtain ⟨us, hus, hmakes⟩ := hmake intervals hintervals
    obtain ⟨hcommute, hresult⟩ := makes_all hmakes xs x
    obtain ⟨hb, hs⟩ := hsizes hintervals hxs
    have hcs := (forall₂_writes_iff hscales).2 ⟨us, xs, x, hus, hxs, hx, rfl⟩
    obtain ⟨ds, hds, hsame⟩ := exists_foldl_of_perm hperm hcs hcommute p
    exact ⟨ds, hds, hsame.trans (hresult p hb hs)⟩

/-- Nothing but bounds, scales and starting points is set. -/
theorem sets_of_stepwise (hsteps : Stepwise bounds scales point steps) : ∀ m ∈ steps, m.Sets := by
  obtain ⟨first, hfirst, hperm⟩ := hsteps
  intro m hm
  rcases List.mem_append.1 (hperm.mem_iff.1 hm) with hm | hm
  · cases hfirst with
    | each =>
      obtain ⟨_, -, rfl⟩ := List.mem_map.1 hm
      trivial
    | once =>
      rw [List.mem_singleton.1 hm]
      trivial
  · rcases List.mem_append.1 hm with hm | hm
    · obtain ⟨_, -, rfl⟩ := List.mem_map.1 hm
      trivial
    · rw [List.mem_singleton.1 hm]
      trivial

end Mutation

/-! ## Declarations -/

namespace Problem

open Mutation (ReadBounds ReadScales ReadStart)

variable {f : Function Float} {bounds : List (BoundPart Float)} {scales : List (Written Float Float)}
  {point : Option (Reading Float (Tensor Float))} {p : Problem Float}

/-- What is declared with an objective alone. -/
def ofObjective (f : Function Float) : Problem Float where
  objective := f
  objectiveClass := .tier f.tier
  constraintClasses := [.tier f.tier]
  bounds := List.replicate f.inputSize Interval.free
  scales := List.replicate f.inputSize 1

/-- Unless a caller says more, the objective is declared at its own tier, to which it belongs. -/
theorem declare_own (f : Function Float) (bounds : Option (Reading Float (List (BoundPart Float))))
    (scales : Option (Reading Float (List (Written Float Float)))) (point : Option (Reading Float (Tensor Float))) :
    declare { objective := .ok f, bounds, scales, start := point } = (do
      let bounds ← readOr (ofObjective f).bounds bounds (readBounds f.inputSize)
      let scales ← readOr (ofObjective f).scales scales (readScales f.inputSize)
      let start ← readOr none point fun point ↦ some <$> readStart f.inputSize point
      return { ofObjective f with bounds, scales, start }) := by
  have hown : f.isA (.tier f.tier) = true := by
    rw [Function.isA_tier]
    exact f.tier.isSubtier_refl
  change (if f.isA (.tier f.tier) = true then _ else _) = _
  rw [if_pos hown]
  rfl

/-- An objective alone can always be declared. -/
theorem declare_objective (f : Function Float) : declare { objective := .ok f } = .ok (ofObjective f) :=
  declare_own f none none none

/-- A declaration succeeds exactly for parts that can be read, and writes them. -/
theorem declare_eq_ok_iff :
    declare { objective := .ok f, bounds := some (.ok bounds), scales := some (.ok scales), start := point } = .ok p ↔
      bounds.length = f.inputSize ∧ scales.length = f.inputSize ∧ ∃ intervals xs x,
        ReadBounds bounds intervals ∧ ReadScales scales xs ∧ ReadStart f.inputSize point x ∧
        { ofObjective f with bounds := intervals, scales := xs, start := x } = p := by
  rw [declare_own, Reading.bind_eq_ok_iff]
  constructor
  · rintro ⟨intervals, hintervals, h⟩
    obtain ⟨xs, hxs, h⟩ := Reading.bind_eq_ok_iff.1 h
    obtain ⟨x, hx, h⟩ := Reading.bind_eq_ok_iff.1 h
    obtain ⟨hintervals, hbounds⟩ := Mutation.readBounds_eq_ok_iff.1 hintervals
    obtain ⟨hxs, hscales⟩ := Mutation.readScales_eq_ok_iff.1 hxs
    exact ⟨hbounds, hscales, intervals, xs, x, hintervals, hxs, hx, Except.ok.inj h⟩
  · rintro ⟨hbounds, hscales, intervals, xs, x, hintervals, hxs, hx, rfl⟩
    refine ⟨intervals, Mutation.readBounds_eq_ok_iff.2 ⟨hintervals, hbounds⟩, ?_⟩
    refine Reading.bind_eq_ok_iff.2 ⟨xs, Mutation.readScales_eq_ok_iff.2 ⟨hxs, hscales⟩, ?_⟩
    exact Reading.bind_eq_ok_iff.2 ⟨x, hx, rfl⟩

end Problem

/-! ## Sessions -/

namespace Session

variable {s t : Session} {r : Ref (Problem Float)} {p : Problem Float} {m : Mutation} {steps : List Mutation}
  {f : Function Float} {bounds : List (BoundPart Float)} {scales : List (Written Float Float)}
  {point : Option (Reading Float (Tensor Float))}

/-- A step puts the changed problem in the place of the old one. -/
theorem perform_call_of_sets (hp : s.problems.get? r = some p) (hm : m.Sets) :
    perform (m.call r).run s = match m.apply p with
      | .ok q => (.ok (), { s with problems := s.problems.set r q })
      | .error e => (.error e, s) := by
  cases m with
  | addConstraint f bounds scales => exact hm.elim
  | setStart point => exact perform_change hp
  | setBound index given => exact perform_change hp
  | setBounds given => exact perform_change hp
  | setScale index given => exact perform_change hp

/-- Steps succeed one after the other if all of them write a patch, and the problem has these patches then. -/
theorem perform_steps_eq_ok_iff (hp : s.problems.get? r = some p) (hopen : p.frozen = false)
    (hsteps : ∀ m ∈ steps, m.Sets) :
    perform (steps.forM fun m ↦ (m.call r).run) s = (.ok (), t) ↔
      ∃ q, (∃ cs, List.Forall₂ (Mutation.Writes p.inputSize) steps cs ∧ cs.foldl Patch.apply p = q) ∧
        t = { s with problems := s.problems.set r q } := by
  induction steps generalizing s p with
  | nil =>
    have hsame : { s with problems := s.problems.set r p } = s := by rw [Arena.set_eq_self hp]
    constructor
    · intro h
      cases h
      exact ⟨p, ⟨[], .nil, rfl⟩, hsame.symm⟩
    · rintro ⟨q, ⟨cs, hcs, rfl⟩, rfl⟩
      cases hcs
      exact congrArg (Prod.mk _) hsame.symm
  | cons m rest ih =>
    obtain ⟨hm, hrest⟩ := List.forall_mem_cons.1 hsteps
    have hcall := perform_call_of_sets hp hm
    have hcons : (m :: rest).forM (fun m ↦ (m.call r).run) =
      (m.call r).run >>= fun _ ↦ rest.forM fun m ↦ (m.call r).run := rfl
    have hnext (c : Patch) : perform (rest.forM fun m ↦ (m.call r).run)
        { s with problems := s.problems.set r (c.apply p) } = (.ok (), t) ↔
          ∃ q, (∃ cs, List.Forall₂ (Mutation.Writes p.inputSize) rest cs ∧ cs.foldl Patch.apply (c.apply p) = q) ∧
            t = { s with problems := s.problems.set r q } := by
      have hset := Arena.get?_set_self s.problems (c.apply p) p hp
      rw [ih (s := { s with problems := s.problems.set r (c.apply p) }) hset ((c.frozen_apply p).trans hopen) hrest,
        Patch.inputSize_apply]
      simp only [Arena.set_set]
    rw [hcons]
    constructor
    · intro h
      obtain ⟨_, u, hfirst, hthen⟩ := bind_of_ok h
      cases happly : m.apply p with
      | error e =>
        rw [hcall, happly] at hfirst
        cases hfirst
      | ok q =>
        rw [hcall, happly] at hfirst
        cases hfirst
        obtain ⟨c, hwrites, rfl⟩ := (Mutation.apply_eq_ok_iff hopen hm).1 happly
        obtain ⟨q, ⟨cs, hcs, hq⟩, ht⟩ := (hnext c).1 hthen
        exact ⟨q, ⟨c :: cs, .cons hwrites hcs, hq⟩, ht⟩
    · rintro ⟨q, ⟨ds, hds, hq⟩, ht⟩
      obtain ⟨c, cs, hwrites, hcs, rfl⟩ := List.forall₂_cons_left_iff.1 hds
      have happly := (Mutation.apply_eq_ok_iff hopen hm).2 ⟨c, hwrites, rfl⟩
      rw [happly] at hcall
      rw [perform_bind_of_ok hcall]
      exact (hnext c).2 ⟨q, ⟨cs, hcs, hq⟩, ht⟩

/-- A problem is declared with an objective alone, and changed step by step. -/
def declareStepwise (f : Function Float) (steps : List Mutation) : Run (Ref (Problem Float)) := do
  let r ← declare { objective := .ok f }
  steps.forM fun m ↦ (m.call r).run
  return r

/-- A declaration adds what is declared. -/
theorem perform_declare_eq_ok_iff {d : Declaration} : perform (declare d) s = (.ok r, t) ↔
    ∃ p, Problem.declare d = .ok p ∧ r = (s.problems.add p).1 ∧ t = { s with problems := (s.problems.add p).2 } := by
  unfold declare
  rw [perform_bind, perform_lift]
  cases Problem.declare d with
  | error e => simp
  | ok p =>
    constructor
    · intro h
      cases h
      exact ⟨p, rfl, rfl, rfl⟩
    · rintro ⟨q, hq, rfl, rfl⟩
      cases hq
      rfl

/-- Declaring step by step succeeds exactly if every step writes something, and adds the problem that the patches
make. -/
theorem perform_declareStepwise_eq_ok_iff (hsets : ∀ m ∈ steps, m.Sets) :
    perform (declareStepwise f steps) s = (.ok r, t) ↔
      ∃ q, (∃ cs, List.Forall₂ (Mutation.Writes f.inputSize) steps cs ∧
          cs.foldl Patch.apply (Problem.ofObjective f) = q) ∧
        r = (s.problems.add q).1 ∧ t = { s with problems := (s.problems.add q).2 } := by
  let bare := Problem.ofObjective f
  let first : Session := { s with problems := (s.problems.add bare).2 }
  have hfirst : perform (declare { objective := .ok f }) s = (.ok (s.problems.add bare).1, first) :=
    perform_declare_eq_ok_iff.2 ⟨bare, Problem.declare_objective f, rfl, rfl⟩
  have hbare : first.problems.get? (s.problems.add bare).1 = some bare := Arena.get?_add_self _ _
  -- The changed problem stands where the first one was added.
  have hplace (q : Problem Float) : first.problems.set (s.problems.add bare).1 q = (s.problems.add q).2 :=
    Arena.set_add_self _ _ _
  have hsteps (u : Session) := perform_steps_eq_ok_iff (t := u) hbare rfl hsets
  simp only [hplace] at hsteps
  unfold declareStepwise
  rw [perform_bind_of_ok hfirst]
  constructor
  · intro h
    obtain ⟨_, u, hrun, hreturn⟩ := bind_of_ok h
    cases hreturn
    obtain ⟨q, hq, ht⟩ := (hsteps t).1 hrun
    exact ⟨q, hq, rfl, ht⟩
  · rintro ⟨q, hq, rfl, rfl⟩
    exact perform_bind_of_ok ((hsteps _).2 ⟨q, hq, rfl⟩) _

/-- A problem can be declared at once exactly if it can be declared step by step with as many bounds and as many scales
as there are arguments. In whatever order the steps come, the two ways lead to the same problem. -/
theorem declare_eq_ok_iff_stepwise (hsteps : Mutation.Stepwise bounds scales point steps) (f : Function Float)
    (s t : Session) (r : Ref (Problem Float)) :
    perform (declare
        { objective := .ok f, bounds := some (.ok bounds), scales := some (.ok scales), start := point }) s =
          (.ok r, t) ↔
      bounds.length = f.inputSize ∧ scales.length = f.inputSize ∧ perform (declareStepwise f steps) s = (.ok r, t) := by
  have hfold (q : Problem Float) (hbounds : bounds.length = f.inputSize) (hscales : scales.length = f.inputSize) :=
    Mutation.foldl_stepwise_iff (p := Problem.ofObjective f) (q := q) hsteps hbounds hscales List.length_replicate
      List.length_replicate
  rw [perform_declare_eq_ok_iff, perform_declareStepwise_eq_ok_iff (Mutation.sets_of_stepwise hsteps)]
  constructor
  · rintro ⟨q, hq, rfl, rfl⟩
    obtain ⟨hbounds, hscales, hread⟩ := Problem.declare_eq_ok_iff.1 hq
    exact ⟨hbounds, hscales, q, (hfold q hbounds hscales).2 hread, rfl, rfl⟩
  · rintro ⟨hbounds, hscales, q, hq, rfl, rfl⟩
    exact ⟨q, Problem.declare_eq_ok_iff.2 ⟨hbounds, hscales, (hfold q hbounds hscales).1 hq⟩, rfl, rfl⟩

/-- The starting point comes first, then the scales and the bounds, each from the last argument to the first one. -/
theorem declare_eq_ok_iff_stepwise_reversed :
    let f : Function Float := .constant "level" 2 [5]
    let bounds : List (BoundPart Float) := [.pair (.ok 0) (.ok 1), .pair (.ok 2) (.ok 4)]
    let scales : List (Written Float Float) := [⟨.ok 2, "2"⟩, ⟨.ok 3, "3"⟩]
    let point : Option (Reading Float (Tensor Float)) := some (.ok (.vector [1, 3]))
    let steps : List Mutation := [.setStart point, .setScale 1 ⟨.ok 3, "3"⟩, .setScale 0 ⟨.ok 2, "2"⟩,
      .setBound 1 (.pair (.ok 2) (.ok 4)), .setBound 0 (.pair (.ok 0) (.ok 1))]
    Mutation.Stepwise bounds scales point steps ∧
      ∃ t p, perform (declareStepwise f steps) {} = (.ok ⟨0⟩, t) ∧ t.problems.get? ⟨0⟩ = some p ∧
        p.bounds.map (·.upper) = [1, 4] ∧ p.scales = [2, 3] ∧ p.start = some [1, 3] := by
  intro f bounds scales point steps
  have hsteps : Mutation.Stepwise bounds scales point steps := ⟨_, .each, List.reverse_perm steps.reverse⟩
  obtain ⟨t, p, honce, hp, hbounds, hscales, hstart⟩ : ∃ t p,
      perform (declare
        { objective := .ok f, bounds := some (.ok bounds), scales := some (.ok scales), start := point }) {} =
          (.ok ⟨0⟩, t) ∧ t.problems.get? ⟨0⟩ = some p ∧
      p.bounds.map (·.upper) = [1, 4] ∧ p.scales = [2, 3] ∧ p.start = some [1, 3] := ⟨_, _, rfl, rfl, rfl, rfl, rfl⟩
  obtain ⟨-, -, hstepwise⟩ := (declare_eq_ok_iff_stepwise hsteps f {} t ⟨0⟩).1 honce
  exact ⟨hsteps, t, p, hstepwise, hp, hbounds, hscales, hstart⟩

end Session

end Extremum
