import Extremum.Error
import Mathlib.Data.List.Forall2

/-!
# Successful readings

What the success of a chain of readings says about its parts. A chain succeeds exactly when each part does,
and a list of readings succeeds exactly when all of them do, entry by entry.
-/

namespace Extremum.Reading

variable {ε α β : Type}

/-- A chain succeeds exactly if both of its parts do. -/
theorem bind_eq_ok_iff {x : Except ε α} {f : α → Except ε β} {b : β} :
    x >>= f = .ok b ↔ ∃ a, x = .ok a ∧ f a = .ok b := by
  cases x with
  | error e => simp [bind, Except.bind]
  | ok a => simp [bind, Except.bind]

/-- A chain fails with the first failure of its parts. -/
theorem bind_eq_error_iff {x : Except ε α} {f : α → Except ε β} {e : ε} :
    x >>= f = .error e ↔ x = .error e ∨ ∃ a, x = .ok a ∧ f a = .error e := by
  cases x with
  | error e => simp [bind, Except.bind]
  | ok a => simp [bind, Except.bind]

theorem pure_eq_ok_iff {a b : α} : (pure a : Except ε α) = .ok b ↔ a = b := by
  simp [pure, Except.pure]

theorem map_eq_ok_iff {x : Except ε α} {f : α → β} {b : β} :
    f <$> x = .ok b ↔ ∃ a, x = .ok a ∧ f a = b := by
  cases x with
  | error e => simp [Functor.map, Except.map]
  | ok a => simp [Functor.map, Except.map]

/-- A check in front of a chain: the chain succeeds if the check passes and the rest succeeds. -/
theorem ite_throw_eq_ok_iff {c : Prop} [Decidable c] {e : ε} {x : Except ε β} {b : β} :
    (if c then x else (throw e : Except ε α) >>= fun _ ↦ x) = .ok b ↔ c ∧ x = .ok b := by
  by_cases h : c
  · simp [h]
  · simp [h, throw, throwThe, MonadExceptOf.throw, bind, Except.bind]

/-- All elements are read exactly if each of them is, and the answers stand in the order of the elements. -/
theorem mapM_eq_ok_iff {f : α → Except ε β} {xs : List α} {ys : List β} :
    xs.mapM f = .ok ys ↔ List.Forall₂ (fun x y ↦ f x = .ok y) xs ys := by
  induction xs generalizing ys with
  | nil => cases ys <;> simp [pure, Except.pure]
  | cons x xs ih =>
    rw [List.mapM_cons, bind_eq_ok_iff, List.forall₂_cons_left_iff]
    constructor
    · rintro ⟨y, hy, h⟩
      obtain ⟨zs, hzs, heq⟩ := bind_eq_ok_iff.1 h
      cases heq
      exact ⟨y, zs, hy, ih.1 hzs, rfl⟩
    · rintro ⟨y, zs, hy, hzs, rfl⟩
      refine ⟨y, hy, ?_⟩
      rw [ih.2 hzs]
      rfl

theorem length_of_mapM {f : α → Except ε β} {xs : List α} {ys : List β} (h : xs.mapM f = .ok ys) :
    ys.length = xs.length :=
  (mapM_eq_ok_iff.1 h).length_eq.symm

/-- A list of readings that all succeed is read, and what the items say about their results is kept. -/
theorem exists_mapM {f : α → Except ε β} {R : α → β → Prop} {xs : List α}
    (h : ∀ x ∈ xs, ∃ y, f x = .ok y ∧ R x y) : ∃ ys, xs.mapM f = .ok ys ∧ List.Forall₂ R xs ys := by
  induction xs with
  | nil => exact ⟨[], rfl, .nil⟩
  | cons x rest ih =>
    obtain ⟨⟨y, hy, hxy⟩, hrest⟩ := List.forall_mem_cons.1 h
    obtain ⟨ys, hys, hpairs⟩ := ih hrest
    refine ⟨y :: ys, ?_, .cons hxy hpairs⟩
    rw [mapM_eq_ok_iff] at hys ⊢
    exact .cons hy hys

/-- Readings at all positions succeed if each of them does. -/
theorem mapM_range {n : Nat} {f : Nat → Except ε β} {u : Fin n → β} (h : ∀ j : Fin n, f j = .ok (u j)) :
    (List.range n).mapM f = .ok (List.ofFn u) := by
  have hlength : (List.range n).length = (List.ofFn u).length := List.length_range.trans List.length_ofFn.symm
  apply mapM_eq_ok_iff.2
  refine List.forall₂_iff_get.2 ⟨hlength, fun j hj hj' ↦ ?_⟩
  rw [List.get_eq_getElem, List.get_eq_getElem, List.getElem_range, List.getElem_ofFn]
  exact h ⟨j, Nat.lt_of_lt_of_eq hj List.length_range⟩

/-- Readings at all positions succeed exactly if each of them does, and their results are found at these positions. -/
theorem mapM_range_eq_ok_iff {n : Nat} {f : Nat → Except ε β} {ys : List β} :
    (List.range n).mapM f = .ok ys ↔ ys.length = n ∧ ∀ j < n, ∃ y, f j = .ok y ∧ ys[j]? = some y := by
  constructor
  · intro h
    have hlength : ys.length = n := (length_of_mapM h).trans List.length_range
    obtain ⟨-, hpairs⟩ := List.forall₂_iff_get.1 (mapM_eq_ok_iff.1 h)
    refine ⟨hlength, fun j hj ↦ ?_⟩
    have hrange : j < (List.range n).length := Nat.lt_of_lt_of_eq hj List.length_range.symm
    have hentry : j < ys.length := Nat.lt_of_lt_of_eq hj hlength.symm
    have hread := hpairs j hrange hentry
    rw [List.get_eq_getElem, List.get_eq_getElem, List.getElem_range] at hread
    exact ⟨_, hread, List.getElem?_eq_getElem hentry⟩
  · rintro ⟨rfl, h⟩
    have hread : ∀ j : Fin ys.length, f j = .ok ys[j] := by
      intro j
      obtain ⟨y, hy, hentry⟩ := h j j.isLt
      rw [hy, Except.ok.injEq]
      exact (List.getElem?_eq_some_iff.1 hentry).2.symm
    rw [mapM_range hread]
    exact congrArg Except.ok List.ofFn_getElem

/-- Whatever every success of a reader has, all results of reading a list have. -/
theorem forall_of_mapM {f : α → Except ε β} {P : β → Prop} (hf : ∀ x y, f x = .ok y → P y)
    {xs : List α} {ys : List β} (h : xs.mapM f = .ok ys) : ∀ y ∈ ys, P y := by
  have hpairs := mapM_eq_ok_iff.1 h
  clear h
  induction hpairs with
  | nil => simp
  | cons hxy _ ih =>
    intro z hz
    rcases List.mem_cons.1 hz with rfl | hz
    · exact hf _ _ hxy
    · exact ih z hz

/-- Checks pass one after the other if all of them pass. -/
theorem forM_eq_ok_iff {f : α → Except ε Unit} {xs : List α} :
    xs.forM f = .ok () ↔ ∀ x ∈ xs, f x = .ok () := by
  induction xs with
  | nil => simp [pure, Except.pure]
  | cons x rest ih =>
    have hcons : (x :: rest).forM f = f x >>= fun _ ↦ rest.forM f := rfl
    rw [hcons, bind_eq_ok_iff, List.forall_mem_cons, ih]
    exact ⟨fun ⟨(), h⟩ ↦ h, fun h ↦ ⟨(), h⟩⟩

/-- The first check that fails decides what several of them fail with. -/
theorem forM_eq_error {f : α → Except ε Unit} {xs : List α} {x : α} {k : Nat} {e : ε}
    (hbefore : ∀ j y, j < k → xs[j]? = some y → f y = .ok ()) (hx : xs[k]? = some x) (hfails : f x = .error e) :
    xs.forM f = .error e := by
  induction xs generalizing k with
  | nil => cases hx
  | cons y rest ih =>
    have hcons : (y :: rest).forM f = f y >>= fun _ ↦ rest.forM f := rfl
    rw [hcons]
    cases k with
    | zero =>
      cases hx
      rw [hfails]
      rfl
    | succ k =>
      rw [hbefore 0 y k.succ_pos rfl]
      exact ih (fun j z hj hz ↦ hbefore (j + 1) z (Nat.succ_lt_succ hj) hz) hx

/-- The results of a list of readings are those of its items. -/
theorem mem_iff_of_mapM {f : α → Except ε β} {xs : List α} {ys : List β} (h : xs.mapM f = .ok ys) {z : β} :
    z ∈ ys ↔ ∃ x ∈ xs, f x = .ok z := by
  have hpairs := mapM_eq_ok_iff.1 h
  clear h
  induction hpairs with
  | nil => simp
  | @cons x y xs ys hxy _ ih =>
    have hhead : z = y ↔ f x = .ok z := by
      rw [hxy, Except.ok.injEq, eq_comm]
    calc z ∈ y :: ys ↔ f x = .ok z ∨ ∃ x ∈ xs, f x = .ok z := List.mem_cons.trans (or_congr hhead ih)
      _ ↔ ∃ x' ∈ x :: xs, f x' = .ok z := (List.exists_mem_cons_iff (fun x' ↦ f x' = .ok z) x xs).symm

/-- If a list of readings succeeds, each of its items does. -/
theorem exists_of_mapM {f : α → Except ε β} {xs : List α} {ys : List β} (h : xs.mapM f = .ok ys) {x : α}
    (hx : x ∈ xs) : ∃ y, f x = .ok y := by
  have hpairs := mapM_eq_ok_iff.1 h
  clear h
  induction hpairs with
  | nil => cases hx
  | cons hxy _ ih =>
    cases hx with
    | head => exact ⟨_, hxy⟩
    | tail _ hrest => exact ih hrest

end Extremum.Reading
