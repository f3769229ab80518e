import Mathlib.Algebra.MvPolynomial.PDeriv
import Mathlib.RingTheory.Derivation.Lie
import Mathlib.Tactic.Ring
import Extremum.Function.Evaluation
import Extremum.Proofs.Exact.Coordinates
import Extremum.Proofs.Reading

/-!
# Expressions and polynomials

An expression made of constants and components by sums, differences and products stands for a polynomial. Its value is
the value of the polynomial, its formal derivative stands for the partial derivative (`Denotes.derivative`), and so does
what the occurrences of a component contribute in a sweep from the outside in (`DenoteAll.gradient`). Sweeping the
results once more gives the second partial derivatives (`DenoteAll.mapM_hessian`), and the order of the two components
does not matter (`pderiv_pderiv_comm`).
-/

open MvPolynomial

namespace Extremum

variable {m n : ℕ}

theorem map_range_eq_ofFn {β : Type} (f : ℕ → β) : (List.range n).map f = List.ofFn fun k : Fin n ↦ f k := by
  rw [← List.map_coe_finRange_eq_range, List.map_map, List.ofFn_eq_map]
  rfl

theorem zipWith_ofFn {α β γ : Type} (f : α → β → γ) (a : Fin m → α) (b : Fin m → β) :
    (List.ofFn a).zipWith f (List.ofFn b) = List.ofFn fun i ↦ f (a i) (b i) := by
  apply List.ext_getElem
  · rw [List.length_zipWith, List.length_ofFn, List.length_ofFn, List.length_ofFn, Nat.min_self]
  · intro i hi hi'
    rw [List.getElem_zipWith, List.getElem_ofFn, List.getElem_ofFn, List.getElem_ofFn]

/-- Partial derivatives commute, as their commutator is a derivation that is zero on every component. -/
theorem pderiv_pderiv_comm (j k : Fin n) (p : MvPolynomial (Fin n) ℚ) :
    pderiv j (pderiv k p) = pderiv k (pderiv j p) := by
  have hconstant (i j k : Fin n) : pderiv j (pderiv k (X i : MvPolynomial (Fin n) ℚ)) = 0 := by
    rw [pderiv_X, Pi.single_apply]
    split
    · exact pderiv_one
    · exact map_zero _
  have hcommutator : ⁅pderiv (R := ℚ) j, pderiv (R := ℚ) k⁆ = 0 := by
    apply derivation_ext
    intro i
    rw [Derivation.commutator_apply, hconstant, hconstant, sub_zero, Derivation.zero_apply]
  have happlied := DFunLike.congr_fun hcommutator p
  rw [Derivation.commutator_apply, Derivation.zero_apply] at happlied
  exact sub_eq_zero.1 happlied

namespace Expr

/-! ## Polynomial expressions -/

/-- An expression in the first `n` components stands for a polynomial. -/
inductive Denotes : Expr ℚ → MvPolynomial (Fin n) ℚ → Prop
  | const (c : ℚ) : Denotes (.const c) (C c)
  | arg (i : Fin n) : Denotes (.arg i) (X i)
  | neg {e : Expr ℚ} {p : MvPolynomial (Fin n) ℚ} (he : Denotes e p) : Denotes (.neg e) (-p)
  | add {a b : Expr ℚ} {p q : MvPolynomial (Fin n) ℚ} (ha : Denotes a p) (hb : Denotes b q) :
    Denotes (.add a b) (p + q)
  | sub {a b : Expr ℚ} {p q : MvPolynomial (Fin n) ℚ} (ha : Denotes a p) (hb : Denotes b q) :
    Denotes (.sub a b) (p - q)
  | mul {a b : Expr ℚ} {p q : MvPolynomial (Fin n) ℚ} (ha : Denotes a p) (hb : Denotes b q) :
    Denotes (.mul a b) (p * q)

namespace Denotes

variable {e seed : Expr ℚ} {p q s : MvPolynomial (Fin n) ℚ}

theorem of_eq (h : e.Denotes p) (hpq : p = q) : e.Denotes q :=
  hpq ▸ h

theorem zero : Denotes (.const 0) (0 : MvPolynomial (Fin n) ℚ) :=
  (Denotes.const 0).of_eq C_0

/-- The value of an expression is that of the polynomial. -/
theorem eval {x : List ℚ} (hx : x.length = n) (h : e.Denotes p) :
    e.eval x = .ok (MvPolynomial.eval (Vec.coords n x) p) := by
  induction h with
  | const c => exact congrArg Except.ok (eval_C c).symm
  | arg i =>
    unfold Expr.eval
    rw [Vec.getElem?_eq_coords hx i, eval_X]
  | neg _ ih =>
    unfold Expr.eval
    rw [ih, map_neg]
    rfl
  | add _ _ iha ihb =>
    unfold Expr.eval
    rw [iha, ihb, map_add]
    rfl
  | sub _ _ iha ihb =>
    unfold Expr.eval
    rw [iha, ihb, map_sub]
    rfl
  | mul _ _ iha ihb =>
    unfold Expr.eval
    rw [iha, ihb, map_mul]
    rfl

/-- The formal derivative of an expression stands for the partial derivative of the polynomial. -/
theorem derivative (k : Fin n) (h : e.Denotes p) : (e.derivative k).Denotes (pderiv k p) := by
  induction h with
  | const c => exact zero.of_eq pderiv_C.symm
  | arg i =>
    apply (Denotes.const _).of_eq
    rw [pderiv_X, Pi.single_apply]
    by_cases hik : (i : ℕ) = k
    · rw [if_pos hik, if_pos (Fin.ext hik)]
      exact C_1
    · rw [if_neg hik, if_neg fun h ↦ hik (congrArg Fin.val h)]
      exact C_0
  | neg _ ih => exact ih.neg.of_eq (map_neg _ _).symm
  | add _ _ iha ihb => exact (iha.add ihb).of_eq (map_add _ _ _).symm
  | sub _ _ iha ihb => exact (iha.sub ihb).of_eq (map_sub _ _ _).symm
  | mul ha hb iha ihb => exact ((iha.mul hb).add (ha.mul ihb)).of_eq pderiv_mul.symm

end Denotes

/-! ## One sweep -/

/-- What is collected for each component adds up to a polynomial. -/
inductive Collects : List (ℕ × Expr ℚ) → (Fin n → MvPolynomial (Fin n) ℚ) → Prop
  | nil : Collects [] 0
  | cons {i : Fin n} {part : Expr ℚ} {parts : List (ℕ × Expr ℚ)} {p : MvPolynomial (Fin n) ℚ}
    {u : Fin n → MvPolynomial (Fin n) ℚ} (hpart : part.Denotes p) (hparts : Collects parts u) :
    Collects ((↑i, part) :: parts) (Pi.single i p + u)

namespace Collects

variable {parts rest : List (ℕ × Expr ℚ)} {u v : Fin n → MvPolynomial (Fin n) ℚ} {e : Expr ℚ}
  {p : MvPolynomial (Fin n) ℚ}

theorem of_eq (h : Collects parts u) (huv : u = v) : Collects parts v :=
  huv ▸ h

/-- What was collected in two places adds up. -/
theorem append (h : Collects parts u) (hrest : Collects rest v) : Collects (parts ++ rest) (u + v) := by
  induction h with
  | nil => exact hrest.of_eq (zero_add v).symm
  | cons hpart _ ih => exact (ih.cons hpart).of_eq (add_assoc _ _ _).symm

/-- What was collected for several outputs adds up. -/
theorem flatten {lists : Fin m → List (ℕ × Expr ℚ)} {u : Fin m → Fin n → MvPolynomial (Fin n) ℚ}
    (h : ∀ i, Collects (lists i) (u i)) : Collects (List.ofFn lists).flatten (∑ i, u i) := by
  induction m with
  | zero => exact nil
  | succ m ih =>
    rw [List.ofFn_succ, List.flatten_cons, Fin.sum_univ_succ]
    exact (h 0).append (ih fun i ↦ h i.succ)

/-- A part counts for its own component and for no other one. -/
theorem pick (he : e.Denotes p) (i k : Fin n) :
    (if (i : ℕ) = k then e else .const 0).Denotes ((Pi.single i p : Fin n → MvPolynomial (Fin n) ℚ) k) := by
  by_cases hik : i = k
  · rw [if_pos (congrArg Fin.val hik), hik, Pi.single_eq_same]
    exact he
  · rw [if_neg fun h ↦ hik (Fin.ext h), Pi.single_eq_of_ne' hik]
    exact .zero

theorem foldl_pick (h : Collects parts u) (he : e.Denotes p) (k : Fin n) :
    ((parts.map fun (i, part) ↦ if i = k then part else .const 0).foldl .add e).Denotes (p + u k) := by
  induction h generalizing e p with
  | nil => exact he.of_eq (add_zero p).symm
  | cons hpart _ ih => exact (ih (he.add (pick hpart _ k))).of_eq (add_assoc _ _ _)

/-- Picking out what was collected for a component gives what it adds up to. -/
theorem total_pick (h : Collects parts u) (k : Fin n) :
    (total (parts.map fun (i, part) ↦ if i = k then part else .const 0)).Denotes (u k) := by
  cases h with
  | nil => exact .zero
  | cons hpart hparts => exact hparts.foldl_pick (pick hpart _ k) k

end Collects

/-- What the occurrences of a component contribute adds up to the partial derivative times the seed. -/
theorem Denotes.contributions {e seed : Expr ℚ} {p s : MvPolynomial (Fin n) ℚ} (h : e.Denotes p)
    (hseed : seed.Denotes s) : Collects (e.contributions seed) fun k ↦ pderiv k p * s := by
  induction h generalizing seed s with
  | const c =>
    apply Collects.nil.of_eq
    funext k
    rw [pderiv_C, zero_mul]
    rfl
  | arg i =>
    apply (Collects.nil.cons hseed).of_eq
    funext k
    rw [add_zero, pderiv_X, Pi.single_comm, Pi.single_apply, Pi.single_apply, ite_mul, one_mul, zero_mul]
  | neg _ ih =>
    apply (ih hseed.neg).of_eq
    funext k
    rw [map_neg, mul_neg, neg_mul]
  | add _ _ iha ihb =>
    apply ((iha hseed).append (ihb hseed)).of_eq
    funext k
    rw [Pi.add_apply, map_add, add_mul]
  | sub _ _ iha ihb =>
    apply ((iha hseed).append (ihb hseed.neg)).of_eq
    funext k
    rw [Pi.add_apply, map_sub]
    ring
  | mul ha hb iha ihb =>
    apply ((iha (hseed.mul hb)).append (ihb (hseed.mul ha))).of_eq
    funext k
    rw [Pi.add_apply, pderiv_mul]
    ring

/-! ## Several expressions -/

/-- Expressions stand for polynomials, one for one. -/
def DenoteAll (es : List (Expr ℚ)) (P : Fin m → MvPolynomial (Fin n) ℚ) : Prop :=
  ∃ E : Fin m → Expr ℚ, es = List.ofFn E ∧ ∀ i, (E i).Denotes (P i)

namespace DenoteAll

variable {es : List (Expr ℚ)} {P : Fin m → MvPolynomial (Fin n) ℚ} {x : List ℚ}

theorem length_eq (h : DenoteAll es P) : es.length = m := by
  obtain ⟨E, rfl, -⟩ := h
  exact List.length_ofFn

/-- Expressions are evaluated one by one to the values of their polynomials. -/
theorem evalAll (h : DenoteAll es P) (hx : x.length = n) :
    Function.evalAll x es = .ok (List.ofFn fun i ↦ MvPolynomial.eval (Vec.coords n x) (P i)) := by
  obtain ⟨E, rfl, hE⟩ := h
  apply Reading.mapM_eq_ok_iff.2
  refine List.forall₂_iff_get.2 ⟨?_, fun i hi hi' ↦ ?_⟩
  · rw [List.length_ofFn, List.length_ofFn]
  · rw [List.get_eq_getElem, List.get_eq_getElem, List.getElem_ofFn, List.getElem_ofFn]
    exact (hE _).eval hx

/-- One sweep gives the partial derivatives of an output. -/
theorem gradient (h : DenoteAll es P) (i : Fin m) : DenoteAll (gradient n es i) fun k ↦ pderiv k (P i) := by
  obtain ⟨E, rfl, hE⟩ := h
  have hseeds : (List.ofFn E).zipWith contributions (seeds (List.ofFn E).length i) =
      List.ofFn fun j ↦ (E j).contributions (.const (if (j : ℕ) = i then 1 else 0)) := by
    unfold seeds
    rw [List.length_ofFn, map_range_eq_ofFn, zipWith_ofFn]
  have hcollects : Collects (List.ofFn fun j ↦ (E j).contributions (.const (if (j : ℕ) = i then 1 else 0))).flatten
      fun k ↦ pderiv k (P i) := by
    apply (Collects.flatten fun j ↦ (hE j).contributions (.const _)).of_eq
    funext k
    rw [Finset.sum_apply, Finset.sum_eq_single i]
    · rw [if_pos rfl, C_1, mul_one]
    · intro j _ hji
      rw [if_neg fun h ↦ hji (Fin.ext h), C_0, mul_zero]
    · intro hi
      exact absurd (Finset.mem_univ i) hi
  refine ⟨fun k ↦ _, ?_, fun k ↦ hcollects.total_pick k⟩
  unfold Expr.gradient
  rw [hseeds, map_range_eq_ofFn]

/-- Two sweeps give the second partial derivatives of an output. -/
theorem mapM_hessian (h : DenoteAll es P) (i : Fin m) (hx : x.length = n) :
    (hessian n es i).mapM (Function.evalAll x) = .ok (List.ofFn fun j : Fin n ↦ List.ofFn fun k ↦
      MvPolynomial.eval (Vec.coords n x) (pderiv k (pderiv j (P i)))) := by
  unfold hessian
  rw [List.mapM_map]
  exact Reading.mapM_range fun j ↦ ((h.gradient i).gradient j).evalAll hx

end DenoteAll

end Expr

end Extremum
