import Extremum.Proofs.Binary64.Arithmetic
import Mathlib.Data.List.Forall2

/-!
# Monotone arithmetic of doubles

Rounding is monotone, so sums of numbers that are not negative grow with their summands, and a positive difference
grows when the larger number grows or the smaller one shrinks. Infinite numbers are no exception, since no
difference of two of the same sign comes up. Hence a sum of a list is at most that of any list which has a larger
number for each of its own, in the same order, and possibly more numbers in between (`sum_le_sum`).
-/

namespace Extremum.Binary64

section Pairs

variable {x x' y y' z : Float}

theorem lt_of_lt_of_le (hxy : x < y) (hyz : y ≤ z) : x < z := by
  obtain ⟨hx, hy⟩ := defined_of_le (le_of_lt hxy)
  obtain ⟨-, hz⟩ := defined_of_le hyz
  rw [lt_iff_integer hx hy] at hxy
  rw [le_iff_integer hy hz] at hyz
  rw [lt_iff_integer hx hz]
  exact hxy.trans_le hyz

theorem lt_of_le_of_lt (hxy : x ≤ y) (hyz : y < z) : x < z := by
  obtain ⟨hx, hy⟩ := defined_of_le hxy
  obtain ⟨-, hz⟩ := defined_of_le (le_of_lt hyz)
  rw [le_iff_integer hx hy] at hxy
  rw [lt_iff_integer hy hz] at hyz
  rw [lt_iff_integer hx hz]
  exact hxy.trans_lt hyz

/-- A sum that is infinite is above all others. -/
theorem le_of_unpack_infinity (hx : x.isNaN = false) (hy : y.toModel.unpack = .infinity .positive) : x ≤ y := by
  obtain ⟨hdefined, hlimit⟩ := defined_of_unpack_infinity hy
  rw [le_iff_integer hx hdefined, hlimit]
  exact (integer_bounds x).2

/-- Rounded addition is monotone in both operands, where these are not negative. -/
theorem add_le_add (hx : 0 ≤ x) (hy : 0 ≤ y) (hxx' : x ≤ x') (hyy' : y ≤ y') : x + y ≤ x' + y' := by
  have hx' : 0 ≤ x' := le_trans hx hxx'
  have hy' : 0 ≤ y' := le_trans hy hyy'
  obtain ⟨hdx, hdx'⟩ := defined_of_le hxx'
  obtain ⟨hdy, hdy'⟩ := defined_of_le hyy'
  have hsum : (x + y).isNaN = false := (defined_of_le (nonneg_add hx hy)).2
  have hlimit := limit_pos
  rw [le_iff_integer (by decide) hdx, integer_zero] at hx
  rw [le_iff_integer (by decide) hdy, integer_zero] at hy
  rw [le_iff_integer hdx hdx'] at hxx'
  rw [le_iff_integer hdy hdy'] at hyy'
  by_cases hbounded : integer x' < limit ∧ integer y' < limit
  · obtain ⟨hdefined, hvalue⟩ := add_of_isFinite (isFinite_of_integer hdx (by omega) (by omega))
      (isFinite_of_integer hdy (by omega) (by omega))
    obtain ⟨hdefined', hvalue'⟩ := add_of_isFinite (isFinite_of_integer hdx' (by omega) hbounded.1)
      (isFinite_of_integer hdy' (by omega) hbounded.2)
    rw [le_iff_integer hdefined hdefined', hvalue, hvalue']
    exact rounded_mono (by omega)
  · exact le_of_unpack_infinity hsum (unpack_add_of_infinite hx' hy' (by omega))

/-- What is subtracted is the smaller number, so that a difference of two infinite numbers is infinite. -/
theorem sub_le_sub (hyx : y < x) (hxx' : x ≤ x') (hyy' : y' ≤ y) : x - y ≤ x' - y' := by
  obtain ⟨hdx, hdx'⟩ := defined_of_le hxx'
  obtain ⟨hdy', hdy⟩ := defined_of_le hyy'
  have hdifference : (x - y).isNaN = false := (defined_of_le (le_of_lt (sub_pos hyx))).2
  rw [lt_iff_integer hdy hdx] at hyx
  rw [le_iff_integer hdx hdx'] at hxx'
  rw [le_iff_integer hdy' hdy] at hyy'
  by_cases hbounded : integer x' < limit ∧ -(limit : Int) < integer y'
  · obtain ⟨hdefined, hvalue⟩ := sub_of_isFinite (isFinite_of_integer hdx (by omega) (by omega))
      (isFinite_of_integer hdy (by omega) (by omega))
    obtain ⟨hdefined', hvalue'⟩ := sub_of_isFinite (isFinite_of_integer hdx' (by omega) hbounded.1)
      (isFinite_of_integer hdy' hbounded.2 (by omega))
    rw [le_iff_integer hdefined hdefined', hvalue, hvalue']
    exact rounded_mono (by omega)
  · have hbelow : y' < x' := by
      rw [lt_iff_integer hdy' hdx']
      omega
    exact le_of_unpack_infinity hdifference (unpack_sub_of_infinite hbelow (by omega))

end Pairs

section Lists

variable {x y : Float} {xs ys : List Float}

/-- A rounded sum grows with its terms, and with terms that come in anywhere. -/
theorem foldl_add_le_foldl_add (h : List.SublistForall₂ (· ≤ ·) xs ys) (hx : 0 ≤ x) (hxy : x ≤ y)
    (hxs : ∀ a ∈ xs, 0 ≤ a) (hys : ∀ b ∈ ys, 0 ≤ b) : xs.foldl (· + ·) x ≤ ys.foldl (· + ·) y := by
  induction h generalizing x y with
  | nil => exact le_trans hxy (le_foldl_add (le_trans hx hxy) hys)
  | cons hab _ ih =>
    obtain ⟨ha, hxs⟩ := List.forall_mem_cons.1 hxs
    obtain ⟨-, hys⟩ := List.forall_mem_cons.1 hys
    exact ih (nonneg_add hx ha) (add_le_add hx ha hxy hab) hxs hys
  | cons_right _ ih =>
    obtain ⟨hb, hys⟩ := List.forall_mem_cons.1 hys
    have hlarger := (add_nonneg (le_trans hx hxy) hb).1
    exact ih hx (le_trans hxy hlarger) hxs hys

/-- A sum does not shrink when summands grow or further ones come in between. -/
theorem sum_le_sum (h : List.SublistForall₂ (· ≤ ·) xs ys) (hxs : ∀ a ∈ xs, 0 ≤ a) (hys : ∀ b ∈ ys, 0 ≤ b) :
    Scalar.sum xs ≤ Scalar.sum ys :=
  foldl_add_le_foldl_add h zero_le_zero zero_le_zero hxs hys

end Lists

end Extremum.Binary64
