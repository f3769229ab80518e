import Mathlib.Algebra.Order.Ring.Nat
import Mathlib.Order.Monotone.Basic
import Mathlib.Tactic.Ring

/-!
# Rounding to 53 bits

The natural number with at most 53 significant bits that is nearest to a given one. Among numbers that lose
equally many bits, rounding is the rounding of a quotient, which is monotone; and between numbers that lose
different amounts there is a power of two, which is not rounded at all. So rounding is monotone
(`nearest_mono`), and it leaves alone what has 53 bits (`nearest_mul_pow`).
-/

namespace Extremum.Binary64

/-! ## One rounding -/

/-- `n / 2 ^ k`, rounded to the nearest integer, and to the even one of two that are equally near. -/
def halfEven (n k : Nat) : Nat :=
  (2 * n + 2 ^ k - 1 + n / 2 ^ k % 2) / 2 ^ (k + 1)

/-- Rounding to even keeps the order. -/
theorem halfEven_mono (k : Nat) : Monotone (halfEven · k) := by
  intro m n hmn
  have hparity : m / 2 ^ k % 2 < 2 := Nat.mod_lt _ (by decide)
  have hpow : 0 < 2 ^ k := Nat.two_pow_pos k
  apply Nat.div_le_div_right
  rcases Nat.eq_or_lt_of_le hmn with rfl | hlt
  · exact le_rfl
  · omega

theorem halfEven_mul_pow (q k : Nat) : halfEven (q * 2 ^ k) k = q := by
  have hparity : q % 2 < 2 := Nat.mod_lt _ (by decide)
  have hpow : 0 < 2 ^ k := Nat.two_pow_pos k
  have hdouble : 2 * (q * 2 ^ k) = q * 2 ^ (k + 1) := by ring
  have hnumerator : 2 * (q * 2 ^ k) + 2 ^ k - 1 + q % 2 = (2 ^ k - 1 + q % 2) + q * 2 ^ (k + 1) := by
    omega
  have hsmall : 2 ^ k - 1 + q % 2 < 2 ^ (k + 1) := by
    rw [pow_succ]
    omega
  unfold halfEven
  rw [Nat.mul_div_cancel _ hpow, hnumerator, Nat.add_mul_div_right _ _ (Nat.two_pow_pos _),
    Nat.div_eq_of_lt hsmall, Nat.zero_add]

@[simp] theorem halfEven_zero (n : Nat) : halfEven n 0 = n := by
  have h := halfEven_mul_pow n 0
  rwa [pow_zero, Nat.mul_one] at h

/-- Rounding looks at a quotient only. -/
theorem halfEven_scale (n j k : Nat) : halfEven (n * 2 ^ j) (k + j) = halfEven n k := by
  have hj : 0 < 2 ^ j := Nat.two_pow_pos j
  have hk : 0 < 2 ^ k := Nat.two_pow_pos k
  have hquotient : n * 2 ^ j / 2 ^ (k + j) = n / 2 ^ k := by
    rw [pow_add, Nat.mul_div_mul_right _ _ hj]
  have hdenominator : 2 ^ (k + j + 1) = 2 ^ j * 2 ^ (k + 1) := by ring
  have hparity : n / 2 ^ k % 2 = 0 ∨ n / 2 ^ k % 2 = 1 := by omega
  have hnumerator : (2 * (n * 2 ^ j) + 2 ^ (k + j) - 1 + n / 2 ^ k % 2) / 2 ^ j =
      2 * n + 2 ^ k - 1 + n / 2 ^ k % 2 := by
    have hfactor : 2 * (n * 2 ^ j) + 2 ^ (k + j) = (2 * n + 2 ^ k - 1) * 2 ^ j + 2 ^ j := by
      obtain ⟨a, ha⟩ : ∃ a, 2 * n + 2 ^ k = a + 1 := ⟨2 * n + 2 ^ k - 1, by omega⟩
      rw [ha, Nat.add_sub_cancel, pow_add]
      calc 2 * (n * 2 ^ j) + 2 ^ k * 2 ^ j = (2 * n + 2 ^ k) * 2 ^ j := by ring
        _ = a * 2 ^ j + 2 ^ j := by rw [ha]; ring
    rcases hparity with h | h
    · rw [h, hfactor, Nat.add_zero, Nat.add_zero, Nat.add_sub_assoc hj, Nat.add_comm,
        Nat.add_mul_div_right _ _ hj, Nat.div_eq_of_lt (by omega), Nat.zero_add]
    · rw [h, hfactor, Nat.sub_add_cancel (by omega)]
      rw [show (2 * n + 2 ^ k - 1) * 2 ^ j + 2 ^ j = (2 * n + 2 ^ k - 1 + 1) * 2 ^ j by ring]
      exact Nat.mul_div_cancel _ hj
  unfold halfEven
  rw [hquotient, hdenominator, ← Nat.div_div_eq_div_mul, hnumerator]

/-! ## Rounding to 53 bits -/

/-- How many bits a number has beyond 53. -/
def spare (n : Nat) : Nat :=
  n.log2 + 1 - 53

/-- The number with at most 53 significant bits that is nearest to a number; of two that are equally near, the
one whose last significant bit is zero. -/
def nearest (n : Nat) : Nat :=
  halfEven n (spare n) * 2 ^ spare n

/-- The bits that are not spare are at most 53. -/
theorem lt_pow_spare (n : Nat) : n < 2 ^ (53 + spare n) := by
  have hlog : n < 2 ^ (n.log2 + 1) := Nat.lt_log2_self
  have hexponent : n.log2 + 1 ≤ 53 + spare n := by
    unfold spare
    omega
  exact hlog.trans_le (Nat.pow_le_pow_right (by decide) hexponent)

theorem pow_spare_le {n : Nat} (h : 0 < spare n) : 2 ^ (52 + spare n) ≤ n := by
  have hn : n ≠ 0 := by
    rintro rfl
    exact absurd h (by decide)
  have hexponent : 52 + spare n = n.log2 := by
    unfold spare at h ⊢
    omega
  rw [hexponent]
  exact Nat.log2_self_le hn

theorem spare_le_of_lt {n k : Nat} (h : n < 2 ^ (53 + k)) : spare n ≤ k := by
  rcases Nat.eq_zero_or_pos (spare n) with hzero | hpos
  · omega
  · have hpow : 2 ^ (52 + spare n) < 2 ^ (53 + k) := (pow_spare_le hpos).trans_lt h
    have hexponent := (Nat.pow_lt_pow_iff_right (by decide : 1 < 2)).1 hpow
    omega

/-- Rounding may carry into a bit more, but gives no more than that. -/
theorem halfEven_spare_le (n : Nat) : halfEven n (spare n) ≤ 2 ^ 53 := by
  have hle : n ≤ 2 ^ 53 * 2 ^ spare n := by
    rw [← pow_add]
    exact (lt_pow_spare n).le
  calc halfEven n (spare n) ≤ halfEven (2 ^ 53 * 2 ^ spare n) (spare n) := halfEven_mono _ hle
    _ = 2 ^ 53 := halfEven_mul_pow _ _

/-- A number with spare bits uses all 53 after it was rounded. -/
theorem le_halfEven_spare {n : Nat} (h : 0 < spare n) : 2 ^ 52 ≤ halfEven n (spare n) := by
  have hle : 2 ^ 52 * 2 ^ spare n ≤ n := by
    rw [← pow_add]
    exact pow_spare_le h
  calc 2 ^ 52 = halfEven (2 ^ 52 * 2 ^ spare n) (spare n) := (halfEven_mul_pow _ _).symm
    _ ≤ halfEven n (spare n) := halfEven_mono _ hle

/-- A number whose spare bits are zero is not rounded. -/
theorem nearest_of_dvd {n : Nat} (h : 2 ^ spare n ∣ n) : nearest n = n := by
  obtain ⟨q, hq⟩ := h
  have hround : halfEven n (spare n) = q := by
    nth_rewrite 1 [hq]
    rw [Nat.mul_comm]
    exact halfEven_mul_pow q _
  unfold nearest
  rw [hround, Nat.mul_comm]
  exact hq.symm

/-- What has at most 53 significant bits stays what it is. -/
theorem nearest_mul_pow {m : Nat} (h : m < 2 ^ 53) (k : Nat) : nearest (m * 2 ^ k) = m * 2 ^ k := by
  have hlt : m * 2 ^ k < 2 ^ (53 + k) := by
    rw [pow_add]
    exact Nat.mul_lt_mul_of_pos_right h (Nat.two_pow_pos k)
  apply nearest_of_dvd
  exact (Nat.pow_dvd_pow 2 (spare_le_of_lt hlt)).mul_left m

/-- Numbers of up to 53 bits are not rounded. -/
theorem nearest_of_lt {n : Nat} (h : n < 2 ^ 53) : nearest n = n := by
  have hone := nearest_mul_pow h 0
  rwa [pow_zero, Nat.mul_one] at hone

/-- Larger numbers are not rounded to smaller ones: between two that are cut at different places there is a
power of two. -/
theorem nearest_mono : Monotone nearest := by
  intro m n hmn
  have hspare : spare m ≤ spare n := spare_le_of_lt (hmn.trans_lt (lt_pow_spare n))
  unfold nearest
  rcases Nat.eq_or_lt_of_le hspare with hsame | hlt
  · rw [← hsame]
    exact Nat.mul_le_mul_right _ (halfEven_mono _ hmn)
  · have hpow : 2 ^ 53 * 2 ^ spare m ≤ 2 ^ 52 * 2 ^ spare n := by
      rw [← pow_add, ← pow_add]
      exact Nat.pow_le_pow_right (by decide) (by omega)
    calc halfEven m (spare m) * 2 ^ spare m ≤ 2 ^ 53 * 2 ^ spare m :=
          Nat.mul_le_mul_right _ (halfEven_spare_le m)
      _ ≤ 2 ^ 52 * 2 ^ spare n := hpow
      _ ≤ halfEven n (spare n) * 2 ^ spare n := Nat.mul_le_mul_right _ (le_halfEven_spare (by omega))

end Extremum.Binary64
