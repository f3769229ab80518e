import Extremum.Proofs.Binary64.Rounding

/-!
# Sums of what is stored

The sum and the difference of two finite doubles are the exact ones, rounded (`settled_add`, `settled_sub`). No
bits are lost below: in units of the smallest positive double an exact result is an integer, so that only one
that has more than 53 bits is rounded, or one that is too large. Rounding integers is monotone (`rounded_mono`)
and leaves all doubles alone (`rounded_units`).
-/

namespace Extremum.Binary64

open Float.Model Float.Model.UnpackedFloat

/-! ## Rounding integers -/

/-- The double nearest to an exact result, in units of the smallest positive double. -/
def rounded (z : Int) : Int :=
  z.sign * (min (nearest z.natAbs) limit : Nat)

@[simp] theorem rounded_zero : rounded 0 = 0 := by
  unfold rounded
  rw [Int.sign_zero, Int.zero_mul]

/-- Rounding a number that is not negative, cut off at the limit. -/
theorem rounded_natCast (n : Nat) : rounded n = (min (nearest n) limit : Nat) := by
  rcases Nat.eq_zero_or_pos n with rfl | hn
  · rw [nearest_of_lt (by decide), Nat.zero_min]
    exact rounded_zero
  · unfold rounded
    rw [Int.sign_eq_one_of_pos (by omega), Int.one_mul, Int.natAbs_natCast]

theorem rounded_one : rounded 1 = 1 := by
  have hlimit := limit_pos
  have hone := rounded_natCast 1
  rw [nearest_of_lt (by decide), Nat.min_eq_left hlimit] at hone
  exact hone

/-- Rounding is symmetric about zero. -/
theorem rounded_neg (z : Int) : rounded (-z) = -rounded z := by
  unfold rounded
  rw [Int.sign_neg, Int.natAbs_neg, Int.neg_mul]

theorem rounded_apply (s : Sign) (n : Nat) : rounded (s.apply n) = s.apply (min (nearest n) limit : Nat) := by
  cases s with
  | negative =>
    change rounded (-(n : Int)) = -((min (nearest n) limit : Nat) : Int)
    rw [rounded_neg, rounded_natCast]
  | positive => exact rounded_natCast n

/-- Rounding keeps the order of numbers that are not negative. -/
theorem rounded_nonneg_mono {m n : Nat} (h : m ≤ n) : rounded m ≤ rounded n := by
  rw [rounded_natCast, rounded_natCast]
  have hnearest := nearest_mono h
  omega

/-- Larger results are not rounded to smaller doubles. -/
theorem rounded_mono : Monotone rounded := by
  intro x y hxy
  have hzero (n : Nat) : 0 ≤ rounded n := by
    rw [rounded_natCast]
    omega
  obtain ⟨m, rfl | rfl⟩ := x.eq_nat_or_neg
  · obtain ⟨n, rfl⟩ := Int.eq_ofNat_of_zero_le ((Int.natCast_nonneg m).trans hxy)
    exact rounded_nonneg_mono (by omega)
  · obtain ⟨n, rfl | rfl⟩ := y.eq_nat_or_neg
    · have hm := hzero m
      have hn := hzero n
      rw [rounded_neg]
      omega
    · have hmagnitudes := rounded_nonneg_mono (m := n) (n := m) (by omega)
      rw [rounded_neg, rounded_neg]
      omega

/-- What is a double is not rounded. -/
theorem rounded_units {a : UnpackedFloat} (h : Stored a) (hfinite : a.isFinite = true) :
    rounded (units a) = units a := by
  cases a with
  | infinity s => cases hfinite
  | notANumber => cases hfinite
  | zero s => exact rounded_zero
  | finite s m e hm =>
    have hbelow := h.1.magnitude_lt_limit h.2
    have hexact : nearest (magnitude m e) = magnitude m e := nearest_mul_pow h.1.mantissa _
    unfold units
    rw [rounded_apply, hexact, Nat.min_eq_left hbelow.le]

/-! ## Sums and differences -/

/-- A result as it is found again after it was stored. -/
def settled (a : UnpackedFloat) : UnpackedFloat :=
  UnpackedFloat.unpack Format.binary64 (UnpackedFloat.pack Format.binary64 a)

/-- Rounding an unpacked number rounds what it stands for. -/
theorem settled_round (s : Sign) {m : Nat} {e : Int} (hm : 0 < m) (he : -1074 ≤ e) :
    (settled (UnpackedFloat.round Format.binary64 s m e)).isNaN = false ∧
      units (settled (UnpackedFloat.round Format.binary64 s m e)) = rounded (s.apply (magnitude m e)) := by
  obtain ⟨q, e', hq, hround, hfits, hvalue⟩ := round_eq s hm he
  rw [hround, rounded_apply, ← hvalue]
  rcases lt_or_ge 971 e' with hlarge | hsmall
  · have hlimit := hfits.limit_le_magnitude hlarge
    unfold settled
    rw [unpack_pack_of_large hlarge, Nat.min_eq_right hlimit]
    exact ⟨rfl, rfl⟩
  · have hlimit := hfits.magnitude_lt_limit hsmall
    have hstored : Stored (.finite s q e' hq) := ⟨hfits, hsmall⟩
    unfold settled
    rw [unpack_pack hstored, Nat.min_eq_left hlimit.le]
    exact ⟨rfl, rfl⟩

/-- What can be stored is found again as it was. -/
theorem settled_of_stored {a : UnpackedFloat} (h : Stored a) : settled a = a :=
  unpack_pack h

/-- Normalizing an unpacked number rounds what it stands for. -/
theorem settled_normalize (z : Int) {e : Int} (he : -1074 ≤ e) (s : Sign) :
    (settled (UnpackedFloat.normalize Format.binary64 z e s)).isNaN = false ∧
      units (settled (UnpackedFloat.normalize Format.binary64 z e s)) = rounded (z * (2 ^ (e + 1074).toNat : Nat)) := by
  unfold UnpackedFloat.normalize
  rcases lt_trichotomy z 0 with hlt | rfl | hgt
  · have hsize : Sign.negative.apply (magnitude (-z).toNat e) = z * (2 ^ (e + 1074).toNat : Nat) := by
      change -((magnitude (-z).toNat e : Nat) : Int) = z * (2 ^ (e + 1074).toNat : Nat)
      unfold magnitude
      rw [Nat.cast_mul, Int.toNat_of_nonneg (by omega)]
      ring
    rw [compare_lt_iff_lt.2 hlt, ← hsize]
    exact settled_round .negative (by omega) he
  · rw [compare_eq_iff_eq.2 rfl, Int.zero_mul, rounded_zero]
    dsimp only
    rw [settled_of_stored (a := .zero s) trivial]
    exact ⟨rfl, rfl⟩
  · have hsize : Sign.positive.apply (magnitude z.toNat e) = z * (2 ^ (e + 1074).toNat : Nat) := by
      change ((magnitude z.toNat e : Nat) : Int) = z * (2 ^ (e + 1074).toNat : Nat)
      unfold magnitude
      rw [Nat.cast_mul, Int.toNat_of_nonneg (by omega)]
    rw [compare_gt_iff_gt.2 hgt, ← hsize]
    exact settled_round .positive (by omega) he

/-- Two numbers are written with one exponent before they are added. -/
theorem apply_decreaseExponent (s : Sign) (m : Nat) {e target : Int} (he : -1074 ≤ target) (htarget : target ≤ e) :
    s.apply (decreaseExponent m e target).1 * (2 ^ (target + 1074).toNat : Nat) = s.apply (magnitude m e) := by
  have hvalue := magnitude_decrease (m := m) (e := e) (k := (e - target).toNat) (by omega)
  have hexponent : e - (e - target).toNat = target := by omega
  have hcast : ((m <<< (e - target).toNat : Nat) : Int) * (2 ^ (target + 1074).toNat : Nat) = magnitude m e := by
    rw [← hvalue, hexponent]
    unfold magnitude
    rw [Nat.cast_mul]
  cases s with
  | negative =>
    change -((m <<< (e - target).toNat : Nat) : Int) * (2 ^ (target + 1074).toNat : Nat) = -(magnitude m e : Int)
    rw [Int.neg_mul, hcast]
  | positive => exact hcast

variable {a b : UnpackedFloat}

theorem settled_self (h : Stored a) (hfinite : a.isFinite = true) :
    (settled a).isNaN = false ∧ units (settled a) = rounded (units a) := by
  rw [settled_of_stored h, rounded_units h hfinite]
  cases a with
  | notANumber => cases hfinite
  | infinity s => cases hfinite
  | zero s => exact ⟨rfl, rfl⟩
  | finite s m e hm => exact ⟨rfl, rfl⟩

/-- A sum of finite numbers is the exact sum, rounded. -/
theorem settled_add (ha : Stored a) (hb : Stored b) (hfa : a.isFinite = true) (hfb : b.isFinite = true) :
    (settled (UnpackedFloat.add Format.binary64 a b)).isNaN = false ∧
      units (settled (UnpackedFloat.add Format.binary64 a b)) = rounded (units a + units b) := by
  cases a with
  | notANumber => cases hfa
  | infinity s => cases hfa
  | zero s =>
    rw [units_zero, Int.zero_add]
    cases b with
    | notANumber => cases hfb
    | infinity t => cases hfb
    | zero t => cases s <;> cases t <;> exact settled_self (a := .zero _) trivial rfl
    | finite t m e hm => exact settled_self hb rfl
  | finite s m e hm =>
    cases b with
    | notANumber => cases hfb
    | infinity t => cases hfb
    | zero t =>
      rw [units_zero, Int.add_zero]
      exact settled_self ha rfl
    | finite t m' e' hm' =>
      have hleast : -1074 ≤ min e e' := le_min ha.1.exponent hb.1.exponent
      have hsum : (s.apply (decreaseExponent m e (min e e')).1 + t.apply (decreaseExponent m' e' (min e e')).1) *
          (2 ^ (min e e' + 1074).toNat : Nat) = units (.finite s m e hm) + units (.finite t m' e' hm') := by
        rw [Int.add_mul, apply_decreaseExponent s m hleast (min_le_left e e'),
          apply_decreaseExponent t m' hleast (min_le_right e e')]
        rfl
      rw [← hsum]
      exact settled_normalize _ hleast .positive

theorem apply_neg (s : Sign) (z : Int) : (-s).apply z = -s.apply z := by
  cases s with
  | negative => exact (Int.neg_neg z).symm
  | positive => rfl

theorem units_neg (a : UnpackedFloat) : units a.neg = -units a := by
  cases a with
  | notANumber => rfl
  | infinity s => exact apply_neg s _
  | zero s => rfl
  | finite s m e hm => exact apply_neg s _

/-- Subtracting is adding the opposite. -/
theorem sub_eq_add_neg (spec : Format) (a b : UnpackedFloat) :
    UnpackedFloat.sub spec a b = UnpackedFloat.add spec a b.neg := by
  cases a with
  | notANumber => cases b <;> rfl
  | infinity s => cases b <;> rfl
  | zero s => cases b <;> rfl
  | finite s m e hm =>
    cases b with
    | finite t m' e' hm' =>
      unfold UnpackedFloat.neg UnpackedFloat.sub UnpackedFloat.add
      dsimp only
      rw [apply_neg, Int.sub_eq_add_neg]
    | _ => rfl

theorem stored_neg (h : Stored a) : Stored a.neg := by
  cases a with
  | finite s m e hm => exact h
  | _ => trivial

theorem isFinite_neg (a : UnpackedFloat) : a.neg.isFinite = a.isFinite := by
  cases a <;> rfl

/-- A difference of finite numbers is the exact difference, rounded. -/
theorem settled_sub (ha : Stored a) (hb : Stored b) (hfa : a.isFinite = true) (hfb : b.isFinite = true) :
    (settled (UnpackedFloat.sub Format.binary64 a b)).isNaN = false ∧
      units (settled (UnpackedFloat.sub Format.binary64 a b)) = rounded (units a - units b) := by
  rw [← isFinite_neg] at hfb
  rw [sub_eq_add_neg, Int.sub_eq_add_neg, ← units_neg]
  exact settled_add ha (stored_neg hb) hfa hfb

end Extremum.Binary64
