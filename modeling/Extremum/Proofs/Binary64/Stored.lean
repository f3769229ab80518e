import Extremum.Proofs.Binary64.Order
import Mathlib

/-!
# Doubles as integers

Every double is an integer when it is measured in units of the smallest positive one, if the infinite ones are
taken to be just beyond all others. What a double is unpacked to has a mantissa of 53 bits, and comparing
exponents first and mantissas next is comparing these integers (`compare_eq_units`). What is packed is found
again when it is unpacked, unless its exponent is too large (`unpack_pack`).
-/

namespace Extremum.Binary64

open Float.Model Float.Model.UnpackedFloat

/-- The number `m * 2 ^ e` in units of the smallest positive double. -/
def magnitude (m : Nat) (e : Int) : Nat :=
  m * 2 ^ (e + 1074).toNat

/-- Mantissa and exponent of a double that may be too large: 53 bits, and all of them used unless the exponent is
the smallest one. -/
structure Fits (m : Nat) (e : Int) : Prop where
  mantissa : m < 2 ^ 53
  exponent : -1074 ≤ e
  normal : 2 ^ 52 ≤ m ∨ e = -1074

/-- What can be stored as it is. -/
def Stored : UnpackedFloat → Prop
  | .finite _ m e _ => Fits m e ∧ e ≤ 971
  | _ => True

/-- A normal mantissa has its first bit in the highest place. -/
theorem log2_of_normal {m : Nat} (h : m < 2 ^ 53) (hn : 2 ^ 52 ≤ m) : m.log2 = 52 := by
  rw [Nat.log2_eq_iff (by omega)]
  exact ⟨hn, h⟩

theorem exponentBias_binary64 : Format.binary64.exponentBias = 1023 := rfl

theorem toNat_lt_of_ne_neg_one {e : BitVec 11} (h : e ≠ -1#11) : e.toNat < 2047 := by
  have hlt := e.isLt
  have hne : e.toNat ≠ (-1#11).toNat := fun heq ↦ h (BitVec.eq_of_toNat_eq heq)
  have hlast : (-1#11).toNat = 2047 := by decide
  omega

theorem toNat_pos_of_ne_zero {n : Nat} {v : BitVec n} (h : v ≠ 0#n) : 0 < v.toNat := by
  have hne : v.toNat ≠ (0#n).toNat := fun heq ↦ h (BitVec.eq_of_toNat_eq heq)
  rw [BitVec.toNat_ofNat, Nat.zero_mod] at hne
  omega

theorem toNat_one_append (v : BitVec 52) : (1#1 ++ v).toNat = 2 ^ 52 + v.toNat := by
  rw [BitVec.toNat_append, ← Nat.shiftLeft_add_eq_or_of_lt v.isLt]
  rfl

/-- Whatever the bits of a double are, what they are read as can be stored. -/
theorem stored_unpack (b : BitVec Format.binary64.numBits) :
    Stored (UnpackedFloat.unpack Format.binary64 b) := by
  have hmantissa : (unpackMantissa b : BitVec 52).toNat < 2 ^ 52 := BitVec.isLt _
  unfold UnpackedFloat.unpack
  dsimp only
  rw [exponentBias_binary64]
  split
  · split <;> trivial
  · rename_i hfinite
    have hlast := toNat_lt_of_ne_neg_one hfinite
    split
    · rename_i hzero
      split
      · trivial
      · have hexponent : (unpackExponent b : BitVec 11).toNat = 0 := by
          rw [hzero]
          rfl
        exact ⟨⟨by omega, by omega, .inr (by omega)⟩, by omega⟩
    · rename_i hnonzero
      have hpos := toNat_pos_of_ne_zero hnonzero
      have hnormal := toNat_one_append (unpackMantissa b)
      exact ⟨⟨by omega, by omega, .inl (by omega)⟩, by omega⟩

section Components

variable (s : Sign) {exponent : BitVec 11} {mantissa : BitVec 52}

/-- A normal double is read with the bit that is not stored. -/
theorem unpack_packComponents_normal (hfinite : exponent ≠ -1#11) (hnormal : exponent ≠ 0#11)
    (hm : 0 < 2 ^ 52 + mantissa.toNat) :
    UnpackedFloat.unpack Format.binary64 (packComponents Format.binary64 s exponent mantissa) =
      .finite s (2 ^ 52 + mantissa.toNat) (exponent.toNat - 1075) hm := by
  have hmantissa := toNat_one_append mantissa
  unfold UnpackedFloat.unpack
  simp only [unpackExponent_packComponents, unpackMantissa_packComponents, unpackSign_packComponents,
    Sign.ofBitVec_toBitVec, if_neg hfinite, if_neg hnormal, hmantissa, exponentBias_binary64]
  rfl

/-- A subnormal double is read as its fraction, at the least exponent. -/
theorem unpack_packComponents_subnormal (hm : 0 < mantissa.toNat) :
    UnpackedFloat.unpack Format.binary64 (packComponents Format.binary64 s 0#11 mantissa) =
      .finite s mantissa.toNat (-1074) hm := by
  have hnonzero : mantissa ≠ 0#52 := by
    rintro rfl
    exact absurd hm (by decide)
  have hfinite : (0#11) ≠ -1#11 := by decide
  unfold UnpackedFloat.unpack
  simp only [unpackExponent_packComponents, unpackMantissa_packComponents, unpackSign_packComponents,
    Sign.ofBitVec_toBitVec, if_neg hfinite, dif_neg hnonzero, if_true, exponentBias_binary64]
  rfl

end Components

theorem finite_congr {s : Sign} {m m' : Nat} {e e' : Int} {hm : 0 < m} {hm' : 0 < m'} (hmantissa : m = m')
    (hexponent : e = e') : UnpackedFloat.finite s m e hm = .finite s m' e' hm' := by
  subst hmantissa hexponent
  rfl

theorem mantissaBits_binary64 : Format.binary64.mantissaBits = 53 := rfl

/-- What can be stored is found again. -/
theorem unpack_pack {a : UnpackedFloat} (h : Stored a) :
    UnpackedFloat.unpack Format.binary64 (UnpackedFloat.pack Format.binary64 a) = a := by
  cases a with
  | notANumber => rfl
  | infinity s => cases s <;> rfl
  | zero s => cases s <;> rfl
  | finite s m e hm =>
    obtain ⟨⟨hmantissa, hexponent, hnormal⟩, hlarge⟩ := h
    unfold UnpackedFloat.pack
    dsimp only
    rw [exponentBias_binary64, mantissaBits_binary64, if_neg (by omega)]
    rcases Nat.lt_or_ge m (2 ^ 52) with hsubnormal | hnormal
    · have hlog : m.log2 < 52 := (Nat.log2_lt hm.ne').2 hsubnormal
      have hread : (BitVec.ofNat 52 m).toNat = m := by
        rw [BitVec.toNat_ofNat]
        exact Nat.mod_eq_of_lt hsubnormal
      rw [if_neg (by omega), unpack_packComponents_subnormal s (by rw [hread]; exact hm)]
      exact finite_congr hread (by omega)
    · have hread : 2 ^ 52 + (BitVec.ofNat 52 m).toNat = m := by
        rw [BitVec.toNat_ofNat]
        omega
      have hbiased : (BitVec.ofNat 11 (e + (1023 : Nat) + (52 : Nat)).toNat).toNat = (e + 1075).toNat := by
        rw [BitVec.toNat_ofNat]
        omega
      have hfinite : BitVec.ofNat 11 (e + (1023 : Nat) + (52 : Nat)).toNat ≠ -1#11 := by
        intro heq
        have hlast : (-1#11).toNat = 2047 := by decide
        rw [heq] at hbiased
        omega
      have hnonzero : BitVec.ofNat 11 (e + (1023 : Nat) + (52 : Nat)).toNat ≠ 0#11 := by
        intro heq
        have hfirst : (0#11).toNat = 0 := by decide
        rw [heq] at hbiased
        omega
      rw [if_pos (by rw [log2_of_normal hmantissa hnormal]),
        unpack_packComponents_normal s hfinite hnonzero (by omega)]
      exact finite_congr hread (by omega)

/-- What is too large becomes infinite. -/
theorem unpack_pack_of_large {s : Sign} {m : Nat} {e : Int} {hm : 0 < m} (h : 971 < e) :
    UnpackedFloat.unpack Format.binary64 (UnpackedFloat.pack Format.binary64 (.finite s m e hm)) =
      .infinity s := by
  unfold UnpackedFloat.pack
  dsimp only
  rw [exponentBias_binary64, if_pos (by omega)]
  cases s <;> rfl

/-! ## The order of magnitudes -/

/-- Larger than all finite doubles, in units of the smallest positive one. -/
@[irreducible] def limit : Nat :=
  2 ^ 2098

theorem magnitude_pos {m : Nat} {e : Int} (hm : 0 < m) : 0 < magnitude m e :=
  Nat.mul_pos hm (Nat.two_pow_pos _)

namespace Fits

variable {m m' : Nat} {e e' : Int}

/-- The exponent bounds a double from above. -/
theorem magnitude_lt (h : Fits m e) : magnitude m e < 2 ^ (53 + (e + 1074).toNat) := by
  unfold magnitude
  rw [pow_add]
  exact Nat.mul_lt_mul_of_pos_right h.mantissa (Nat.two_pow_pos _)

/-- Above the least exponent, the exponent bounds a double from below. -/
theorem le_magnitude (h : Fits m e) (he : -1074 < e) : 2 ^ (52 + (e + 1074).toNat) ≤ magnitude m e := by
  have hnormal : 2 ^ 52 ≤ m := by
    rcases h.normal with hnormal | hleast
    · exact hnormal
    · omega
  unfold magnitude
  rw [pow_add]
  exact Nat.mul_le_mul_right _ hnormal

theorem magnitude_lt_limit (h : Fits m e) (he : e ≤ 971) : magnitude m e < limit := by
  unfold limit
  exact h.magnitude_lt.trans_le (pow_le_pow_right₀ (by decide) (by omega))

theorem limit_le_magnitude (h : Fits m e) (he : 971 < e) : limit ≤ magnitude m e := by
  unfold limit
  exact (pow_le_pow_right₀ (by decide) (by omega)).trans (h.le_magnitude (by omega))

/-- Doubles with the larger exponent are larger. -/
theorem magnitude_lt_of_lt (h : Fits m e) (h' : Fits m' e') (he : e < e') :
    magnitude m e < magnitude m' e' := by
  have hleast : -1074 < e' := h.exponent.trans_lt he
  have hpow : 2 ^ (53 + (e + 1074).toNat) ≤ 2 ^ (52 + (e' + 1074).toNat) := by
    apply Nat.pow_le_pow_right (by decide)
    have := h.exponent
    omega
  exact (h.magnitude_lt.trans_le hpow).trans_le (h'.le_magnitude hleast)

/-- Exponents decide first, mantissas next. -/
theorem compare_magnitude (h : Fits m e) (h' : Fits m' e') :
    (compare e e').then (compare m m') = compare (magnitude m e) (magnitude m' e') := by
  rcases lt_trichotomy e e' with hlt | rfl | hgt
  · rw [compare_lt_iff_lt.2 hlt, compare_lt_iff_lt.2 (h.magnitude_lt_of_lt h' hlt)]
    rfl
  · rw [compare_eq_iff_eq.2 rfl, Ordering.eq_then]
    unfold magnitude
    have hpow : 0 < 2 ^ (e + 1074).toNat := Nat.two_pow_pos _
    rcases lt_trichotomy m m' with hlt | rfl | hgt
    · rw [compare_lt_iff_lt.2 hlt, compare_lt_iff_lt.2 (Nat.mul_lt_mul_of_pos_right hlt hpow)]
    · rw [compare_eq_iff_eq.2 rfl, compare_eq_iff_eq.2 rfl]
    · rw [compare_gt_iff_gt.2 hgt, compare_gt_iff_gt.2 (Nat.mul_lt_mul_of_pos_right hgt hpow)]
  · rw [compare_gt_iff_gt.2 hgt, compare_gt_iff_gt.2 (h'.magnitude_lt_of_lt h hgt)]
    rfl

end Fits

/-- An unpacked float in units of the smallest positive double. -/
def units : UnpackedFloat → Int
  | .infinity s => s.apply limit
  | .notANumber => 0
  | .zero _ => 0
  | .finite s m e _ => s.apply (magnitude m e)

@[simp] theorem units_notANumber : units .notANumber = 0 := rfl

@[simp] theorem units_zero (s : Sign) : units (.zero s) = 0 := rfl

@[simp] theorem units_infinity_negative : units (.infinity .negative) = -limit := rfl

@[simp] theorem units_infinity_positive : units (.infinity .positive) = limit := rfl

section Finite

variable {m : Nat} {e : Int} {hm : 0 < m}

@[simp] theorem units_finite_negative : units (.finite .negative m e hm) = -magnitude m e := rfl

@[simp] theorem units_finite_positive : units (.finite .positive m e hm) = magnitude m e := rfl

end Finite

theorem limit_pos : 0 < limit := by
  unfold limit
  exact pow_pos (by decide) _

/-- What is finite stays within the limit, in units of the smallest positive double. -/
theorem units_bounds {a : UnpackedFloat} (h : Stored a) (hfinite : a.isFinite = true) :
    -(limit : Int) < units a ∧ units a < limit := by
  have hlimit := limit_pos
  cases a with
  | infinity s => cases hfinite
  | notANumber => cases hfinite
  | zero s =>
    rw [units_zero]
    omega
  | finite s m e hm =>
    have hbelow := h.1.magnitude_lt_limit h.2
    cases s with
    | negative =>
      rw [units_finite_negative]
      omega
    | positive =>
      rw [units_finite_positive]
      omega

theorem compare_natCast (m n : Nat) : compare (m : Int) (n : Int) = compare m n := by
  rcases lt_trichotomy m n with hlt | rfl | hgt
  · rw [compare_lt_iff_lt.2 hlt, compare_lt_iff_lt.2 (by omega)]
  · rw [compare_eq_iff_eq.2 rfl, compare_eq_iff_eq.2 rfl]
  · rw [compare_gt_iff_gt.2 hgt, compare_gt_iff_gt.2 (by omega)]

theorem compare_neg (x y : Int) : compare (-x) (-y) = (compare x y).swap := by
  rcases lt_trichotomy x y with hlt | rfl | hgt
  · rw [compare_lt_iff_lt.2 hlt, compare_gt_iff_gt.2 (by omega)]
    rfl
  · rw [compare_eq_iff_eq.2 rfl, compare_eq_iff_eq.2 rfl]
    rfl
  · rw [compare_gt_iff_gt.2 hgt, compare_lt_iff_lt.2 (by omega)]
    rfl

/-- An infinite number is beyond all others. -/
theorem compare_infinity {b : UnpackedFloat} (hb : Stored b) (hnb : b.isNaN = false) (s : Sign) :
    (infinity s).compare b = some (compare (units (infinity s)) (units b)) := by
  have hlimit := limit_pos
  cases hfinite : b.isFinite with
  | false =>
    cases b with
    | notANumber => cases hnb
    | zero t => cases hfinite
    | finite t m e hm => cases hfinite
    | infinity t =>
      cases s <;> cases t
      · rw [compare_eq_iff_eq.2 rfl]
        rfl
      · rw [units_infinity_negative, units_infinity_positive, compare_lt_iff_lt.2 (by omega)]
        rfl
      · rw [units_infinity_negative, units_infinity_positive, compare_gt_iff_gt.2 (by omega)]
        rfl
      · rw [compare_eq_iff_eq.2 rfl]
        rfl
  | true =>
    obtain ⟨hlower, hupper⟩ := units_bounds hb hfinite
    cases s with
    | negative =>
      have hbelow : (infinity .negative).compare b = some .lt := by
        cases b <;> first | rfl | cases hfinite
      rw [hbelow, units_infinity_negative, compare_lt_iff_lt.2 hlower]
    | positive =>
      have habove : (infinity .positive).compare b = some .gt := by
        cases b <;> first | rfl | cases hfinite
      rw [habove, units_infinity_positive, compare_gt_iff_gt.2 hupper]

/-- All numbers that are not zero are on their side of it. -/
theorem compare_zero {b : UnpackedFloat} (hb : Stored b) (hnb : b.isNaN = false) (s : Sign) :
    (zero s).compare b = some (compare 0 (units b)) := by
  cases b with
  | notANumber => cases hnb
  | zero t => rfl
  | infinity t =>
    have hlimit := limit_pos
    cases t with
    | negative => rw [units_infinity_negative, compare_gt_iff_gt.2 (by omega)]; rfl
    | positive => rw [units_infinity_positive, compare_lt_iff_lt.2 (by omega)]; rfl
  | finite t m e hm =>
    have hpos := magnitude_pos (e := e) hm
    cases t with
    | negative => rw [units_finite_negative, compare_gt_iff_gt.2 (by omega)]; rfl
    | positive => rw [units_finite_positive, compare_lt_iff_lt.2 (by omega)]; rfl

/-- What holds one way round holds the other way round. -/
theorem compare_of_swap {a b : UnpackedFloat} (h : b.compare a = some (compare (units b) (units a))) :
    a.compare b = some (compare (units a) (units b)) := by
  rw [compare_swap, h, Option.map_some, Int.compare_swap]

/-- Comparing what can be stored is comparing integers. -/
theorem compare_eq_units {a b : UnpackedFloat} (ha : Stored a) (hb : Stored b) (hna : a.isNaN = false)
    (hnb : b.isNaN = false) : a.compare b = some (compare (units a) (units b)) := by
  cases a with
  | notANumber => cases hna
  | infinity s => exact compare_infinity hb hnb s
  | zero s => exact compare_zero hb hnb s
  | finite s m e hm =>
    cases b with
    | notANumber => cases hnb
    | infinity t => exact compare_of_swap (compare_infinity ha rfl t)
    | zero t => exact compare_of_swap (compare_zero ha rfl t)
    | finite t m' e' hm' =>
      have hmagnitudes := ha.1.compare_magnitude hb.1
      have hpos := magnitude_pos (e := e) hm
      have hpos' := magnitude_pos (e := e') hm'
      cases s <;> cases t
      · rw [units_finite_negative, units_finite_negative, compare_neg, compare_natCast, ← hmagnitudes]
        rfl
      · rw [units_finite_negative, units_finite_positive, compare_lt_iff_lt.2 (by omega)]
        rfl
      · rw [units_finite_positive, units_finite_negative, compare_gt_iff_gt.2 (by omega)]
        rfl
      · rw [units_finite_positive, units_finite_positive, compare_natCast, ← hmagnitudes]
        rfl

end Extremum.Binary64
