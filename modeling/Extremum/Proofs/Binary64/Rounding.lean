import Extremum.Proofs.Binary64.Nearest
import Extremum.Proofs.Binary64.Stored

/-!
# How results are rounded

Rounding shifts a mantissa to the right, keeps one bit and a summary of the others, and rounds by these; and it
shifts once more if the mantissa has grown by a bit. In units of the smallest positive double this is the
rounding of natural numbers to 53 bits (`round_eq`).
-/

namespace Extremum.Binary64

open Float.Model Float.Model.UnpackedFloat

/-! ## Dropping bits -/

/-- Shifting right keeps the first bit that is lost, and whether any other was set. -/
theorem shiftRight_succ (m k : Nat) : (⟨m, false, false⟩ : ExtendedMantissa) >>> (k + 1) =
    ⟨m / 2 ^ (k + 1), m / 2 ^ k % 2 != 0, m % 2 ^ k != 0⟩ := by
  induction k with
  | zero =>
    change ExtendedMantissa.shiftRightOne ⟨m, false, false⟩ = _
    simp [ExtendedMantissa.shiftRightOne, Nat.mod_one]
  | succ k ih =>
    have hquotient : m / 2 ^ (k + 1) / 2 = m / 2 ^ (k + 1 + 1) := by
      rw [Nat.div_div_eq_div_mul, ← pow_succ]
    have hsticky : (m / 2 ^ k % 2 != 0 || m % 2 ^ k != 0) = (m % 2 ^ (k + 1) != 0) := by
      have hpow : 0 < 2 ^ k := Nat.two_pow_pos k
      rw [Nat.mod_pow_succ, Bool.eq_iff_iff]
      simp only [Bool.or_eq_true, bne_iff_ne]
      rcases Nat.mod_two_eq_zero_or_one (m / 2 ^ k) with h | h <;> rw [h] <;> omega
    change ExtendedMantissa.shiftRightOne ((⟨m, false, false⟩ : ExtendedMantissa) >>> (k + 1)) = _
    rw [ih]
    unfold ExtendedMantissa.shiftRightOne
    dsimp only
    rw [hquotient, hsticky]

/-- Half-even rounding, told from the last bit that is dropped first and the rest of the dropped bits. -/
theorem halfEven_succ {m k q b rest : Nat} (hm : m = (2 * q + b) * 2 ^ k + rest) (hb : b < 2)
    (hrest : rest < 2 ^ k) :
    halfEven m (k + 1) = if b = 0 then q else if rest = 0 then q + q % 2 else q + 1 := by
  have hpow : 0 < 2 ^ k := Nat.two_pow_pos k
  have hdenominator : 2 ^ (k + 1 + 1) = 4 * 2 ^ k := by ring
  have hhalf : 2 ^ (k + 1) = 2 * 2 ^ k := by ring
  have hfirst : m / 2 ^ k = 2 * q + b := by
    rw [hm, Nat.mul_comm, Nat.mul_add_div hpow, Nat.div_eq_of_lt hrest, Nat.add_zero]
  have hquotient : m / 2 ^ (k + 1) = q := by
    rw [pow_succ, ← Nat.div_div_eq_div_mul, hfirst]
    omega
  have hround (i : Nat) (hlower : i * (4 * 2 ^ k) ≤ 2 * (b * 2 ^ k + rest) + 2 * 2 ^ k - 1 + q % 2)
      (hupper : 2 * (b * 2 ^ k + rest) + 2 * 2 ^ k - 1 + q % 2 < (i + 1) * (4 * 2 ^ k)) :
      halfEven m (k + 1) = q + i := by
    have hnumerator : 2 * m + 2 ^ (k + 1) - 1 + q % 2 =
        q * (4 * 2 ^ k) + (2 * (b * 2 ^ k + rest) + 2 * 2 ^ k - 1 + q % 2) := by
      have hexpanded : 2 * m = q * (4 * 2 ^ k) + 2 * (b * 2 ^ k + rest) := by
        rw [hm]
        ring
      omega
    unfold halfEven
    rw [hquotient, hdenominator, hnumerator, Nat.add_comm, Nat.add_mul_div_right _ _ (by omega), Nat.add_comm]
    congr 1
    exact Nat.div_eq_of_lt_le hlower hupper
  have hparity : q % 2 < 2 := Nat.mod_lt _ (by decide)
  obtain rfl | rfl : b = 0 ∨ b = 1 := by omega
  · rw [if_pos rfl]
    exact hround 0 (by omega) (by omega)
  · rw [if_neg Nat.one_ne_zero]
    rcases Nat.eq_zero_or_pos rest with rfl | hpositive
    · rw [if_pos rfl]
      rcases Nat.mod_two_eq_zero_or_one q with heven | hodd
      · rw [heven]
        exact hround 0 (by omega) (by omega)
      · rw [hodd]
        exact hround 1 (by omega) (by omega)
    · rw [if_neg hpositive.ne']
      exact hround 1 (by omega) (by omega)

/-- The bits that are dropped are enough to round to the nearest number. -/
theorem roundedMantissa_shiftRight (m k : Nat) :
    ((⟨m, false, false⟩ : ExtendedMantissa) >>> k).roundedMantissa = halfEven m k := by
  cases k with
  | zero =>
    rw [halfEven_zero]
    rfl
  | succ k =>
    have hrest : m % 2 ^ k < 2 ^ k := Nat.mod_lt _ (Nat.two_pow_pos k)
    have hquotient : 2 * (m / 2 ^ (k + 1)) + m / 2 ^ k % 2 = m / 2 ^ k := by
      rw [pow_succ, ← Nat.div_div_eq_div_mul, Nat.div_add_mod]
    have hsum : m = (2 * (m / 2 ^ (k + 1)) + m / 2 ^ k % 2) * 2 ^ k + m % 2 ^ k := by
      rw [hquotient, Nat.div_add_mod']
    rw [shiftRight_succ, halfEven_succ hsum (Nat.mod_lt _ (by decide)) hrest]
    rcases Nat.mod_two_eq_zero_or_one (m / 2 ^ k) with hb | hb
    · rw [hb, if_pos rfl]
      cases m % 2 ^ k <;> rfl
    · rw [hb, if_neg Nat.one_ne_zero]
      cases m % 2 ^ k <;> rfl

/-! ## Rounding to a mantissa and an exponent -/

section Round

variable {m : Nat} {e : Int}

/-- Shifting left moves the first bit. -/
theorem log2_mul_pow (hm : 0 < m) (k : Nat) : (m * 2 ^ k).log2 = m.log2 + k := by
  have hpow : 0 < 2 ^ k := Nat.two_pow_pos k
  rw [Nat.log2_eq_iff (Nat.mul_pos hm hpow).ne']
  constructor
  · rw [pow_add]
    exact Nat.mul_le_mul_right _ (Nat.log2_self_le hm.ne')
  · rw [Nat.add_right_comm, pow_add]
    exact Nat.mul_lt_mul_of_pos_right Nat.lt_log2_self hpow

/-- The exponent that a number is to get leaves as many bits of it as there are places. -/
theorem targetExponent_eq (hm : 0 < m) (he : -1074 ≤ e) :
    Format.binary64.targetExponent (totalExponent m e) = (spare (magnitude m e) : Int) - 1074 := by
  have hleast : Format.binary64.minExponent = -1074 := rfl
  unfold Format.targetExponent totalExponent spare magnitude
  rw [log2_mul_pow hm, hleast, mantissaBits_binary64]
  omega

theorem shiftToTargetExponent_eq (hm : 0 < m) (he : -1074 ≤ e) :
    shiftToTargetExponent Format.binary64 m e .exact =
      ((⟨m, false, false⟩ : ExtendedMantissa) >>> ((spare (magnitude m e) : Int) - 1074 - e).toNat,
        e + ((spare (magnitude m e) : Int) - 1074 - e).toNat) := by
  unfold shiftToTargetExponent
  rw [targetExponent_eq hm he]
  rfl

/-- Rounding may need one more bit than there are places, but then the last bit is zero. -/
theorem shiftToTargetExponent_of_rounded (hm : 0 < m) (hlarge : m ≤ 2 ^ 53) (he : -1074 ≤ e)
    (hnormal : 2 ^ 52 ≤ m ∨ e = -1074) : ∃ em e', shiftToTargetExponent Format.binary64 m e .exact = (em, e') ∧
      0 < em.mantissa ∧ Fits em.mantissa e' ∧ magnitude em.mantissa e' = magnitude m e := by
  rw [shiftToTargetExponent_eq hm he]
  rcases Nat.lt_or_eq_of_le hlarge with hlt | rfl
  · have hspare : spare (magnitude m e) ≤ (e + 1074).toNat := by
      apply spare_le_of_lt
      unfold magnitude
      rw [pow_add]
      exact Nat.mul_lt_mul_of_pos_right hlt (Nat.two_pow_pos _)
    have hshift : ((spare (magnitude m e) : Int) - 1074 - e).toNat = 0 := by omega
    rw [hshift]
    refine ⟨_, _, rfl, hm, ⟨hlt, ?_, ?_⟩, ?_⟩
    · omega
    · rcases hnormal with hnormal | hleast
      · exact .inl hnormal
      · exact .inr (by omega)
    · have hexponent : e + (0 : Nat) = e := by omega
      rw [hexponent]
      rfl
  · have hspare : spare (magnitude (2 ^ 53) e) = (e + 1074).toNat + 1 := by
      unfold spare magnitude
      rw [log2_mul_pow (by decide), Nat.log2_two_pow]
      omega
    have hshift : ((spare (magnitude (2 ^ 53) e) : Int) - 1074 - e).toNat = 0 + 1 := by omega
    rw [hshift, shiftRight_succ]
    refine ⟨_, _, rfl, by decide, ⟨by decide, by omega, .inl (by decide)⟩, ?_⟩
    unfold magnitude
    have hexponent : (e + (0 + 1 : Nat) + 1074).toNat = (e + 1074).toNat + 1 := by omega
    have hmantissa : 2 ^ 53 / 2 ^ (0 + 1) = 2 ^ 52 := by decide
    rw [hexponent]
    dsimp only
    rw [hmantissa]
    ring

/-- Moving a factor of two from the exponent to the mantissa changes nothing. -/
theorem magnitude_decrease {k : Nat} (h : -1074 ≤ e - k) : magnitude (m <<< k) (e - k) = magnitude m e := by
  have hexponent : (e + 1074).toNat = k + (e - k + 1074).toNat := by omega
  unfold magnitude
  rw [Nat.shiftLeft_eq, hexponent, pow_add, Nat.mul_assoc]

/-- The first shift and the rounding in one: what is left of the mantissa is the rounded number. -/
theorem shiftToTargetExponent_spec (hm : 0 < m) (he : -1074 ≤ e) (hsmall : e ≤ spare (magnitude m e) - 1074) :
    ∃ em, shiftToTargetExponent Format.binary64 m e .exact = (em, (spare (magnitude m e) : Int) - 1074) ∧
      em.roundedMantissa = halfEven (magnitude m e) (spare (magnitude m e)) := by
  rw [shiftToTargetExponent_eq hm he]
  have hexponent : e + ((spare (magnitude m e) : Int) - 1074 - e).toNat = spare (magnitude m e) - 1074 := by
    omega
  have hspare : ((spare (magnitude m e) : Int) - 1074 - e).toNat + (e + 1074).toNat =
      spare (magnitude m e) := by omega
  refine ⟨_, congrArg _ hexponent, ?_⟩
  have hscale := halfEven_scale m (e + 1074).toNat ((spare (magnitude m e) : Int) - 1074 - e).toNat
  rw [hspare] at hscale
  rw [roundedMantissa_shiftRight]
  exact hscale.symm

theorem halfEven_spare_pos {n : Nat} (hn : 0 < n) : 0 < halfEven n (spare n) := by
  rcases Nat.eq_zero_or_pos (spare n) with hzero | hpos
  · rw [hzero, halfEven_zero]
    exact hn
  · exact (Nat.two_pow_pos 52).trans_le (le_halfEven_spare hpos)

/-- Rounding a positive number gives the nearest one that has 53 bits. -/
theorem round_eq (s : Sign) (hm : 0 < m) (he : -1074 ≤ e) :
    ∃ q e', ∃ hq : 0 < q, UnpackedFloat.round Format.binary64 s m e = .finite s q e' hq ∧ Fits q e' ∧
      magnitude q e' = nearest (magnitude m e) := by
  obtain ⟨d, hd⟩ : ∃ d, d = (e - ((spare (magnitude m e) : Int) - 1074)).toNat := ⟨_, rfl⟩
  have hround : UnpackedFloat.round Format.binary64 s m e =
      roundWithAccuracy Format.binary64 s (m <<< d) (e - d) .exact := by
    unfold UnpackedFloat.round decreaseExponent
    rw [targetExponent_eq hm he, hd]
  have hsame : magnitude (m <<< d) (e - d) = magnitude m e := magnitude_decrease (by omega)
  have hpositive : 0 < m <<< d := by
    rw [Nat.shiftLeft_eq]
    exact Nat.mul_pos hm (Nat.two_pow_pos d)
  obtain ⟨em, hshift, hrounded⟩ :=
    shiftToTargetExponent_spec hpositive (e := e - d) (by omega) (by rw [hsame]; omega)
  rw [hsame] at hshift hrounded
  have hspare : 2 ^ 52 ≤ halfEven (magnitude m e) (spare (magnitude m e)) ∨
      (spare (magnitude m e) : Int) - 1074 = -1074 := by
    rcases Nat.eq_zero_or_pos (spare (magnitude m e)) with hzero | hpos
    · exact .inr (by omega)
    · exact .inl (le_halfEven_spare hpos)
  obtain ⟨last, e', hlast, hq, hfits, hvalue⟩ := shiftToTargetExponent_of_rounded
    (halfEven_spare_pos (magnitude_pos hm)) (halfEven_spare_le _) (by omega) hspare
  refine ⟨last.mantissa, e', hq, ?_, hfits, ?_⟩
  · rw [hround]
    unfold roundWithAccuracy
    rw [hshift]
    dsimp only
    rw [hrounded, hlast]
    exact dif_neg hq.ne'
  · rw [hvalue]
    unfold magnitude nearest
    congr 2
    omega

end Round

end Extremum.Binary64
