import Extremum.Proofs.Binary64.Distance

/-!
# Sums and differences that are not rounded

A sum of two finite doubles is exact if it is finite and its value is the sum of their values; nothing is rounded when
one of them is infinite. Between exact results, what is subtracted on one side of an inequality can be moved to the
other side (`sub_le_iff_sub_le`, `sub_le_iff_le_add`). Infinite doubles are no exception if the bound is finite: a
difference of different doubles is then infinite, and above the bound.
-/

namespace Extremum.Binary64

open Float.Model Float.Model.UnpackedFloat

variable {x y t : Float}

/-- A sum that is not rounded. -/
def ExactAdd (x y : Float) : Prop :=
  x.isFinite = true → y.isFinite = true → (x + y).isFinite = true ∧ integer (x + y) = integer x + integer y

/-- A difference that is not rounded. -/
def ExactSub (x y : Float) : Prop :=
  x.isFinite = true → y.isFinite = true → (x - y).isFinite = true ∧ integer (x - y) = integer x - integer y

/-! ## Infinite doubles and a finite one -/

section Infinite

variable {s : Sign}

theorem defined_of_unpack (h : x.toModel.unpack = .infinity s) : x.isNaN = false := by
  change x.toModel.unpack.isNaN = false
  rw [h]
  rfl

theorem settled_infinity_add {b : UnpackedFloat} (hb : b.isFinite = true) :
    settled (UnpackedFloat.add Format.binary64 (.infinity s) b) = .infinity s := by
  have hsum : UnpackedFloat.add Format.binary64 (.infinity s) b = .infinity s := by
    cases b with
    | notANumber => cases hb
    | infinity t => cases hb
    | _ => rfl
  rw [hsum]
  exact settled_of_stored (a := .infinity s) trivial

/-- What is finite makes no difference to an infinite double when it is added. -/
theorem unpack_infinity_add (hx : x.toModel.unpack = .infinity s) (ht : t.isFinite = true) :
    (x + t).toModel.unpack = .infinity s := by
  rw [unpack_add, hx]
  exact settled_infinity_add ht

/-- What is finite makes no difference to an infinite double when it is taken away. -/
theorem unpack_infinity_sub (hx : x.toModel.unpack = .infinity s) (ht : t.isFinite = true) :
    (x - t).toModel.unpack = .infinity s := by
  have hneg : t.toModel.unpack.neg.isFinite = true := (isFinite_neg _).trans ht
  rw [unpack_sub, hx, sub_eq_add_neg]
  exact settled_infinity_add hneg

end Infinite

/-! ## Bounds that are not negative -/

section Nonneg

variable (hx : x.isNaN = false) (ht : t.isFinite = true) (hnonneg : 0 ≤ t)

include hx ht hnonneg

/-- Adding what is not negative gives nothing smaller. -/
theorem le_add_of_nonneg : x ≤ x + t := by
  have hpositive : 0 ≤ integer t := by
    rwa [le_iff_integer (by decide) (isNaN_of_isFinite ht), integer_zero] at hnonneg
  rcases isFinite_or hx with hfinite | ⟨s, hinfinite⟩
  · obtain ⟨hdefined, hvalue⟩ := add_of_isFinite hfinite ht
    rw [le_iff_integer hx hdefined, hvalue]
    calc integer x = rounded (integer x) := (rounded_integer hfinite).symm
      _ ≤ rounded (integer x + integer t) := rounded_mono (by omega)
  · have hsum := unpack_infinity_add hinfinite ht
    rw [le_iff_integer hx (defined_of_unpack hsum), integer_of_infinity hinfinite, integer_of_infinity hsum]

/-- Taking away what is not negative gives nothing larger. -/
theorem sub_le_of_nonneg : x - t ≤ x := by
  have hpositive : 0 ≤ integer t := by
    rwa [le_iff_integer (by decide) (isNaN_of_isFinite ht), integer_zero] at hnonneg
  rcases isFinite_or hx with hfinite | ⟨s, hinfinite⟩
  · obtain ⟨hdefined, hvalue⟩ := sub_of_isFinite hfinite ht
    rw [le_iff_integer hdefined hx, hvalue]
    calc rounded (integer x - integer t) ≤ rounded (integer x) := rounded_mono (by omega)
      _ = integer x := rounded_integer hfinite
  · have hdifference := unpack_infinity_sub hinfinite ht
    rw [le_iff_integer (defined_of_unpack hdifference) hx, integer_of_infinity hinfinite,
      integer_of_infinity hdifference]

end Nonneg

/-! ## Moving a number to the other side -/

section Moving

variable (hyx : y < x) (ht : t.isFinite = true)

include hyx ht

/-- Two different doubles are finite, or their difference is above every finite bound. -/
theorem isFinite_or_not_le : x.isFinite = true ∧ y.isFinite = true ∨
    ¬x - y ≤ t ∧ ((limit : Int) ≤ integer x ∨ integer y ≤ -(limit : Int)) := by
  obtain ⟨hy, hx⟩ := defined_of_le (le_of_lt hyx)
  have hbelow := (lt_iff_integer hy hx).1 hyx
  by_cases hextreme : (limit : Int) ≤ integer x ∨ integer y ≤ -(limit : Int)
  · exact .inr ⟨not_le_of_unpack_infinity (unpack_sub_of_infinite hyx hextreme) ht, hextreme⟩
  · have hfx : x.isFinite = true := isFinite_of_integer hx (by omega) (by omega)
    have hfy : y.isFinite = true := isFinite_of_integer hy (by omega) (by omega)
    exact .inl ⟨hfx, hfy⟩

/-- A difference is at most a bound if and only if the larger number, lowered by the bound, is at most the smaller. -/
theorem sub_le_iff_sub_le (hxy : ExactSub x y) (hxt : ExactSub x t) : x - y ≤ t ↔ x - t ≤ y := by
  obtain ⟨hy, hx⟩ := defined_of_le (le_of_lt hyx)
  rcases isFinite_or_not_le hyx ht with ⟨hfx, hfy⟩ | ⟨hfar, hextreme⟩
  · obtain ⟨hdifference, hvalue⟩ := hxy hfx hfy
    obtain ⟨hlowered, hvalue'⟩ := hxt hfx ht
    rw [le_iff_integer (isNaN_of_isFinite hdifference) (isNaN_of_isFinite ht),
      le_iff_integer (isNaN_of_isFinite hlowered) hy, hvalue, hvalue']
    omega
  · refine iff_of_false hfar fun hle ↦ ?_
    rw [le_iff_integer (defined_of_le hle).1 hy] at hle
    rw [lt_iff_integer hy hx] at hyx
    rcases isFinite_or hx with hfx | ⟨s, hinfinite⟩
    · have hlowered := (integer_bounds_of_isFinite (hxt hfx ht).1).1
      have hfinite := (integer_bounds_of_isFinite hfx).2
      omega
    · rw [integer_of_infinity (unpack_infinity_sub hinfinite ht), ← integer_of_infinity hinfinite] at hle
      omega

/-- A difference is at most a bound if and only if the smaller number, raised by the bound, is at least the larger. -/
theorem sub_le_iff_le_add (hxy : ExactSub x y) (hyt : ExactAdd y t) : x - y ≤ t ↔ x ≤ y + t := by
  obtain ⟨hy, hx⟩ := defined_of_le (le_of_lt hyx)
  rcases isFinite_or_not_le hyx ht with ⟨hfx, hfy⟩ | ⟨hfar, hextreme⟩
  · obtain ⟨hdifference, hvalue⟩ := hxy hfx hfy
    obtain ⟨hraised, hvalue'⟩ := hyt hfy ht
    rw [le_iff_integer (isNaN_of_isFinite hdifference) (isNaN_of_isFinite ht),
      le_iff_integer hx (isNaN_of_isFinite hraised), hvalue, hvalue']
    omega
  · refine iff_of_false hfar fun hle ↦ ?_
    rw [le_iff_integer hx (defined_of_le hle).2] at hle
    rw [lt_iff_integer hy hx] at hyx
    rcases isFinite_or hy with hfy | ⟨s, hinfinite⟩
    · have hraised := (integer_bounds_of_isFinite (hyt hfy ht).1).2
      have hfinite := (integer_bounds_of_isFinite hfy).1
      omega
    · rw [integer_of_infinity (unpack_infinity_add hinfinite ht), ← integer_of_infinity hinfinite] at hle
      omega

end Moving

end Extremum.Binary64
