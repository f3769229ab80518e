import Extremum.Proofs.Binary64.Sums

/-!
# Arithmetic of doubles

What follows for the numbers that programs compute with: the order of doubles is that of integers, a difference
of different numbers is not zero, and a sum of numbers that are not negative is at least each of them. All of
this holds of infinite numbers too, and of sums of lists: such a sum is infinite if one of its summands is, and
zero exactly if all of them are (`sum_le_zero_iff`).
-/

namespace Extremum.Binary64

open Float.Model Float.Model.UnpackedFloat

/-- A double in units of the smallest positive one. -/
def integer (x : Float) : Int :=
  units x.toModel.unpack

theorem stored (x : Float) : Stored x.toModel.unpack :=
  stored_unpack _

/-! ## The order -/

section Order

variable {x y : Float}

theorem compare_eq (hx : x.isNaN = false) (hy : y.isNaN = false) :
    x.toModel.unpack.compare y.toModel.unpack = some (compare (integer x) (integer y)) :=
  compare_eq_units (stored x) (stored y) hx hy

/-- Defined doubles are ordered as the integers that they stand for. -/
theorem lt_iff_integer (hx : x.isNaN = false) (hy : y.isNaN = false) : x < y ↔ integer x < integer y := by
  rw [lt_iff]
  unfold UnpackedFloat.lt
  rw [compare_eq hx hy, beq_iff_eq, Option.some.injEq, compare_lt_iff_lt]

theorem le_iff_integer (hx : x.isNaN = false) (hy : y.isNaN = false) : x ≤ y ↔ integer x ≤ integer y := by
  rw [le_iff_not_lt hx hy, lt_iff_integer hy hx, not_lt]

theorem beq_iff_integer (hx : x.isNaN = false) (hy : y.isNaN = false) :
    (x == y) = true ↔ integer x = integer y := by
  have hbeq : (x == y) = x.toModel.unpack.beq y.toModel.unpack := rfl
  rw [hbeq]
  unfold UnpackedFloat.beq
  rw [compare_eq hx hy, beq_iff_eq, Option.some.injEq, compare_eq_iff_eq]

/-- Comparisons with the undefined number have no answer. -/
theorem compare_eq_none {a b : UnpackedFloat} (h : a.isNaN = true ∨ b.isNaN = true) : a.compare b = none := by
  cases a with
  | notANumber => rfl
  | infinity s =>
    cases b with
    | notANumber => cases s <;> rfl
    | _ => rcases h with h | h <;> cases h
  | zero s =>
    cases b with
    | notANumber => cases s <;> rfl
    | _ => rcases h with h | h <;> cases h
  | finite s m e hm =>
    cases b with
    | notANumber => cases s <;> rfl
    | _ => rcases h with h | h <;> cases h

/-- What can be compared is defined. -/
theorem defined_of_le (h : x ≤ y) : x.isNaN = false ∧ y.isNaN = false := by
  by_contra hundefined
  have hnan : x.toModel.unpack.isNaN = true ∨ y.toModel.unpack.isNaN = true := by
    rw [← Bool.not_eq_true, ← Bool.not_eq_true, ← not_or, not_not] at hundefined
    exact hundefined
  rw [le_iff] at h
  unfold UnpackedFloat.le at h
  rw [compare_eq_none hnan] at h
  cases h

theorem le_of_lt (h : x < y) : x ≤ y := by
  rw [lt_iff] at h
  rw [le_iff]
  unfold UnpackedFloat.lt at h
  unfold UnpackedFloat.le
  rw [beq_iff_eq] at h
  rw [h]
  rfl

/-- Undefined doubles come below nothing, so nothing has to be asked of the three. -/
theorem le_trans {z : Float} (hxy : x ≤ y) (hyz : y ≤ z) : x ≤ z := by
  obtain ⟨hx, hy⟩ := defined_of_le hxy
  obtain ⟨-, hz⟩ := defined_of_le hyz
  rw [le_iff_integer hx hy] at hxy
  rw [le_iff_integer hy hz] at hyz
  rw [le_iff_integer hx hz]
  exact hxy.trans hyz

theorem le_refl (hx : x.isNaN = false) : x ≤ x := by
  rw [le_iff_integer hx hx]

theorem not_le_of_lt (h : x < y) : ¬y ≤ x := by
  obtain ⟨hx, hy⟩ := defined_of_le (le_of_lt h)
  exact (lt_iff_not_le hx hy).1 h

end Order

/-! ## Zero and infinity -/

theorem unpack_zero : (0 : Float).toModel.unpack = .zero .positive := by rfl

theorem unpack_infinity : (Unbounded.infinity : Float).toModel.unpack = .infinity .positive := by rfl

@[simp] theorem integer_zero : integer 0 = 0 := by
  unfold integer
  rw [unpack_zero, units_zero]

theorem zero_le_zero : (0 : Float) ≤ 0 := by
  decide

theorem infinity_nonneg : (0 : Float) ≤ Unbounded.infinity := by
  decide

theorem not_infinity_le_zero : ¬(Unbounded.infinity : Float) ≤ 0 := by
  decide

/-- A double that is defined is finite or infinite. -/
theorem isFinite_or {x : Float} (hx : x.isNaN = false) :
    x.isFinite = true ∨ ∃ s, x.toModel.unpack = .infinity s := by
  change x.toModel.unpack.isNaN = false at hx
  change x.toModel.unpack.isFinite = true ∨ _
  generalize x.toModel.unpack = a at hx ⊢
  cases a with
  | notANumber => cases hx
  | infinity s => exact .inr ⟨s, rfl⟩
  | zero s => exact .inl rfl
  | finite s m e hm => exact .inl rfl

theorem integer_bounds (x : Float) : -(limit : Int) ≤ integer x ∧ integer x ≤ limit := by
  have hlimit := limit_pos
  have hstored := stored x
  unfold integer
  cases h : x.toModel.unpack with
  | notANumber =>
    rw [units_notANumber]
    omega
  | infinity s =>
    cases s with
    | negative =>
      rw [units_infinity_negative]
      omega
    | positive =>
      rw [units_infinity_positive]
      omega
  | zero s =>
    rw [units_zero]
    omega
  | finite s m e hm =>
    rw [h] at hstored
    obtain ⟨hlower, hupper⟩ := units_bounds hstored rfl
    omega

/-- Infinite doubles stand for the limit, with their sign. -/
theorem integer_of_infinity {x : Float} {s : Sign} (h : x.toModel.unpack = .infinity s) :
    integer x = s.apply limit := by
  unfold integer
  rw [h]
  rfl

section Infinite

variable {x : Float}

/-- Finite doubles stand for integers within the limit. -/
theorem integer_bounds_of_isFinite (hx : x.isFinite = true) :
    -(limit : Int) < integer x ∧ integer x < limit :=
  units_bounds (stored x) hx

/-- Only finite doubles stand for integers within the limit. -/
theorem isFinite_of_integer (hx : x.isNaN = false) (hlower : -(limit : Int) < integer x)
    (hupper : integer x < limit) : x.isFinite = true := by
  rcases isFinite_or hx with hfinite | ⟨s, hinfinite⟩
  · exact hfinite
  · have hvalue := integer_of_infinity hinfinite
    cases s with
    | negative => exact absurd hlower (by rw [hvalue]; exact lt_irrefl _)
    | positive => exact absurd hupper (by rw [hvalue]; exact lt_irrefl _)

theorem unpack_of_limit_le (hx : x.isNaN = false) (h : (limit : Int) ≤ integer x) :
    x.toModel.unpack = .infinity .positive := by
  have hlimit := limit_pos
  rcases isFinite_or hx with hfinite | ⟨s, hinfinite⟩
  · exact absurd (integer_bounds_of_isFinite hfinite).2 (not_lt_of_ge h)
  · cases s with
    | negative =>
      have hvalue : integer x = -limit := integer_of_infinity hinfinite
      omega
    | positive => exact hinfinite

theorem unpack_of_le_neg_limit (hx : x.isNaN = false) (h : integer x ≤ -(limit : Int)) :
    x.toModel.unpack = .infinity .negative := by
  have hlimit := limit_pos
  rcases isFinite_or hx with hfinite | ⟨s, hinfinite⟩
  · exact absurd (integer_bounds_of_isFinite hfinite).1 (not_lt_of_ge h)
  · cases s with
    | negative => exact hinfinite
    | positive =>
      have hvalue : integer x = limit := integer_of_infinity hinfinite
      omega

theorem defined_of_unpack_infinity (h : x.toModel.unpack = .infinity .positive) :
    x.isNaN = false ∧ integer x = limit := by
  constructor
  · change x.toModel.unpack.isNaN = false
    rw [h]
    rfl
  · exact integer_of_infinity h

/-- No finite double is above an infinite one. -/
theorem not_le_of_unpack_infinity {t : Float} (hx : x.toModel.unpack = .infinity .positive) (ht : t.isFinite = true) :
    ¬x ≤ t := by
  obtain ⟨hdefined, hvalue⟩ := defined_of_unpack_infinity hx
  have hbelow := (integer_bounds_of_isFinite ht).2
  rw [le_iff_integer hdefined (isNaN_of_isFinite ht)]
  omega

end Infinite

/-! ## Sums and differences -/

theorem unpack_add (x y : Float) : (x + y).toModel.unpack =
    settled (UnpackedFloat.add Format.binary64 x.toModel.unpack y.toModel.unpack) := rfl

theorem unpack_sub (x y : Float) : (x - y).toModel.unpack =
    settled (UnpackedFloat.sub Format.binary64 x.toModel.unpack y.toModel.unpack) := rfl

/-- An infinite summand wins over everything but its opposite. -/
theorem add_eq_infinity {a b : UnpackedFloat} (spec : Format)
    (h : a = .infinity .positive ∧ b.isNaN = false ∧ b ≠ .infinity .negative ∨
      b = .infinity .positive ∧ a.isNaN = false ∧ a ≠ .infinity .negative) :
    UnpackedFloat.add spec a b = .infinity .positive := by
  rcases h with ⟨rfl, hdefined, hopposite⟩ | ⟨rfl, hdefined, hopposite⟩
  · cases b with
    | notANumber => cases hdefined
    | infinity s =>
      cases s with
      | negative => exact absurd rfl hopposite
      | positive => rfl
    | _ => rfl
  · cases a with
    | notANumber => cases hdefined
    | infinity s =>
      cases s with
      | negative => exact absurd rfl hopposite
      | positive => rfl
    | _ => rfl

theorem isNaN_neg (a : UnpackedFloat) : a.neg.isNaN = a.isNaN := by
  cases a <;> rfl

theorem settled_infinity : settled (.infinity .positive) = .infinity .positive :=
  settled_of_stored (a := .infinity .positive) trivial

section Sums

variable {x y : Float}

/-- A sum of finite doubles is the double nearest to the sum of what they stand for. -/
theorem add_of_isFinite (hx : x.isFinite = true) (hy : y.isFinite = true) :
    (x + y).isNaN = false ∧ integer (x + y) = rounded (integer x + integer y) :=
  settled_add (stored x) (stored y) hx hy

/-- A difference of finite doubles is the double nearest to the difference of what they stand for. -/
theorem sub_of_isFinite (hx : x.isFinite = true) (hy : y.isFinite = true) :
    (x - y).isNaN = false ∧ integer (x - y) = rounded (integer x - integer y) :=
  settled_sub (stored x) (stored y) hx hy

/-- A double is the one nearest to itself. -/
theorem rounded_integer (hx : x.isFinite = true) : rounded (integer x) = integer x :=
  rounded_units (stored x) hx

theorem ne_infinity_of_integer {s : Sign} (h : integer x ≠ s.apply limit) :
    x.toModel.unpack ≠ .infinity s :=
  fun hinfinite ↦ h (integer_of_infinity hinfinite)

theorem ne_neg_infinity_of_nonneg (hx : 0 ≤ x) : x.toModel.unpack ≠ .infinity .negative := by
  obtain ⟨hzero, hdefined⟩ := defined_of_le hx
  have hpositive := (le_iff_integer hzero hdefined).1 hx
  have hlimit := limit_pos
  rw [integer_zero] at hpositive
  apply ne_infinity_of_integer
  change integer x ≠ -(limit : Int)
  omega

/-- A difference with an infinite operand is infinite as soon as the first operand is the larger one. -/
theorem unpack_sub_of_infinite (h : y < x) (hinfinite : (limit : Int) ≤ integer x ∨ integer y ≤ -(limit : Int)) :
    (x - y).toModel.unpack = .infinity .positive := by
  obtain ⟨hy, hx⟩ := defined_of_le (le_of_lt h)
  have hbelow := (lt_iff_integer hy hx).1 h
  rw [unpack_sub, sub_eq_add_neg, add_eq_infinity _ ?_, settled_infinity]
  rcases hinfinite with hlarge | hsmall
  · have hopposite : y.toModel.unpack.neg ≠ .infinity .negative := by
      intro hneg
      have hvalue := congrArg units hneg
      rw [units_neg, units_infinity_negative] at hvalue
      change -integer y = -(limit : Int) at hvalue
      have hupper := (integer_bounds x).2
      omega
    exact .inl ⟨unpack_of_limit_le hx hlarge, (isNaN_neg _).trans hy, hopposite⟩
  · have hopposite : x.toModel.unpack ≠ .infinity .negative := by
      apply ne_infinity_of_integer
      change integer x ≠ -(limit : Int)
      have hlower := (integer_bounds y).1
      omega
    have hneg : y.toModel.unpack.neg = .infinity .positive := by
      rw [unpack_of_le_neg_limit hy hsmall]
      rfl
    exact .inr ⟨hneg, hx, hopposite⟩

/-- A sum with an infinite operand is infinite if neither operand is negative. -/
theorem unpack_add_of_infinite (hx : 0 ≤ x) (hy : 0 ≤ y)
    (hinfinite : (limit : Int) ≤ integer x ∨ (limit : Int) ≤ integer y) :
    (x + y).toModel.unpack = .infinity .positive := by
  have hdx := (defined_of_le hx).2
  have hdy := (defined_of_le hy).2
  rw [unpack_add, add_eq_infinity _ ?_, settled_infinity]
  rcases hinfinite with hlarge | hlarge
  · exact .inl ⟨unpack_of_limit_le hdx hlarge, hdy, ne_neg_infinity_of_nonneg hy⟩
  · exact .inr ⟨unpack_of_limit_le hdy hlarge, hdx, ne_neg_infinity_of_nonneg hx⟩

/-- A larger number less a smaller one is positive: the difference is not rounded to zero, and it is defined also
if one of the numbers is infinite. -/
theorem sub_pos (h : y < x) : 0 < x - y := by
  obtain ⟨hy, hx⟩ := defined_of_le (le_of_lt h)
  have hbelow := (lt_iff_integer hy hx).1 h
  have hpositive : (x - y).isNaN = false ∧ 0 < integer (x - y) := by
    by_cases hbounded : integer x < limit ∧ -(limit : Int) < integer y
    · have hfx : x.isFinite = true := isFinite_of_integer hx (by omega) hbounded.1
      have hfy : y.isFinite = true := isFinite_of_integer hy hbounded.2 (by omega)
      obtain ⟨hdefined, hvalue⟩ := sub_of_isFinite hfx hfy
      refine ⟨hdefined, ?_⟩
      calc (0 : Int) < 1 := Int.zero_lt_one
        _ = rounded 1 := rounded_one.symm
        _ ≤ rounded (integer x - integer y) := rounded_mono (by omega)
        _ = integer (x - y) := hvalue.symm
    · have hlimit := limit_pos
      obtain ⟨hdefined, hvalue⟩ := defined_of_unpack_infinity (unpack_sub_of_infinite h (by omega))
      exact ⟨hdefined, by omega⟩
  rw [lt_iff_integer (by decide) hpositive.1, integer_zero]
  exact hpositive.2

/-- A sum of numbers that are not negative is at least each of them. -/
theorem add_nonneg (hx : 0 ≤ x) (hy : 0 ≤ y) : x ≤ x + y ∧ y ≤ x + y := by
  obtain ⟨hzero, hdx⟩ := defined_of_le hx
  have hdy := (defined_of_le hy).2
  have hpositivex := (le_iff_integer hzero hdx).1 hx
  have hpositivey := (le_iff_integer hzero hdy).1 hy
  rw [integer_zero] at hpositivex hpositivey
  have hlimit := limit_pos
  have hsum : (x + y).isNaN = false ∧ integer x ≤ integer (x + y) ∧ integer y ≤ integer (x + y) := by
    by_cases hbounded : integer x < limit ∧ integer y < limit
    · have hfx : x.isFinite = true := isFinite_of_integer hdx (by omega) hbounded.1
      have hfy : y.isFinite = true := isFinite_of_integer hdy (by omega) hbounded.2
      obtain ⟨hdefined, hvalue⟩ := add_of_isFinite hfx hfy
      refine ⟨hdefined, ?_, ?_⟩
      · calc integer x = rounded (integer x) := (rounded_integer hfx).symm
          _ ≤ rounded (integer x + integer y) := rounded_mono (by omega)
          _ = integer (x + y) := hvalue.symm
      · calc integer y = rounded (integer y) := (rounded_integer hfy).symm
          _ ≤ rounded (integer x + integer y) := rounded_mono (by omega)
          _ = integer (x + y) := hvalue.symm
    · have hupperx := (integer_bounds x).2
      have huppery := (integer_bounds y).2
      obtain ⟨hdefined, hvalue⟩ := defined_of_unpack_infinity (unpack_add_of_infinite hx hy (by omega))
      exact ⟨hdefined, by omega, by omega⟩
  rw [le_iff_integer hdx hsum.1, le_iff_integer hdy hsum.1]
  exact hsum.2

theorem add_eq (x y : Float) : x + y = .ofModel
    (.pack (UnpackedFloat.add Format.binary64 x.toModel.unpack y.toModel.unpack)) := rfl

/-- An infinite summand makes an infinite sum. -/
theorem add_infinity (hx : 0 ≤ x) : x + Unbounded.infinity = Unbounded.infinity := by
  rw [add_eq, add_eq_infinity _ (.inr ⟨unpack_infinity, (defined_of_le hx).2, ne_neg_infinity_of_nonneg hx⟩)]
  rfl

theorem infinity_add (hx : 0 ≤ x) : Unbounded.infinity + x = Unbounded.infinity := by
  rw [add_eq, add_eq_infinity _ (.inl ⟨unpack_infinity, (defined_of_le hx).2, ne_neg_infinity_of_nonneg hx⟩)]
  rfl

theorem settled_add_zero {a : UnpackedFloat} (ha : Stored a) (hna : a.isNaN = false) (s : Sign) :
    (settled (UnpackedFloat.add Format.binary64 a (.zero s))).isNaN = false ∧
      units (settled (UnpackedFloat.add Format.binary64 a (.zero s))) = units a := by
  have hsum : Stored (UnpackedFloat.add Format.binary64 a (.zero s)) ∧
      (UnpackedFloat.add Format.binary64 a (.zero s)).isNaN = false ∧
      units (UnpackedFloat.add Format.binary64 a (.zero s)) = units a := by
    cases a with
    | notANumber => cases hna
    | infinity t => exact ⟨trivial, rfl, rfl⟩
    | zero t => cases t <;> cases s <;> exact ⟨trivial, rfl, rfl⟩
    | finite t m e hm => exact ⟨ha, rfl, rfl⟩
  rw [settled_of_stored hsum.1]
  exact hsum.2

/-- Adding zero changes at most the sign of zero. -/
theorem integer_add_zero (hx : x.isNaN = false) : (x + 0).isNaN = false ∧ integer (x + 0) = integer x :=
  settled_add_zero (stored x) hx .positive

theorem integer_sub_zero (hx : x.isNaN = false) : (x - 0).isNaN = false ∧ integer (x - 0) = integer x := by
  have hsub := settled_add_zero (stored x) hx .negative
  change (x - 0).toModel.unpack.isNaN = false ∧ units (x - 0).toModel.unpack = integer x
  rw [unpack_sub, sub_eq_add_neg]
  exact hsub

end Sums

/-! ## Sums of numbers that are not negative -/

section Nonneg

variable {x y : Float} {xs : List Float}

/-- What is not negative is zero if it is not positive either. -/
theorem beq_zero_iff (hx : 0 ≤ x) : (x == 0) = true ↔ x ≤ 0 := by
  obtain ⟨hzero, hdefined⟩ := defined_of_le hx
  rw [le_iff_integer hzero hdefined] at hx
  rw [beq_iff_integer hdefined hzero, le_iff_integer hdefined hzero]
  omega

/-- Sums of doubles that are not negative are defined, and are not negative either. -/
theorem nonneg_add (hx : 0 ≤ x) (hy : 0 ≤ y) : 0 ≤ x + y :=
  le_trans hx (add_nonneg hx hy).1

theorem integer_eq_zero (hx : 0 ≤ x) (hx' : x ≤ 0) : x.isFinite = true ∧ integer x = 0 := by
  obtain ⟨hzero, hdefined⟩ := defined_of_le hx
  rw [le_iff_integer hzero hdefined, integer_zero] at hx
  rw [le_iff_integer hdefined hzero, integer_zero] at hx'
  have hlimit := limit_pos
  exact ⟨isFinite_of_integer hdefined (by omega) (by omega), by omega⟩

/-- A sum of doubles that are not negative is zero only if both are. -/
theorem add_le_zero_iff (hx : 0 ≤ x) (hy : 0 ≤ y) : x + y ≤ 0 ↔ x ≤ 0 ∧ y ≤ 0 := by
  obtain ⟨hleft, hright⟩ := add_nonneg hx hy
  constructor
  · intro h
    exact ⟨le_trans hleft h, le_trans hright h⟩
  · rintro ⟨hx', hy'⟩
    obtain ⟨hfx, hvx⟩ := integer_eq_zero hx hx'
    obtain ⟨hfy, hvy⟩ := integer_eq_zero hy hy'
    obtain ⟨hdefined, hvalue⟩ := add_of_isFinite hfx hfy
    rw [hvx, hvy, Int.add_zero, rounded_zero] at hvalue
    rw [le_iff_integer hdefined (by decide), hvalue, integer_zero]

/-- Adding doubles that are not negative never makes a sum smaller. -/
theorem le_foldl_add (hx : 0 ≤ x) (h : ∀ y ∈ xs, 0 ≤ y) : x ≤ xs.foldl (· + ·) x := by
  induction xs generalizing x with
  | nil => exact le_refl (defined_of_le hx).2
  | cons y rest ih =>
    obtain ⟨hy, hrest⟩ := List.forall_mem_cons.1 h
    obtain ⟨hleft, -⟩ := add_nonneg hx hy
    exact le_trans hleft (ih (nonneg_add hx hy) hrest)

theorem foldl_add_le_zero_iff (hx : 0 ≤ x) (h : ∀ y ∈ xs, 0 ≤ y) :
    xs.foldl (· + ·) x ≤ 0 ↔ x ≤ 0 ∧ ∀ y ∈ xs, y ≤ 0 := by
  induction xs generalizing x with
  | nil => simp
  | cons y rest ih =>
    obtain ⟨hy, hrest⟩ := List.forall_mem_cons.1 h
    rw [List.foldl_cons, ih (nonneg_add hx hy) hrest, add_le_zero_iff hx hy,
      List.forall_mem_cons, and_assoc]

theorem foldl_add_infinity (h : ∀ y ∈ xs, 0 ≤ y) :
    xs.foldl (· + ·) Unbounded.infinity = (Unbounded.infinity : Float) := by
  induction xs with
  | nil => rfl
  | cons y rest ih =>
    obtain ⟨hy, hrest⟩ := List.forall_mem_cons.1 h
    rw [List.foldl_cons, infinity_add hy]
    exact ih hrest

/-- An infinite entry makes a sum infinite, wherever it comes. -/
theorem foldl_add_of_mem (hx : 0 ≤ x) (h : ∀ y ∈ xs, 0 ≤ y) (hmem : Unbounded.infinity ∈ xs) :
    xs.foldl (· + ·) x = Unbounded.infinity := by
  induction xs generalizing x with
  | nil => cases hmem
  | cons y rest ih =>
    obtain ⟨hy, hrest⟩ := List.forall_mem_cons.1 h
    rw [List.foldl_cons]
    rcases List.mem_cons.1 hmem with rfl | hlater
    · rw [add_infinity hx]
      exact foldl_add_infinity hrest
    · exact ih (nonneg_add hx hy) hrest hlater

/-- A sum of doubles that are not negative is defined and not negative, however it is rounded. -/
theorem sum_nonneg (h : ∀ y ∈ xs, 0 ≤ y) : 0 ≤ Scalar.sum xs :=
  le_foldl_add zero_le_zero h

/-- A sum of doubles that are not negative is zero exactly if all of them are: nothing that was added can be rounded
away. -/
theorem sum_le_zero_iff (h : ∀ y ∈ xs, 0 ≤ y) : Scalar.sum xs ≤ 0 ↔ ∀ y ∈ xs, y ≤ 0 :=
  (foldl_add_le_zero_iff zero_le_zero h).trans (and_iff_right zero_le_zero)

/-- One infinite entry makes the sum of a list infinite. -/
theorem sum_of_mem_infinity (h : ∀ y ∈ xs, 0 ≤ y) (hmem : Unbounded.infinity ∈ xs) :
    Scalar.sum xs = Unbounded.infinity :=
  foldl_add_of_mem zero_le_zero h hmem

end Nonneg

end Extremum.Binary64
