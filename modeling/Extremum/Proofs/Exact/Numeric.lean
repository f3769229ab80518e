import Mathlib.Tactic.Ring
import Extremum.Proofs.Exact.Coordinates
import Extremum.Proofs.Function.Answers
import Extremum.Proofs.Function.DebugMode

/-!
# Functions given by numbers

Functions of a matrix, of a symmetric quadratic form, constants and shifts. In exact arithmetic their methods compute
the usual formulas: `evaluate_eq`, `gradient_eq` and `jacobian_eq` tell their answers in coordinates. Values and
gradients belong together, as the expansion of second order around a point is exact (`value_add`).
-/

open scoped Matrix

namespace Extremum

/-! ## Formulas -/

namespace Affine

def value (map : Affine ℚ) (x : Fin map.matrix.width → ℚ) : Fin map.matrix.height → ℚ :=
  map.matrix.grid _ _ *ᵥ x + Vec.coords _ map.offset

/-- A linear function changes along a vector by the product with its row. -/
theorem value_add (map : Affine ℚ) (x h : Fin map.matrix.width → ℚ) (i : Fin map.matrix.height) :
    map.value (x + h) i = map.value x i + map.matrix.grid _ _ i ⬝ᵥ h := by
  unfold value
  rw [Matrix.mulVec_add]
  exact add_right_comm _ _ _

theorem coords_value (map : Affine ℚ) {x : List ℚ} (hx : x.length = map.matrix.width) :
    Vec.coords map.matrix.height (Vec.add (map.matrix.apply x) map.offset) = map.value (Vec.coords _ x) := by
  rw [Vec.coords_add (map.matrix.length_apply x) map.length_offset, Matrix.coords_apply rfl rfl hx]
  rfl

end Affine

namespace Quadratic

variable (form : Quadratic ℚ)

/-- The coefficients of second order, by row and column. -/
def grid :=
  form.matrix.grid form.matrix.width form.matrix.width

def value (x : Fin form.matrix.width → ℚ) : ℚ :=
  x ⬝ᵥ form.grid *ᵥ x / 2 + Vec.coords _ form.slope ⬝ᵥ x + form.level

def gradient (x : Fin form.matrix.width → ℚ) : Fin form.matrix.width → ℚ :=
  form.grid *ᵥ x + Vec.coords _ form.slope

variable {form}

/-- A quadratic function changes along a vector by its gradient and by half the square of the vector. -/
theorem value_add (hsymmetric : form.gridᵀ = form.grid) (x h : Fin form.matrix.width → ℚ) :
    form.value (x + h) = form.value x + form.gradient x ⬝ᵥ h + h ⬝ᵥ form.grid *ᵥ h / 2 := by
  -- The mixed terms are the same, as the coefficients are their own transpose.
  have hcross : x ⬝ᵥ form.grid *ᵥ h = form.grid *ᵥ x ⬝ᵥ h := by
    rw [Matrix.dotProduct_mulVec, ← Matrix.mulVec_transpose, hsymmetric]
  have hcross' : h ⬝ᵥ form.grid *ᵥ x = form.grid *ᵥ x ⬝ᵥ h := dotProduct_comm _ _
  unfold value gradient
  rw [Matrix.mulVec_add, add_dotProduct, dotProduct_add, dotProduct_add, dotProduct_add, add_dotProduct, hcross,
    hcross']
  ring

section Coordinates

variable {x : List ℚ} (hx : x.length = form.matrix.width)

include hx

theorem dot_eq_value : Scalar.dot (Matrix.applyLeft (Vec.scale 0.5 x) form.matrix) x + Scalar.dot form.slope x
    + form.level = form.value (Vec.coords _ x) := by
  have hhalf : @OfScientific.ofScientific ℚ Scalar.toOfScientific 5 true 1 = 1 / 2 := by norm_num
  have hscaled : (Vec.scale (0.5 : ℚ) x).length = form.matrix.width := (Vec.length_scale _ x).trans hx
  have hleft := Matrix.coords_applyLeft form.square rfl hscaled
  rw [Vec.dot_eq_dotProduct (Matrix.length_applyLeft _ _) hx, Vec.dot_eq_dotProduct form.length_slope hx, hleft,
    Vec.coords_scale _ hx, ← Matrix.dotProduct_mulVec, smul_dotProduct, smul_eq_mul, hhalf, one_div_mul_eq_div]
  rfl

theorem coords_gradient : Vec.coords form.matrix.width (Vec.add (form.matrix.apply x) form.slope) =
    form.gradient (Vec.coords _ x) := by
  have happly : (form.matrix.apply x).length = form.matrix.width := (form.matrix.length_apply x).trans form.square
  rw [Vec.coords_add happly form.length_slope, Matrix.coords_apply form.square rfl hx]
  rfl

end Coordinates

end Quadratic

/-- Every rational number is close to itself. -/
theorem Vec.close_self (x : List ℚ) : Close x x :=
  List.forall₂_same.2 fun v _ ↦ .inr (beq_self_eq_true v)

namespace Function

/-- The function is given by numbers, and the entries across the diagonal of a quadratic one are the same. -/
inductive Numeric {α : Type} : Function α → Prop
  | affine (name : String) (map : Affine α) : Numeric (.affine name map)
  | quadratic (name : String) (form : Quadratic α)
    (hsymmetric : ∀ j k, form.matrix.entry? j k = form.matrix.entry? k j) : Numeric (.quadratic name form)
  | constant (name : String) (inputs : ℕ) (value : List α) : Numeric (.constant name inputs value)
  | shift (name : String) (offset : List α) : Numeric (.shift name offset)

def value : (f : Function ℚ) → (Fin f.inputSize → ℚ) → Fin f.outputSize → ℚ
  | affine _ map, x => map.value x
  | quadratic _ form, x => fun _ ↦ form.value x
  | constant _ _ value, _ => Vec.coords _ value
  | shift _ offset, x => x + Vec.coords _ offset
  | symbolic .., _ | custom .., _ | finiteDifference .., _ => 0

def slope : (f : Function ℚ) → (Fin f.inputSize → ℚ) → Fin f.outputSize → Fin f.inputSize → ℚ
  | affine _ map, _ => map.matrix.grid _ _
  | quadratic _ form, x => fun _ ↦ form.gradient x
  | shift .., _ => fun i ↦ Pi.single i 1
  | constant .., _ | symbolic .., _ | custom .., _ | finiteDifference .., _ => 0

/-- How the gradients change along a vector, the same for all outputs and everywhere. -/
def curvature : (f : Function ℚ) → (Fin f.inputSize → ℚ) → Fin f.inputSize → ℚ
  | quadratic _ form, h => form.grid *ᵥ h
  | affine .., _ | constant .., _ | shift .., _ | symbolic .., _ | custom .., _ | finiteDifference .., _ => 0

variable {f : Function ℚ}

/-- The expansion of second order is exact. -/
theorem value_add (hf : f.Numeric) (x h : Fin f.inputSize → ℚ) (i : Fin f.outputSize) :
    f.value (x + h) i = f.value x i + f.slope x i ⬝ᵥ h + h ⬝ᵥ f.curvature h / 2 := by
  -- Apart from quadratic functions there is nothing of second order.
  have hflat {u v : ℚ} (huv : u = v) : u = v + h ⬝ᵥ (0 : Fin f.inputSize → ℚ) / 2 := by
    rw [huv, dotProduct_zero, zero_div, add_zero]
  cases hf with
  | affine name map => exact hflat (map.value_add x h i)
  | quadratic name form hsymmetric => exact Quadratic.value_add (Matrix.transpose_grid hsymmetric) x h
  | constant name inputs value =>
    apply hflat
    have hcoordinate : slope (constant name inputs value) x i ⬝ᵥ h = 0 := zero_dotProduct h
    rw [hcoordinate]
    exact (add_zero _).symm
  | shift name offset =>
    apply hflat
    have hcoordinate : slope (shift name offset) x i ⬝ᵥ h = h i := single_one_dotProduct i h
    rw [hcoordinate]
    exact add_right_comm (x i) (h i) _

theorem curvature_neg (h : Fin f.inputSize → ℚ) : f.curvature (-h) = -f.curvature h := by
  cases f with
  | quadratic name form => exact Matrix.mulVec_neg _ _
  | _ => exact neg_zero.symm

/-- Steps in opposite directions differ by twice what the gradient says. -/
theorem value_add_sub_value_sub (hf : f.Numeric) (x h : Fin f.inputSize → ℚ) (i : Fin f.outputSize) :
    f.value (x + h) i - f.value (x - h) i = 2 * (f.slope x i ⬝ᵥ h) := by
  rw [sub_eq_add_neg x h, value_add hf, value_add hf, curvature_neg, dotProduct_neg, neg_dotProduct_neg]
  ring

/-! ## Parts -/

variable {x : List ℚ}

theorem ofList_ofFn {n : ℕ} {entries : List ℚ} {u : Fin n → ℚ} (hlength : entries.length = n)
    (hcoords : Vec.coords n entries = u) : Nested.ofList entries = .ofList (List.ofFn u) := by
  rw [Vec.ext_coords hlength List.length_ofFn (hcoords.trans (Vec.coords_ofFn u).symm)]

/-- What a function that is given by numbers computes is its value in coordinates. -/
theorem compute_eq (hf : f.Numeric) (hx : x.length = f.inputSize) :
    f.compute x = .ok (.ofList (List.ofFn (f.value (Vec.coords f.inputSize x)))) := by
  cases hf with
  | affine name map =>
    apply congrArg Except.ok
    apply ofList_ofFn
    · rw [Vec.length_add, Matrix.length_apply, map.length_offset, Nat.min_self]
      rfl
    · exact map.coords_value hx
  | quadratic name form hsymmetric =>
    apply congrArg Except.ok
    exact congrArg (fun v ↦ Nested.ofList [v]) (Quadratic.dot_eq_value hx)
  | constant name inputs value =>
    apply congrArg Except.ok
    exact ofList_ofFn rfl rfl
  | shift name offset =>
    apply congrArg Except.ok
    apply ofList_ofFn
    · rw [Vec.length_add, hx]
      exact Nat.min_self _
    · exact Vec.coords_add hx rfl

/-- What it answers as raw gradients are its slopes. -/
theorem rawGradient_eq (hf : f.Numeric) (hx : x.length = f.inputSize) (i : Fin f.outputSize) :
    f.rawGradient x i = .ok (.ofList (List.ofFn (f.slope (Vec.coords f.inputSize x) i))) := by
  cases hf with
  | affine name map =>
    apply congrArg Except.ok
    apply ofList_ofFn
    · exact Matrix.length_row_of_lt i.isLt
    · exact Matrix.coords_row map.matrix i
  | quadratic name form hsymmetric =>
    apply congrArg Except.ok
    apply ofList_ofFn
    · rw [Vec.length_add, Matrix.length_apply, form.square, form.length_slope]
      exact Nat.min_self _
    · exact Quadratic.coords_gradient hx
  | constant name inputs value =>
    apply congrArg Except.ok
    exact ofList_ofFn (Vec.length_zeros _) Vec.coords_zeros
  | shift name offset =>
    apply congrArg Except.ok
    exact ofList_ofFn (Vec.length_unit _ _) (Vec.coords_spike i 1)

theorem derivable_of_numeric (hf : f.Numeric) : f.tier.isSubtier .derivable = true := by
  cases hf <;> rfl

/-- Its jacobian is left to the library, or at hand. -/
theorem stacks_of_numeric (hf : f.Numeric) : f.Stacks := by
  cases hf <;> trivial

/-! ## Methods -/

def coords (f : Function ℚ) (point : Tensor ℚ) : Fin f.inputSize → ℚ :=
  Vec.coords f.inputSize point.data

variable {point : Tensor ℚ}

/-- In exact arithmetic, stacked gradients pass in debug mode. -/
theorem jacobian_of_exact_rows {a : Matrix ℚ} (hpoint : point.shape = [f.inputSize])
    (hderivable : f.tier.isSubtier .derivable = true) (hstacks : f.Stacks) (houtputs : 0 < f.outputSize)
    (hheight : a.height = f.outputSize) (hwidth : a.width = f.inputSize)
    (hrows : ∀ i row, a.rows[i]? = some row → f.rawGradient point.data i = .ok (.ofList row)) (debug : Bool) :
    f.jacobian debug point = .ok a := by
  have hplain : f.jacobian false point = .ok a :=
    jacobian_of_rows hpoint hderivable hstacks houtputs hheight hwidth hrows
  cases debug with
  | false => exact hplain
  | true =>
    apply jacobian_debug_eq_ok_iff.2 ⟨hplain, fun k row hrow ↦ ?_⟩
    have hk : k < f.outputSize := by
      rw [← hheight]
      exact (List.getElem?_eq_some_iff.1 hrow).1
    have hlength : row.length = f.inputSize := (Matrix.length_of_getElem? hrow).trans hwidth
    refine ⟨row, ?_, Vec.close_self row⟩
    exact gradient_of_rawGradient hpoint hderivable (by omega) (hrows k row hrow) hlength

/-- The gradients at a point, one row each. -/
def slopes (f : Function ℚ) (x : Fin f.inputSize → ℚ) : Matrix ℚ :=
  ⟨List.ofFn fun i ↦ List.ofFn (f.slope x i), f.inputSize, by simp [List.mem_ofFn]⟩

theorem slopes_row {x : Fin f.inputSize → ℚ} {i : ℕ} {row : List ℚ} (h : (f.slopes x).rows[i]? = some row) :
    ∃ k : Fin f.outputSize, i = k ∧ row = List.ofFn (f.slope x k) :=
  Matrix.rows_tabulate_eq_some_iff.1 h

section Methods

variable (hf : f.Numeric) (hpoint : point.shape = [f.inputSize])

include hf hpoint

/-- Values are told by the formulas. -/
theorem evaluate_eq : f.evaluate point = .ok (List.ofFn (f.value (f.coords point))) := by
  apply evaluate_of_compute hpoint
  · exact compute_eq hf (Tensor.length_of_shape hpoint)
  · exact List.length_ofFn

/-- Gradients are told by the formulas. -/
theorem gradient_eq (i : Fin f.outputSize) :
    f.gradient point (i : ℕ) = .ok (List.ofFn (f.slope (f.coords point) i)) := by
  have hi : (0 : ℤ) ≤ (i : ℕ) ∧ ((i : ℕ) : ℤ) < f.outputSize := by omega
  apply gradient_of_rawGradient hpoint (derivable_of_numeric hf) hi
  · exact rawGradient_eq hf (Tensor.length_of_shape hpoint) i
  · exact List.length_ofFn

/-- Jacobians are told by the formulas, and pass in debug mode. -/
theorem jacobian_eq (houtputs : 0 < f.outputSize) (debug : Bool) :
    f.jacobian debug point = .ok (f.slopes (f.coords point)) := by
  apply jacobian_of_exact_rows hpoint (derivable_of_numeric hf) (stacks_of_numeric hf) houtputs
  · exact List.length_ofFn
  · rfl
  · intro i row hrow
    obtain ⟨k, rfl, rfl⟩ := slopes_row hrow
    exact rawGradient_eq hf (Tensor.length_of_shape hpoint) k

end Methods

end Function

end Extremum
