import Mathlib.Algebra.BigOperators.Fin
import Mathlib.Algebra.Field.Rat
import Mathlib.Data.Matrix.Mul
import Extremum.Proofs.Entries

/-!
# Coordinates

In exact arithmetic, lists of a known length are vectors in the usual sense and lists of rows are matrices, so that the
algebra of the library applies. Here every operation on lists is told in coordinates: sums, multiples, the products of
two vectors, and those of a matrix with a vector on either side.
-/

open scoped Matrix

namespace Extremum

namespace Vec

variable {n : ℕ} {x y : List ℚ}

/-- The first `n` entries of a list, and zeros if there are fewer. -/
def coords (n : ℕ) (x : List ℚ) : Fin n → ℚ :=
  fun k ↦ x[(k : ℕ)]?.getD 0

theorem getElem?_eq_coords (h : x.length = n) (k : Fin n) : x[(k : ℕ)]? = some (coords n x k) := by
  have hk : (k : ℕ) < x.length := Nat.lt_of_lt_of_eq k.isLt h.symm
  unfold coords
  rw [List.getElem?_eq_getElem hk]
  rfl

theorem coords_of_getElem? {k : Fin n} {v : ℚ} (h : x[(k : ℕ)]? = some v) : coords n x k = v := by
  unfold coords
  rw [h]
  rfl

/-- A list that was made of coordinates has these coordinates. -/
theorem coords_ofFn (u : Fin n → ℚ) : coords n (List.ofFn u) = u := by
  funext k
  apply coords_of_getElem?
  rw [List.getElem?_ofFn, dif_pos k.isLt]

/-- A list of known length is known by its coordinates. -/
theorem ext_coords (hx : x.length = n) (hy : y.length = n) (h : coords n x = coords n y) : x = y := by
  apply List.ext_getElem (hx.trans hy.symm)
  intro k hk hk'
  have hvalue := congrFun h ⟨k, Nat.lt_of_lt_of_eq hk hx⟩
  rwa [coords_of_getElem? (List.getElem?_eq_getElem hk), coords_of_getElem? (List.getElem?_eq_getElem hk')] at hvalue

/-! ## Operations entry by entry -/

/-- Operations that go entry by entry go coordinate by coordinate. -/
theorem coords_zipWith (f : ℚ → ℚ → ℚ) (hx : x.length = n) (hy : y.length = n) (k : Fin n) :
    coords n (x.zipWith f y) k = f (coords n x k) (coords n y k) := by
  apply coords_of_getElem?
  rw [List.getElem?_zipWith_eq_some]
  exact ⟨_, _, getElem?_eq_coords hx k, getElem?_eq_coords hy k, rfl⟩

theorem coords_add (hx : x.length = n) (hy : y.length = n) : coords n (add x y) = coords n x + coords n y := by
  funext k
  exact coords_zipWith _ hx hy k

theorem coords_sub (hx : x.length = n) (hy : y.length = n) : coords n (sub x y) = coords n x - coords n y := by
  funext k
  exact coords_zipWith _ hx hy k

theorem coords_scale (c : ℚ) (hx : x.length = n) : coords n (scale c x) = c • coords n x := by
  funext k
  apply coords_of_getElem?
  unfold scale
  rw [List.getElem?_map, getElem?_eq_coords hx]
  rfl

theorem coords_zeros : coords n (zeros n) = 0 := by
  funext k
  apply coords_of_getElem?
  exact List.getElem?_replicate_of_lt k.isLt

/-- A vector with one entry that is not zero has one coordinate that is not. -/
theorem coords_spike (j : Fin n) (step : ℚ) : coords n (spike n j step) = Pi.single j step := by
  funext k
  apply coords_of_getElem?
  unfold spike
  rw [List.getElem?_map, List.getElem?_range k.isLt, Option.map_some]
  simp only [Pi.single_apply, Fin.ext_iff]

/-! ## Products -/

/-- The rounded sum of products is, over the rationals, the scalar product. -/
theorem dot_eq_dotProduct (hx : x.length = n) (hy : y.length = n) :
    Scalar.dot x y = coords n x ⬝ᵥ coords n y := by
  have hlength : (x.zipWith (· * ·) y).length = n := by
    rw [List.length_zipWith, hx, hy, Nat.min_self]
  have hproducts : x.zipWith (· * ·) y = List.ofFn fun k ↦ coords n x k * coords n y k := by
    apply ext_coords hlength List.length_ofFn
    funext k
    rw [coords_zipWith _ hx hy, coords_ofFn]
  calc Scalar.dot x y = (x.zipWith (· * ·) y).sum := List.sum_eq_foldl.symm
    _ = (List.ofFn fun k ↦ coords n x k * coords n y k).sum := by rw [hproducts]
    _ = coords n x ⬝ᵥ coords n y := List.sum_ofFn

end Vec

namespace Matrix

variable {a : Matrix ℚ} {m n : ℕ} {x : List ℚ}

/-- The first entries of the first rows, by row and column. -/
def grid (m n : ℕ) (a : Matrix ℚ) :=
  -- The type of the result is left out, as its name means lists of rows here.
  Matrix.of fun (i : Fin m) (j : Fin n) ↦ a.entry? i j |>.getD 0

/-- A matrix with the same entries across the diagonal is its own transpose. -/
theorem transpose_grid (h : ∀ i j, a.entry? i j = a.entry? j i) : (grid n n a)ᵀ = grid n n a := by
  ext i j
  exact congrArg (Option.getD · 0) (h j i)

theorem coords_row (a : Matrix ℚ) (i : Fin m) : Vec.coords n (a.row i) = grid m n a i := by
  funext j
  have hrow : (a.row i)[(j : ℕ)]? = a.entry? i j := by
    unfold row entry?
    cases a.rows[(i : ℕ)]? <;> rfl
  exact congrArg (Option.getD · 0) hrow

/-- A row that a matrix has is the one at its position. -/
theorem row_eq_getElem {i : ℕ} (hi : i < a.rows.length) : a.row i = a.rows[i] := by
  unfold row
  rw [List.getElem?_eq_getElem hi]
  rfl

theorem length_row_of_lt {i : ℕ} (hi : i < a.height) : (a.row i).length = a.width := by
  rw [row_eq_getElem hi]
  exact a.length_row _ (List.getElem_mem hi)

/-- Applying a matrix is multiplying by it. -/
theorem coords_apply (hheight : a.height = m) (hwidth : a.width = n) (hx : x.length = n) :
    Vec.coords m (a.apply x) = grid m n a *ᵥ Vec.coords n x := by
  funext i
  have hi : (i : ℕ) < a.rows.length := Nat.lt_of_lt_of_eq i.isLt hheight.symm
  have hlength : (a.row i).length = n := (length_row_of_lt hi).trans hwidth
  apply Vec.coords_of_getElem?
  unfold apply
  rw [List.getElem?_map, List.getElem?_eq_getElem hi, Option.map_some, ← row_eq_getElem hi,
    Vec.dot_eq_dotProduct hlength hx, coords_row]
  rfl

/-- Applying a matrix from the left is multiplying a row vector by it. -/
theorem coords_applyLeft (hheight : a.height = m) (hwidth : a.width = n) (hx : x.length = m) :
    Vec.coords n (applyLeft x a) = Vec.coords m x ᵥ* grid m n a := by
  funext j
  have hj : (j : ℕ) < a.width := Nat.lt_of_lt_of_eq j.isLt hwidth.symm
  have hcolumn : Vec.coords m (a.column j) = fun i ↦ grid m n a i j := by
    funext i
    exact congrArg (Option.getD · 0) (getElem?_column hj i)
  have hlength : (a.column j).length = m := (length_column hj).trans hheight
  apply Vec.coords_of_getElem?
  unfold applyLeft columns
  rw [List.getElem?_map, List.getElem?_map, List.getElem?_range hj, Option.map_some, Option.map_some,
    Vec.dot_eq_dotProduct hx hlength, hcolumn]
  rfl

/-! ## Tables of entries -/

/-- The matrix of the entries in a table. -/
def tabulate (u : Fin m → Fin n → ℚ) : Matrix ℚ :=
  ⟨List.ofFn fun i ↦ List.ofFn (u i), n, by simp [List.mem_ofFn]⟩

variable {u : Fin m → Fin n → ℚ}

@[simp] theorem height_tabulate (u : Fin m → Fin n → ℚ) : (tabulate u).height = m :=
  List.length_ofFn

/-- The rows of a table are its rows as lists. -/
theorem rows_tabulate_eq_some_iff {i : ℕ} {row : List ℚ} :
    (tabulate u).rows[i]? = some row ↔ ∃ k : Fin m, i = k ∧ row = List.ofFn (u k) := by
  unfold tabulate
  rw [List.getElem?_ofFn]
  constructor
  · intro h
    split at h
    · rename_i hi
      exact ⟨⟨i, hi⟩, rfl, (Option.some.inj h).symm⟩
    · cases h
  · rintro ⟨k, rfl, rfl⟩
    exact dif_pos k.isLt

/-- The entries of a matrix that was made of a table are those of the table. -/
theorem entry?_tabulate_eq_some_iff {i j : ℕ} {v : ℚ} :
    Matrix.entry? (tabulate u) i j = some v ↔ ∃ (k : Fin m) (l : Fin n), i = k ∧ j = l ∧ v = u k l := by
  rw [entry?_eq_some_iff]
  constructor
  · rintro ⟨row, hrow, hv⟩
    obtain ⟨k, rfl, rfl⟩ := rows_tabulate_eq_some_iff.1 hrow
    rw [List.getElem?_ofFn] at hv
    split at hv
    · rename_i hj
      exact ⟨k, ⟨j, hj⟩, rfl, rfl, (Option.some.inj hv).symm⟩
    · cases hv
  · rintro ⟨k, l, rfl, rfl, rfl⟩
    refine ⟨_, rows_tabulate_eq_some_iff.2 ⟨k, rfl, rfl⟩, ?_⟩
    rw [List.getElem?_ofFn]
    exact dif_pos l.isLt

theorem entry?_tabulate (k : Fin m) (l : Fin n) : Matrix.entry? (tabulate u) k l = some (u k l) :=
  entry?_tabulate_eq_some_iff.2 ⟨k, l, rfl, rfl, rfl⟩

theorem row_tabulate (k : Fin m) : (tabulate u).row k = List.ofFn (u k) := by
  unfold row
  rw [rows_tabulate_eq_some_iff.2 ⟨k, rfl, rfl⟩]
  rfl

/-- The matrix of zeros is the table of zeros. -/
theorem tabulate_zero : tabulate (fun _ _ ↦ 0 : Fin m → Fin n → ℚ) = zeros m n := by
  unfold tabulate zeros Vec.zeros
  simp only [List.ofFn_const]

/-- The table of a matrix that was made of a table is that table. -/
theorem grid_tabulate : grid m n (tabulate u) = Matrix.of u := by
  ext k l
  exact congrArg (Option.getD · 0) (entry?_tabulate k l)

/-- A table that is its own mirror image has the same entries across the diagonal. -/
theorem entry?_tabulate_comm {u : Fin n → Fin n → ℚ} (h : ∀ j k, u j k = u k j) (j k : ℕ) :
    Matrix.entry? (tabulate u) j k = Matrix.entry? (tabulate u) k j := by
  apply Option.ext
  intro v
  rw [entry?_tabulate_eq_some_iff, entry?_tabulate_eq_some_iff]
  constructor
  · rintro ⟨a, b, hj, hk, rfl⟩
    exact ⟨b, a, hk, hj, h a b⟩
  · rintro ⟨a, b, hk, hj, rfl⟩
    exact ⟨b, a, hj, hk, h a b⟩

end Matrix

end Extremum
