import Extremum.Matrix
import Mathlib.Data.List.Forall2

/-!
# Entries of matrices

A matrix is stored by rows, and its columns are read off the rows. An entry of a column is the entry of that row, so
listing the rows and the columns one after the other pairs each entry with the one across the diagonal
(`mem_zip_columns_iff`). That is what a test of symmetry compares (`isSymmetric_iff`).
-/

namespace Extremum

variable {α β : Type}

/-- Lists whose items are equally long are paired item by item when they are put one after the other. -/
theorem mem_zip_flatten_iff {xs : List (List α)} {ys : List (List β)} {v : α} {w : β}
    (h : List.Forall₂ (fun x y ↦ x.length = y.length) xs ys) : (v, w) ∈ xs.flatten.zip ys.flatten ↔
      ∃ i j : Nat, xs[i]?.bind (·[j]?) = some v ∧ ys[i]?.bind (·[j]?) = some w := by
  induction h with
  | nil => simp
  | @cons x y xs ys hlength _ ih =>
    have hhead : (v, w) ∈ x.zip y ↔ ∃ j : Nat, x[j]? = some v ∧ y[j]? = some w := by
      rw [List.mem_iff_getElem?]
      exact exists_congr fun j ↦ List.getElem?_zip_eq_some
    rw [List.flatten_cons, List.flatten_cons, List.zip_append hlength, List.mem_append, hhead, ih]
    constructor
    · rintro (⟨j, hv, hw⟩ | ⟨i, j, hv, hw⟩)
      · exact ⟨0, j, hv, hw⟩
      · exact ⟨i + 1, j, hv, hw⟩
    · rintro ⟨i, j, hv, hw⟩
      cases i with
      | zero => exact .inl ⟨j, hv, hw⟩
      | succ i => exact .inr ⟨i, j, hv, hw⟩

namespace Matrix

variable {a : Matrix α} {i j : Nat} {v w : α}

/-! ## Rows and columns -/

theorem length_of_getElem? {row : List α} (h : a.rows[i]? = some row) : row.length = a.width :=
  a.length_row row (List.mem_of_getElem? h)

/-- An entry is an entry of a row. -/
theorem entry?_eq_some_iff : a.entry? i j = some v ↔ ∃ row, a.rows[i]? = some row ∧ row[j]? = some v :=
  Option.bind_eq_some_iff

theorem lt_of_entry (h : a.entry? i j = some v) : i < a.height ∧ j < a.width := by
  obtain ⟨row, hrow, hv⟩ := entry?_eq_some_iff.1 h
  obtain ⟨hi, -⟩ := List.getElem?_eq_some_iff.1 hrow
  obtain ⟨hj, -⟩ := List.getElem?_eq_some_iff.1 hv
  rw [length_of_getElem? hrow] at hj
  exact ⟨hi, hj⟩

/-- A column of rows that are all long enough has an entry for each of them. -/
theorem getElem?_filterMap_getElem? {rows : List (List α)} (h : ∀ row ∈ rows, j < row.length) (i : Nat) :
    (rows.filterMap (·[j]?))[i]? = rows[i]?.bind (·[j]?) := by
  induction rows generalizing i with
  | nil => rfl
  | cons row rest ih =>
    obtain ⟨hrow, hrest⟩ := List.forall_mem_cons.1 h
    have hsome : row[j]? = some row[j] := List.getElem?_eq_getElem hrow
    rw [List.filterMap_cons, hsome]
    cases i with
    | zero => exact hsome.symm
    | succ i => exact ih hrest i

/-- A column has the entries of its position in all rows. -/
theorem getElem?_column (hj : j < a.width) (i : Nat) : (a.column j)[i]? = a.entry? i j := by
  apply getElem?_filterMap_getElem?
  intro row hrow
  rwa [a.length_row row hrow]

/-- A column has an entry for each row. -/
theorem length_column (hj : j < a.width) : (a.column j).length = a.height := by
  unfold column
  rw [List.length_filterMap_eq_countP]
  apply List.countP_eq_length.2
  intro row hrow
  have hlength : j < row.length := by rwa [a.length_row row hrow]
  rw [List.getElem?_eq_getElem hlength]
  rfl

@[simp] theorem length_columns (a : Matrix α) : a.columns.length = a.width := by
  unfold columns
  rw [List.length_map, List.length_range]

/-- The entries of the columns are those of the matrix, with row and column exchanged. -/
theorem columns_entry (a : Matrix α) (i j : Nat) : a.columns[j]?.bind (·[i]?) = a.entry? i j := by
  unfold columns
  by_cases hj : j < a.width
  · rw [List.getElem?_map, List.getElem?_range hj, Option.map_some, Option.bind_some, getElem?_column hj]
  · have hnone : a.entry? i j = none := by
      rw [Option.eq_none_iff_forall_ne_some]
      intro v hv
      exact hj (lt_of_entry hv).2
    have hbeyond : (List.range a.width).length ≤ j := by
      rw [List.length_range]
      omega
    rw [hnone, List.getElem?_map, List.getElem?_eq_none hbeyond]
    rfl

/-! ## Across the diagonal -/

/-- A square matrix is paired with its columns entry by entry. -/
theorem mem_zip_columns_iff (hsquare : a.height = a.width) : (v, w) ∈ a.entries.zip a.columns.flatten ↔
    ∃ i j, a.entry? i j = some v ∧ a.entry? j i = some w := by
  have hlengths : List.Forall₂ (fun row column ↦ row.length = column.length) a.rows a.columns := by
    refine List.forall₂_iff_get.2 ⟨?_, fun i hi hj ↦ ?_⟩
    · rw [length_columns]
      exact hsquare
    · have hwidth : i < a.width := by rwa [length_columns] at hj
      have hcolumn : a.columns.get ⟨i, hj⟩ = a.column i := by
        rw [List.get_eq_getElem]
        unfold columns
        rw [List.getElem_map, List.getElem_range]
      rw [hcolumn, length_column hwidth, hsquare]
      exact a.length_row _ (List.get_mem a.rows ⟨i, hi⟩)
  unfold entries
  rw [mem_zip_flatten_iff hlengths]
  refine exists_congr fun i ↦ exists_congr fun j ↦ ?_
  rw [columns_entry]
  rfl

/-- A test of symmetry compares each entry with the one across the diagonal. -/
theorem isSymmetric_iff [Scalar α] {rtol atol : α} (hsquare : a.height = a.width) :
    a.isSymmetric rtol atol = true ↔ ∀ i j v w, a.entry? i j = some v → a.entry? j i = some w →
      Scalar.isClose rtol atol v w = true := by
  unfold isSymmetric
  rw [List.all_eq_true]
  constructor
  · intro h i j v w hv hw
    exact h (v, w) ((mem_zip_columns_iff hsquare).2 ⟨i, j, hv, hw⟩)
  · rintro h ⟨v, w⟩ hpair
    obtain ⟨i, j, hv, hw⟩ := (mem_zip_columns_iff hsquare).1 hpair
    exact h i j v w hv hw

end Matrix

end Extremum
