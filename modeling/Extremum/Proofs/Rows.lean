import Extremum.Matrix
import Mathlib.Data.List.Basic

/-!
# Rows of tensors

A tensor with two axes is a matrix, and its entries are those of the rows one after the other. Nested rows have a
shape exactly if they are equally long, and then their tensor has these rows (`tensor?_ofRows`). A matrix is known
from its sides and its entries (`Matrix.ext_entries`), and its rows are read as it (`tensor?_rows`).
-/

namespace Extremum

variable {α : Type}

/-! ## Tensors -/

theorem Tensor.length_of_shape {t : Tensor α} {n : Nat} (h : t.shape = [n]) : t.data.length = n := by
  rw [t.length_data, h, volume_cons, volume_nil, Nat.mul_one]

theorem Tensor.vector_data {t : Tensor α} {n : Nat} (h : t.shape = [n]) : vector t.data = t := by
  apply Tensor.ext
  · rw [h, shape_vector, length_of_shape h]
  · rfl

/-- Entries that are read one by one are put in the same shape. -/
theorem Tensor.traverse_eq_ok_iff {ε β : Type} {f : α → Except ε β} {t : Tensor α} {u : Tensor β} :
    t.traverse f = .ok u ↔ u.shape = t.shape ∧ t.data.mapM f = .ok u.data := by
  unfold traverse
  split
  · rename_i data hdata
    have hread : t.data.mapM f = .ok u.data ↔ data = u.data := by simp only [hdata, Except.ok.injEq]
    rw [hread, Except.ok.injEq, Tensor.ext_iff]
    exact and_congr eq_comm Iff.rfl
  · rename_i e he
    have hread : ¬t.data.mapM f = .ok u.data := by simp [he]
    simp [hread]

/-! ## Pieces -/

/-- Rows of one length are what their entries are cut into. -/
theorem Tensor.pieces_flatten {rows : List (List α)} {n : Nat} (h : ∀ row ∈ rows, row.length = n) :
    pieces n rows.length rows.flatten = rows := by
  induction rows with
  | nil => rfl
  | cons row rest ih =>
    obtain ⟨hrow, hrest⟩ := List.forall_mem_cons.1 h
    rw [List.length_cons, List.flatten_cons, pieces, List.take_left' hrow, List.drop_left' hrow, ih hrest]

namespace Matrix

theorem rows_eq_pieces (a : Matrix α) : a.rows = Tensor.pieces a.width a.height a.entries :=
  (Tensor.pieces_flatten a.length_row).symm

/-- A matrix is determined by its two sides and its entries. -/
theorem ext_entries {a b : Matrix α} (hheight : a.height = b.height) (hwidth : a.width = b.width)
    (hentries : a.entries = b.entries) : a = b := by
  have hrows : a.rows = b.rows := by
    rw [a.rows_eq_pieces, b.rows_eq_pieces, hheight, hwidth, hentries]
  cases a
  cases b
  cases hrows
  cases hwidth
  rfl

/-- Every tensor with two axes is a matrix. -/
theorem exists_ofTensor? {t : Tensor α} {m n : Nat} (h : t.shape = [m, n]) :
    ∃ a, ofTensor? t = some a ∧ a.height = m ∧ a.width = n ∧ a.entries = t.data := by
  obtain ⟨shape, data, hdata⟩ := t
  cases h
  refine ⟨_, rfl, Tensor.length_pieces n m data, rfl, Tensor.flatten_pieces n m data ?_⟩
  rw [hdata, volume_cons, volume_cons, volume_nil, Nat.mul_one]

theorem volume_entries (a : Matrix α) : a.entries.length = volume [a.height, a.width] := by
  unfold entries
  rw [List.length_flatten, List.map_congr_left a.length_row, List.map_const', List.sum_replicate_nat]
  rw [volume_cons, volume_cons, volume_nil, Nat.mul_one]
  rfl

/-- The entries of a matrix with its sides as their shape. -/
def tensor (a : Matrix α) : Tensor α :=
  ⟨[a.height, a.width], a.entries, a.volume_entries⟩

/-- The tensor of a matrix is read back as the same matrix. -/
theorem ofTensor?_tensor (a : Matrix α) : ofTensor? a.tensor = some a := by
  obtain ⟨b, hb, hheight, hwidth, hentries⟩ := exists_ofTensor? (t := a.tensor) rfl
  rw [hb, ext_entries hheight hwidth hentries]

end Matrix

/-! ## Nested rows -/

namespace Nested

/-- Whether nested data is a tensor is a question of what is read out of it. -/
theorem tensor?_eq_some_iff {v : Nested α} {t : Tensor α} :
    v.tensor? = some t ↔ v.read? = some (t.shape, t.data) := by
  unfold tensor?
  constructor
  · intro h
    split at h
    · rename_i hread
      cases h
      exact hread
    · cases h
  · intro h
    split
    · rename_i hread
      rw [hread] at h
      cases h
      rfl
    · rename_i hread
      rw [hread] at h
      cases h

/-- Rows share a shape exactly if they are as long as the first of them. -/
theorem stack?_map_ofList (row : List α) (rest : List (List α)) :
    stack? ((row :: rest).map ofList) = if ∀ other ∈ rest, other.length = row.length then
      some (rest.length + 1, [row.length], (row :: rest).flatten) else none := by
  induction rest generalizing row with
  | nil => simp [stack?, read?_ofList]
  | cons next others ih =>
    rw [List.map_cons, stack?, read?_ofList, ih next]
    by_cases hothers : ∀ other ∈ others, other.length = next.length
    · rw [if_pos hothers]
      by_cases hnext : next.length = row.length
      · have hall : ∀ other ∈ next :: others, other.length = row.length :=
          List.forall_mem_cons.2 ⟨hnext, fun other hother ↦ (hothers other hother).trans hnext⟩
        rw [if_pos hall]
        simp [hnext]
      · have hsome : ¬∀ other ∈ next :: others, other.length = row.length :=
          fun hall ↦ hnext (hall next List.mem_cons_self)
        have hne : ¬row.length = next.length := fun heq ↦ hnext heq.symm
        rw [if_neg hsome]
        simp [hne]
    · have hsome : ¬∀ other ∈ next :: others, other.length = row.length := by
        intro hall
        obtain ⟨hnext, hrest⟩ := List.forall_mem_cons.1 hall
        exact hothers fun other hother ↦ (hrest other hother).trans hnext.symm
      rw [if_neg hothers, if_neg hsome]

/-- Rows make a tensor exactly if they are of the same length, and then it has their entries in order. -/
theorem tensor?_ofRows {rows : List (List α)} {t : Tensor α} (hrows : rows ≠ []) :
    (ofRows rows).tensor? = some t ↔
      ∃ n, (∀ row ∈ rows, row.length = n) ∧ t.shape = [rows.length, n] ∧ t.data = rows.flatten := by
  obtain ⟨row, rest, rfl⟩ := List.exists_cons_of_ne_nil hrows
  rw [tensor?_eq_some_iff, ofRows, read?, stack?_map_ofList]
  constructor
  · intro h
    obtain ⟨stacked, hstacked, heq⟩ := Option.map_eq_some_iff.1 h
    split at hstacked
    · rename_i hrest
      cases hstacked
      obtain ⟨hshape, hdata⟩ := Prod.mk.inj heq
      exact ⟨row.length, List.forall_mem_cons.2 ⟨rfl, hrest⟩, hshape.symm, hdata.symm⟩
    · cases hstacked
  · rintro ⟨n, hlength, hshape, hdata⟩
    obtain ⟨rfl, hrest⟩ := List.forall_mem_cons.1 hlength
    rw [if_pos hrest, hshape, hdata]
    rfl

/-- The rows of a matrix are read as that matrix, unless there are none. -/
theorem tensor?_rows {a : Matrix α} (h : 0 < a.height) : (ofRows a.rows).tensor? = some a.tensor :=
  (tensor?_ofRows (List.length_pos_iff.1 h)).2 ⟨a.width, a.length_row, rfl, rfl⟩

end Nested

end Extremum
