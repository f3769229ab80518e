import Extremum.Error
import Extremum.Scalar
import Extremum.Tensor

/-!
# Vectors and matrices

Vectors are lists of scalars, and a matrix is a list of rows of one length. Here are the products that
functions are built from, comparison up to a tolerance, and the deviation from symmetry.
-/

namespace Extremum

/-- Rows of one length. -/
structure Matrix (α : Type) where
  /-- The rows, first to last. -/
  rows : List (List α)
  /-- How many entries a row has. -/
  width : Nat
  length_row : ∀ row ∈ rows, row.length = width

/-! ## Vectors -/

namespace Vec

variable {α : Type} [Scalar α]

def zeros (n : Nat) : List α :=
  List.replicate n 0

/-- The vector of `n` entries with `step` at position `i` and zeros elsewhere. -/
def spike (n i : Nat) (step : α) : List α :=
  (List.range n).map fun j ↦ if j = i then step else 0

/-- The vector of `n` entries with a one at position `i` and zeros elsewhere. -/
def unit (n i : Nat) : List α :=
  spike n i 1

def add (x y : List α) : List α :=
  x.zipWith (· + ·) y

def sub (x y : List α) : List α :=
  x.zipWith (· - ·) y

def scale (c : α) (x : List α) : List α :=
  x.map (c * ·)

/-- The largest absolute difference of two vectors. -/
def deviation (x y : List α) : α :=
  Scalar.maximum 0 ((sub x y).map Scalar.abs)

/-- Whether corresponding entries of two vectors of one length are close; a vector of one entry is compared
with every entry of the other. Vectors of other lengths cannot be compared. -/
def isClose? (rtol atol : α) (x y : List α) : Option Bool :=
  if x.length = y.length then some ((x.zip y).all fun (a, b) ↦ Scalar.isClose rtol atol a b)
  else match x, y with
    | [a], _ => some (y.all fun b ↦ Scalar.isClose rtol atol a b)
    | _, [b] => some (x.all fun a ↦ Scalar.isClose rtol atol a b)
    | _, _ => none

/-- The position that an index stands for in a list; a negative index counts from the end. -/
def position? (length : Nat) (index : Int) : Option Nat :=
  let fromStart := if index < 0 then index + length else index
  if 0 ≤ fromStart ∧ fromStart < length then some fromStart.toNat else none

/-- A vector with the entry at an index replaced; the index has to be that of an entry. -/
def setEntry (x : List α) (index : Int) (entry : Reading α α) : Reading α (List α) :=
  match position? x.length index with
  | some i => entry.map (x.set i ·)
  | none => .error (.unfit .index)

@[simp] theorem length_zeros (n : Nat) : (zeros n : List α).length = n := by
  simp [zeros]

@[simp] theorem length_spike (n i : Nat) (step : α) : (spike n i step).length = n := by
  simp [spike]

@[simp] theorem length_unit (n i : Nat) : (unit n i : List α).length = n := by
  simp [unit]

@[simp] theorem length_add (x y : List α) : (add x y).length = min x.length y.length := by
  simp [add]

@[simp] theorem length_sub (x y : List α) : (sub x y).length = min x.length y.length := by
  simp [sub]

@[simp] theorem length_scale (c : α) (x : List α) : (scale c x).length = x.length := by
  simp [scale]

end Vec

/-! ## Matrices -/

namespace Matrix

variable {α : Type}

def height (a : Matrix α) : Nat :=
  a.rows.length

/-- The matrix of a tensor with two axes. -/
def ofTensor? (t : Tensor α) : Option (Matrix α) :=
  match h : t.shape with
  | [m, n] => some ⟨Tensor.pieces n m t.data, n,
      Tensor.length_of_mem_pieces (by simp [t.length_data, h])⟩
  | _ => none

def entry? (a : Matrix α) (i j : Nat) : Option α :=
  a.rows[i]?.bind (·[j]?)

/-- Row `i`, and nothing beyond the last. -/
def row (a : Matrix α) (i : Nat) : List α :=
  a.rows[i]?.getD []

def column (a : Matrix α) (j : Nat) : List α :=
  a.rows.filterMap (·[j]?)

def columns (a : Matrix α) : List (List α) :=
  (List.range a.width).map a.column

def entries (a : Matrix α) : List α :=
  a.rows.flatten

variable [Scalar α]

/-- The product with a column vector. -/
def apply (a : Matrix α) (x : List α) : List α :=
  a.rows.map fun row ↦ Scalar.dot row x

/-- The product of a row vector with a matrix. -/
def applyLeft (x : List α) (a : Matrix α) : List α :=
  a.columns.map fun column ↦ Scalar.dot x column

/-- Whether a square matrix is close to its transpose, entry by entry. -/
def isSymmetric (rtol atol : α) (a : Matrix α) : Bool :=
  (a.entries.zip a.columns.flatten).all fun (x, y) ↦ Scalar.isClose rtol atol x y

/-- The largest absolute difference between a matrix and its transpose. -/
def asymmetry (a : Matrix α) : α :=
  Vec.deviation a.entries a.columns.flatten

def zeros (m n : Nat) : Matrix α :=
  ⟨List.replicate m (Vec.zeros n), n, by simp +contextual [List.mem_replicate]⟩

def identity (n : Nat) : Matrix α :=
  ⟨(List.range n).map (Vec.unit n), n, by simp⟩

@[simp] theorem length_apply (a : Matrix α) (x : List α) : (a.apply x).length = a.height := by
  simp [apply, height]

@[simp] theorem length_applyLeft (x : List α) (a : Matrix α) : (applyLeft x a).length = a.width := by
  simp [applyLeft, columns]

end Matrix

end Extremum
