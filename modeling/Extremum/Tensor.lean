/-!
# Tensors

Numbers handed over by a caller arrive as nested lists. Such a list has a shape when all lists at one depth
are equally long; `Nested.tensor?` then reads it as a tensor, a shape together with the entries in row order.
Main statements: a list of scalars is read as the vector of its entries, and the rows of a matrix put one
after the other give back its entries.
-/

namespace Extremum

/-- Scalars in nested lists, as given by a caller or returned by a user's function. -/
inductive Nested (α : Type) where
  | item (a : α)
  | list (items : List (Nested α))

/-- How many entries a tensor of a shape has. -/
def volume (shape : List Nat) : Nat :=
  shape.foldr (· * ·) 1

@[simp] theorem volume_nil : volume [] = 1 := rfl

@[simp] theorem volume_cons (n : Nat) (shape : List Nat) :
    volume (n :: shape) = n * volume shape := rfl

/-- A shape and the entries of that shape, the last index running fastest. -/
structure Tensor (α : Type) where
  /-- The lengths of the axes, outermost first. -/
  shape : List Nat
  /-- The entries. -/
  data : List α
  /-- There are as many entries as the shape has places. -/
  length_data : data.length = volume shape

namespace Tensor

variable {α β : Type}

@[ext] theorem ext {s t : Tensor α} (hshape : s.shape = t.shape) (hdata : s.data = t.data) : s = t := by
  cases s; cases t; simp_all

/-- The tensor without axes that holds one entry. -/
def scalar (a : α) : Tensor α :=
  ⟨[], [a], rfl⟩

def vector (entries : List α) : Tensor α :=
  ⟨[entries.length], entries, by simp⟩

@[simp] theorem shape_vector (entries : List α) : (vector entries).shape = [entries.length] := rfl

@[simp] theorem data_vector (entries : List α) : (vector entries).data = entries := rfl

def size (t : Tensor α) : Nat :=
  t.data.length

def rank (t : Tensor α) : Nat :=
  t.shape.length

/-- A scalar as a vector of one entry; any other tensor as it is. -/
def atLeastVector (t : Tensor α) : Tensor α :=
  if t.shape = [] then vector t.data else t

@[simp] theorem data_atLeastVector (t : Tensor α) : t.atLeastVector.data = t.data := by
  unfold atLeastVector
  split <;> rfl

def map (f : α → β) (t : Tensor α) : Tensor β :=
  ⟨t.shape, t.data.map f, by simp [t.length_data]⟩

/-- Applies a function that may fail to the entries in order, up to the first that fails. -/
def traverse {ε : Type} (f : α → Except ε β) (t : Tensor α) : Except ε (Tensor β) :=
  match h : t.data.mapM f with
  | .ok data => .ok ⟨t.shape, data, by rw [length_eq_of_mapM _ _ h, t.length_data]⟩
  | .error e => .error e
where
  /-- A list keeps its length when every entry succeeds. -/
  length_eq_of_mapM : ∀ (xs : List α) (ys : List β), xs.mapM f = .ok ys → ys.length = xs.length
    | [], ys, h => by
      simp only [List.mapM_nil, pure, Except.pure, Except.ok.injEq] at h
      simp [← h]
    | x :: xs, ys, h => by
      simp only [List.mapM_cons, bind, Except.bind, pure, Except.pure] at h
      cases hx : f x with
      | error e => simp [hx] at h
      | ok y =>
        cases hxs : xs.mapM f with
        | error e => simp [hx, hxs] at h
        | ok zs =>
          simp only [hx, hxs, Except.ok.injEq] at h
          simp [← h, length_eq_of_mapM xs zs hxs]

/-- Cuts a list into `count` pieces of `length` entries. -/
def pieces (length : Nat) : Nat → List α → List (List α)
  | 0, _ => []
  | count + 1, entries => entries.take length :: pieces length count (entries.drop length)

theorem length_pieces (length count : Nat) (entries : List α) :
    (pieces length count entries).length = count := by
  induction count generalizing entries with
  | zero => rfl
  | succ count ih => simp [pieces, ih]

theorem flatten_pieces (length count : Nat) (entries : List α)
    (h : entries.length = count * length) : (pieces length count entries).flatten = entries := by
  induction count generalizing entries with
  | zero =>
    have : entries = [] := List.eq_nil_of_length_eq_zero (by simpa using h)
    simp [pieces, this]
  | succ count ih =>
    have hdrop : (entries.drop length).length = count * length := by
      rw [List.length_drop, h, Nat.succ_mul, Nat.add_sub_cancel]
    simp [pieces, ih _ hdrop]

theorem length_of_mem_pieces {length count : Nat} {entries : List α}
    (h : entries.length = count * length) : ∀ piece ∈ pieces length count entries,
      piece.length = length := by
  induction count generalizing entries with
  | zero => simp [pieces]
  | succ count ih =>
    have hdrop : (entries.drop length).length = count * length := by
      rw [List.length_drop, h, Nat.succ_mul, Nat.add_sub_cancel]
    intro piece hpiece
    simp only [pieces, List.mem_cons] at hpiece
    rcases hpiece with rfl | hpiece
    · rw [List.length_take, h, Nat.succ_mul]
      omega
    · exact ih hdrop piece hpiece

end Tensor

namespace Nested

variable {α β : Type}

def ofList (entries : List α) : Nested α :=
  .list (entries.map .item)

def ofRows (rows : List (List α)) : Nested α :=
  .list (rows.map ofList)

mutual

/-- Shape and entries of a nested list whose lists at one depth are equally long. -/
def read? : Nested α → Option (List Nat × List α)
  | .item a => some ([], [a])
  | .list items => (stack? items).map fun (count, shape, entries) ↦ (count :: shape, entries)

/-- The number of items, the shape that they share, and their entries. -/
def stack? : List (Nested α) → Option (Nat × List Nat × List α)
  | [] => some (0, [], [])
  | first :: items =>
    match first.read?, stack? items with
    | some (shape, entries), some (count, others, rest) =>
      if count = 0 ∨ shape = others then some (count + 1, shape, entries ++ rest) else none
    | _, _ => none

end

mutual

theorem length_of_read? : ∀ (t : Nested α) {shape : List Nat} {entries : List α},
    t.read? = some (shape, entries) → entries.length = volume shape
  | .item a, shape, entries, h => by
    simp only [read?, Option.some.injEq, Prod.mk.injEq] at h
    simp [← h.1, ← h.2]
  | .list items, shape, entries, h => by
    simp only [read?, Option.map_eq_some_iff, Prod.mk.injEq] at h
    obtain ⟨⟨count, inner, rest⟩, hstack, rfl, rfl⟩ := h
    exact length_of_stack? items hstack

theorem length_of_stack? : ∀ (items : List (Nested α)) {count : Nat} {shape : List Nat}
    {entries : List α}, stack? items = some (count, shape, entries) →
      entries.length = count * volume shape
  | [], count, shape, entries, h => by
    simp only [stack?, Option.some.injEq, Prod.mk.injEq] at h
    simp [← h.1, ← h.2.2]
  | first :: items, count, shape, entries, h => by
    simp only [stack?] at h
    cases hfirst : first.read? with
    | none => simp [hfirst] at h
    | some head =>
      obtain ⟨shape', entries'⟩ := head
      cases hitems : stack? items with
      | none => simp [hfirst, hitems] at h
      | some others =>
        obtain ⟨count', inner, rest⟩ := others
        simp only [hfirst, hitems] at h
        split at h
        · rename_i hcase
          simp only [Option.some.injEq, Prod.mk.injEq] at h
          obtain ⟨rfl, rfl, rfl⟩ := h
          have hhead := length_of_read? first hfirst
          have hrest := length_of_stack? items hitems
          rw [List.length_append, hhead, hrest, Nat.succ_mul]
          rcases hcase with hzero | hshape
          · simp [hzero]
          · rw [hshape, Nat.add_comm]
        · exact absurd h (by simp)

end

mutual

/-- Applies a function that may fail to the scalars of a nested list in order. -/
def traverse {ε : Type} (f : α → Except ε β) : Nested α → Except ε (Nested β)
  | .item a => (f a).map .item
  | .list items => (traverseAll f items).map .list

/-- Applies a function that may fail to the scalars of several nested lists in order. -/
def traverseAll {ε : Type} (f : α → Except ε β) : List (Nested α) → Except ε (List (Nested β))
  | [] => .ok []
  | first :: items =>
    match traverse f first with
    | .error e => .error e
    | .ok head => (traverseAll f items).map (head :: ·)

end

/-- The tensor that a nested list holds, if its lists at one depth are equally long. -/
def tensor? (t : Nested α) : Option (Tensor α) :=
  match h : t.read? with
  | some (shape, data) => some ⟨shape, data, length_of_read? t h⟩
  | none => none

theorem stack?_map_item (entries : List α) :
    stack? (entries.map item) = some (entries.length, [], entries) := by
  induction entries with
  | nil => rfl
  | cons a entries ih => simp [stack?, read?, ih]

theorem read?_ofList (entries : List α) :
    (ofList entries).read? = some ([entries.length], entries) := by
  simp [ofList, read?, stack?_map_item]

/-- A list of scalars is read as the vector of its entries. -/
theorem tensor?_ofList (entries : List α) :
    (ofList entries).tensor? = some (Tensor.vector entries) := by
  unfold tensor?
  split
  · rename_i shape data h
    rw [read?_ofList] at h
    simp only [Option.some.injEq, Prod.mk.injEq] at h
    obtain ⟨rfl, rfl⟩ := h
    rfl
  · rename_i h
    simp [read?_ofList] at h

end Nested

end Extremum
