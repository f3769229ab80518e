/-!
# Arenas

Things that can be referred to from several places and change over time. An arena hands out a reference for
every thing that is added, and a reference stays good: nothing is ever taken out.
-/

namespace Extremum

/-- A reference to a thing in an arena. -/
structure Ref (β : Type) where
  /-- How many things were there before. -/
  index : Nat

theorem Ref.ext_iff {β : Type} {r s : Ref β} : r = s ↔ r.index = s.index := by
  cases r; cases s; simp

instance {β : Type} : DecidableEq (Ref β) :=
  fun _ _ ↦ decidable_of_iff _ Ref.ext_iff.symm

/-- Things in the order in which they were added. -/
structure Arena (β : Type) where
  items : List β := []

namespace Arena

variable {β : Type}

/-- The thing that a reference refers to. -/
def get? (a : Arena β) (r : Ref β) : Option β :=
  a.items[r.index]?

def add (a : Arena β) (item : β) : Ref β × Arena β :=
  (⟨a.items.length⟩, ⟨a.items ++ [item]⟩)

/-- Puts another thing in the place of one. -/
def set (a : Arena β) (r : Ref β) (item : β) : Arena β :=
  ⟨a.items.set r.index item⟩

def size (a : Arena β) : Nat :=
  a.items.length

@[simp] theorem get?_add_self (a : Arena β) (item : β) : (a.add item).2.get? (a.add item).1 = some item := by
  simp [add, get?]

theorem get?_add_of_get? (a : Arena β) (item other : β) {r : Ref β} (h : a.get? r = some other) :
    (a.add item).2.get? r = some other := by
  have hlt : r.index < a.items.length := by
    simp only [get?] at h
    exact (List.getElem?_eq_some_iff.1 h).1
  simp only [add, get?] at *
  rw [List.getElem?_append_left hlt, h]

theorem get?_set_self (a : Arena β) (item other : β) {r : Ref β} (h : a.get? r = some other) :
    (a.set r item).get? r = some item := by
  have hlt : r.index < a.items.length := by
    simp only [get?] at h
    exact (List.getElem?_eq_some_iff.1 h).1
  simp [set, get?, hlt]

theorem get?_set_of_ne (a : Arena β) (item : β) {r s : Ref β} (h : r ≠ s) :
    (a.set r item).get? s = a.get? s := by
  have hne : r.index ≠ s.index := fun heq ↦ h (Ref.ext_iff.2 heq)
  simp [set, get?, List.getElem?_set_ne hne]

theorem get?_add_eq_some {a : Arena β} {item other : β} {r : Ref β}
    (h : (a.add item).2.get? r = some other) :
    a.get? r = some other ∨ r = (a.add item).1 ∧ other = item := by
  simp only [add, get?] at h ⊢
  rw [List.getElem?_append] at h
  split at h
  · exact .inl h
  · rename_i hlength
    obtain ⟨hlt, heq⟩ := List.getElem?_eq_some_iff.1 h
    rw [List.length_singleton] at hlt
    exact .inr ⟨Ref.ext_iff.2 (by simp only; omega), by simpa using heq.symm⟩

theorem get?_set_eq_some {a : Arena β} {item other : β} {r s : Ref β}
    (h : (a.set r item).get? s = some other) : a.get? s = some other ∨ s = r ∧ other = item := by
  by_cases hrs : r = s
  · subst hrs
    have hlt := (List.getElem?_eq_some_iff.1 h).1
    simp only [set, List.length_set] at hlt
    simp only [set, get?, List.getElem?_set_self hlt, Option.some.injEq] at h
    exact .inr ⟨rfl, h.symm⟩
  · rw [get?_set_of_ne a item hrs] at h
    exact .inl h

/-- A new reference is none of those that are already good. -/
theorem add_fst_ne_of_get? {a : Arena β} {other : β} {r : Ref β} (h : a.get? r = some other) (item : β) :
    (a.add item).1 ≠ r := by
  have hlt := (List.getElem?_eq_some_iff.1 h).1
  rw [Ne, Ref.ext_iff]
  simp only [add]
  omega

theorem set_eq_self {a : Arena β} {item : β} {r : Ref β} (h : a.get? r = some item) :
    a.set r item = a := by
  obtain ⟨hlt, heq⟩ := List.getElem?_eq_some_iff.1 h
  simp only [set, ← heq, List.set_getElem_self]

@[simp] theorem set_set (a : Arena β) (r : Ref β) (item other : β) :
    (a.set r item).set r other = a.set r other := by
  simp [set]

@[simp] theorem add_set_fst (a : Arena β) (r : Ref β) (item other : β) :
    ((a.set r item).add other).1 = (a.add other).1 := by
  simp [set, add]

/-- What was just added can be replaced before it is added. -/
@[simp] theorem set_add_self (a : Arena β) (item other : β) :
    (a.add item).2.set (a.add item).1 other = (a.add other).2 := by
  simp [set, add]

/-- Putting a thing in the place of an old one and adding a new one can be done in either order. -/
theorem set_add_of_get? {a : Arena β} {old : β} {r : Ref β} (h : a.get? r = some old) (item other : β) :
    (a.add item).2.set r other = ((a.set r other).add item).2 := by
  have hlt := (List.getElem?_eq_some_iff.1 h).1
  simp only [set, add, List.set_append_left _ _ hlt]

end Arena

end Extremum
