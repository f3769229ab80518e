/-!
# Tables

Entries under distinct text keys, in the order in which the keys first came. Giving a key that is present a
new entry keeps its place. Main statements: what is found under a key after an insertion and after a
removal, and how both act on the keys.
-/

namespace Extremum

/-- Entries under distinct keys, in order. -/
structure Table (β : Type) where
  entries : List (String × β)
  nodup_keys : (entries.map Prod.fst).Nodup

namespace Table

variable {β γ : Type}

instance : EmptyCollection (Table β) where
  emptyCollection := ⟨[], List.Pairwise.nil⟩

@[ext] theorem ext {s t : Table β} (h : s.entries = t.entries) : s = t := by
  cases s; cases t; simp_all

def keys (t : Table β) : List String :=
  t.entries.map Prod.fst

/-- The entry under a key. -/
def get? (t : Table β) (key : String) : Option β :=
  t.entries.lookup key

def contains (t : Table β) (key : String) : Bool :=
  t.keys.contains key

def isEmpty (t : Table β) : Bool :=
  t.entries.isEmpty

/-- Entries with the one under `key` replaced, or with a new one at the end. -/
def insertInto (key : String) (item : β) : List (String × β) → List (String × β)
  | [] => [(key, item)]
  | (other, old) :: rest =>
    if other = key then (key, item) :: rest else (other, old) :: insertInto key item rest

theorem map_fst_insertInto (key : String) (item : β) (entries : List (String × β)) :
    (insertInto key item entries).map Prod.fst =
      if key ∈ entries.map Prod.fst then entries.map Prod.fst else entries.map Prod.fst ++ [key] := by
  induction entries with
  | nil => simp [insertInto]
  | cons entry rest ih =>
    obtain ⟨other, old⟩ := entry
    by_cases h : other = key
    · simp [insertInto, h]
    · have hne : key ≠ other := fun heq ↦ h heq.symm
      by_cases hmem : key ∈ rest.map Prod.fst
      · rw [if_pos hmem] at ih
        simp only [insertInto, h, if_false, List.map_cons, ih]
        rw [if_pos (List.mem_cons_of_mem _ hmem)]
      · rw [if_neg hmem] at ih
        simp only [insertInto, h, if_false, List.map_cons, ih, List.cons_append]
        rw [if_neg (by simp only [List.mem_cons, not_or]; exact ⟨hne, hmem⟩)]

/-- Puts an entry under a key; a key that is present keeps its place. -/
def insert (t : Table β) (key : String) (item : β) : Table β where
  entries := insertInto key item t.entries
  nodup_keys := by
    rw [map_fst_insertInto]
    split
    · exact t.nodup_keys
    · rename_i h
      rw [List.nodup_append]
      refine ⟨t.nodup_keys, by simp, ?_⟩
      intro a ha b hb heq
      simp only [List.mem_singleton] at hb
      exact h (hb ▸ heq ▸ ha)

def erase (t : Table β) (key : String) : Table β where
  entries := t.entries.filter (·.1 != key)
  nodup_keys := (List.filter_sublist.map Prod.fst).nodup t.nodup_keys

def insertAll (t : Table β) (entries : List (String × β)) : Table β :=
  entries.foldl (fun t (key, item) ↦ t.insert key item) t

/-- The table of pairs: each key at the place of its first pair, with the item of its last. -/
def ofPairs (pairs : List (String × β)) : Table β :=
  insertAll {} pairs

def map (f : β → γ) (t : Table β) : Table γ where
  entries := t.entries.map fun (key, item) ↦ (key, f item)
  nodup_keys := by
    rw [List.map_map]
    exact t.nodup_keys

theorem keys_insert (t : Table β) (key : String) (item : β) :
    (t.insert key item).keys = if key ∈ t.keys then t.keys else t.keys ++ [key] :=
  map_fst_insertInto key item t.entries

theorem lookup_insertInto_self (key : String) (item : β) (entries : List (String × β)) :
    (insertInto key item entries).lookup key = some item := by
  induction entries with
  | nil => simp [insertInto]
  | cons entry rest ih =>
    obtain ⟨other, old⟩ := entry
    by_cases h : other = key
    · simp [insertInto, h]
    · have hne : (key == other) = false := by simpa using fun heq : key = other ↦ h heq.symm
      simp [insertInto, h, List.lookup_cons, hne, ih]

theorem lookup_insertInto_of_ne {key other : String} (item : β) (entries : List (String × β))
    (h : other ≠ key) : (insertInto key item entries).lookup other = entries.lookup other := by
  induction entries with
  | nil => simp [insertInto, h]
  | cons entry rest ih =>
    obtain ⟨first, old⟩ := entry
    by_cases hfirst : first = key
    · have hne : (other == key) = false := by simpa using h
      simp [insertInto, hfirst, List.lookup_cons, hne]
    · simp [insertInto, hfirst, List.lookup_cons, ih]

@[simp] theorem get?_insert_self (t : Table β) (key : String) (item : β) :
    (t.insert key item).get? key = some item :=
  lookup_insertInto_self key item t.entries

theorem get?_insert_of_ne (t : Table β) {key other : String} (item : β) (h : other ≠ key) :
    (t.insert key item).get? other = t.get? other :=
  lookup_insertInto_of_ne item t.entries h

theorem insertInto_of_not_mem {key : String} {entries : List (String × β)}
    (h : key ∉ entries.map Prod.fst) (item : β) : insertInto key item entries = entries ++ [(key, item)] := by
  induction entries with
  | nil => rfl
  | cons entry rest ih =>
    obtain ⟨other, old⟩ := entry
    rw [List.map_cons, List.mem_cons, not_or] at h
    have hne : ¬other = key := fun heq ↦ h.1 heq.symm
    rw [insertInto, if_neg hne, ih h.2, List.cons_append]

theorem lookup_eq_none_of_not_mem {key : String} {entries : List (String × β)}
    (h : key ∉ entries.map Prod.fst) : entries.lookup key = none := by
  rw [List.lookup_eq_none_iff]
  intro entry hentry
  rw [bne_iff_ne]
  intro heq
  exact h (heq ▸ List.mem_map_of_mem hentry)

theorem mem_of_lookup_eq_some {key : String} {item : β} {entries : List (String × β)}
    (h : entries.lookup key = some item) : key ∈ entries.map Prod.fst := by
  apply Decidable.byContradiction
  intro hmem
  rw [lookup_eq_none_of_not_mem hmem] at h
  cases h

theorem entries_insertAll (t : Table β) (pairs : List (String × β)) :
    (t.insertAll pairs).entries = pairs.foldl (fun entries (key, item) ↦ insertInto key item entries)
      t.entries := by
  induction pairs generalizing t with
  | nil => rfl
  | cons pair rest ih => exact ih (t.insert pair.1 pair.2)

theorem entries_ofPairs (pairs : List (String × β)) :
    (ofPairs pairs).entries = pairs.foldl (fun entries (key, item) ↦ insertInto key item entries) [] :=
  entries_insertAll {} pairs

/-- The table of the entries of a table is that table. -/
@[simp] theorem ofPairs_entries (t : Table β) : ofPairs t.entries = t := by
  have happend (front back : List (String × β)) (h : ((front ++ back).map Prod.fst).Nodup) :
      back.foldl (fun entries (key, item) ↦ insertInto key item entries) front = front ++ back := by
    induction back generalizing front with
    | nil => rw [List.foldl_nil, List.append_nil]
    | cons entry rest ih =>
      obtain ⟨key, item⟩ := entry
      rw [List.append_cons] at h ⊢
      have hnew : key ∉ front.map Prod.fst := by
        rw [List.map_append, List.map_append, List.append_assoc, List.nodup_append] at h
        intro hmem
        exact h.2.2 key hmem key List.mem_cons_self rfl
      rw [List.foldl_cons]
      dsimp only
      rw [insertInto_of_not_mem hnew, ih _ h]
  apply ext
  rw [entries_ofPairs]
  exact happend [] t.entries t.nodup_keys

@[simp] theorem keys_erase (t : Table β) (key : String) :
    (t.erase key).keys = t.keys.filter (· != key) := by
  simp [erase, keys, List.filter_map, Function.comp_def]

theorem get?_erase_self (t : Table β) (key : String) : (t.erase key).get? key = none := by
  apply lookup_eq_none_of_not_mem
  change key ∉ (t.erase key).keys
  rw [keys_erase, List.mem_filter]
  exact fun h ↦ absurd h.2 (by simp)

theorem get?_erase_of_ne (t : Table β) {key other : String} (h : other ≠ key) :
    (t.erase key).get? other = t.get? other := by
  unfold get? erase
  dsimp only
  induction t.entries with
  | nil => rfl
  | cons entry rest ih =>
    obtain ⟨first, item⟩ := entry
    by_cases hfirst : first = key
    · have hne : (other == first) = false := by
        rw [beq_eq_false_iff_ne, hfirst]
        exact h
      rw [List.filter_cons_of_neg (by simp [hfirst]), ih, List.lookup_cons, hne]
    · rw [List.filter_cons_of_pos (by simp [hfirst]), List.lookup_cons, List.lookup_cons, ih]

theorem mem_keys_iff {t : Table β} {key : String} : key ∈ t.keys ↔ ∃ item, t.get? key = some item := by
  constructor
  · intro h
    cases hget : t.get? key with
    | some item => exact ⟨item, rfl⟩
    | none =>
      obtain ⟨entry, hentry, rfl⟩ := List.mem_map.1 h
      have hne := List.lookup_eq_none_iff.1 hget entry hentry
      exact absurd rfl (bne_iff_ne.1 hne)
  · rintro ⟨item, h⟩
    exact mem_of_lookup_eq_some h

end Table

end Extremum
