import Extremum.Proofs.Session.Parameters
import Mathlib.Data.List.Induction

/-!
# Many entries at once

A store can be handed many entries in one call, as a mapping or as a list of pairs in which a key may come more than
once. Pairs under one key count as one entry, at the place of the first and with the value of the last (`merged`). The
call does what putting these entries under their keys one by one does, and stops at the first that is no parameter:
those before it are in the store, and everything else is as it was. Main statement: `merges_of_entriesPart`.
-/

namespace Extremum

/-! ## Tables -/

namespace Table

variable {β : Type} {t : Table β} {pairs : List (String × β)} {key : String} {item : β}

/-- The keys of pairs in the order in which they first come. -/
def firstKeys (pairs : List (String × β)) : List String :=
  (pairs.map Prod.fst).reverse.dedup.reverse

/-- The item that comes last under a key. -/
def lastItem? (pairs : List (String × β)) (key : String) : Option β :=
  pairs.reverse.lookup key

/-- The entries that pairs stand for: each key at the place of its first pair, with the item of its last. -/
def merged (pairs : List (String × β)) : List (String × β) :=
  (firstKeys pairs).filterMap fun key ↦ (lastItem? pairs key).map (key, ·)

@[simp] theorem mem_firstKeys : key ∈ firstKeys pairs ↔ key ∈ pairs.map Prod.fst := by
  simp only [firstKeys, List.mem_reverse, List.mem_dedup]

theorem firstKeys_concat : firstKeys (pairs ++ [(key, item)]) =
    if key ∈ pairs.map Prod.fst then firstKeys pairs else firstKeys pairs ++ [key] := by
  unfold firstKeys
  rw [List.map_append, List.reverse_append, List.map_singleton, List.reverse_singleton, List.singleton_append]
  by_cases hkey : key ∈ pairs.map Prod.fst
  · rw [List.dedup_cons_of_mem (List.mem_reverse.2 hkey), if_pos hkey]
  · rw [List.dedup_cons_of_notMem (hkey <| List.mem_reverse.1 ·), List.reverse_cons, if_neg hkey]

theorem lastItem?_concat_self : lastItem? (pairs ++ [(key, item)]) key = some item := by
  simp [lastItem?]

theorem lastItem?_concat_of_ne {other : String} (h : other ≠ key) :
    lastItem? (pairs ++ [(key, item)]) other = lastItem? pairs other := by
  simp [lastItem?, List.lookup_cons, beq_false_of_ne h]

theorem insertAll_concat : t.insertAll (pairs ++ [(key, item)]) = (t.insertAll pairs).insert key item := by
  simp only [insertAll, List.foldl_append, List.foldl_cons, List.foldl_nil]

/-- The keys that were there keep their places, and the others follow in the order in which they first come. -/
theorem keys_insertAll (t : Table β) (pairs : List (String × β)) :
    (t.insertAll pairs).keys = t.keys ++ (firstKeys pairs).filter (· ∉ t.keys) := by
  induction pairs using List.reverseRecOn with
  | nil => simp [insertAll, firstKeys]
  | append_singleton pairs pair ih =>
    obtain ⟨key, item⟩ := pair
    rw [insertAll_concat, keys_insert, ih, firstKeys_concat]
    by_cases hfirst : key ∈ pairs.map Prod.fst
    · have hpresent : key ∈ t.keys ++ (firstKeys pairs).filter (· ∉ t.keys) := by
        by_cases hold : key ∈ t.keys <;> simp [hold, mem_firstKeys.2 hfirst]
      rw [if_pos hpresent, if_pos hfirst]
    · rw [if_neg hfirst, List.filter_append]
      have hunlisted : key ∉ (firstKeys pairs).filter (· ∉ t.keys) :=
        fun hlisted ↦ hfirst (mem_firstKeys.1 (List.mem_filter.1 hlisted).1)
      by_cases hold : key ∈ t.keys
      · simp [hold]
      · rw [if_neg (by simp only [List.mem_append, hold, hunlisted, or_self, not_false_eq_true])]
        simp [hold]

/-- Under a key is the item that comes last, or else what was there. -/
theorem get?_insertAll (t : Table β) (pairs : List (String × β)) (key : String) :
    (t.insertAll pairs).get? key = (lastItem? pairs key).or (t.get? key) := by
  induction pairs using List.reverseRecOn with
  | nil => rfl
  | append_singleton pairs pair ih =>
    obtain ⟨other, item⟩ := pair
    rw [insertAll_concat]
    by_cases hkey : key = other
    · subst hkey
      rw [get?_insert_self, lastItem?_concat_self, Option.some_or]
    · rw [get?_insert_of_ne _ _ hkey, lastItem?_concat_of_ne hkey, ih]

/-- Entries under distinct keys are known from the keys and from what is found under them. -/
theorem filterMap_lookup {entries : List (String × β)} (h : (entries.map Prod.fst).Nodup) :
    (entries.map Prod.fst).filterMap (fun key ↦ (entries.lookup key).map (key, ·)) = entries := by
  induction entries with
  | nil => rfl
  | cons entry rest ih =>
    obtain ⟨first, item⟩ := entry
    rw [List.map_cons, List.nodup_cons] at h
    have hrest : ∀ key ∈ rest.map Prod.fst, ((first, item) :: rest).lookup key = rest.lookup key := by
      intro key hkey
      have hne : key ≠ first := fun heq ↦ h.1 (heq ▸ hkey)
      rw [List.lookup_cons, beq_false_of_ne hne]
    rw [List.map_cons, List.filterMap_cons, List.lookup_cons_self, Option.map_some]
    dsimp only
    rw [List.filterMap_congr fun key hkey ↦ congrArg _ (hrest key hkey), ih h.2]

theorem lookup_of_mem {entries : List (String × β)} (h : (entries.map Prod.fst).Nodup) (hmem : (key, item) ∈ entries) :
    entries.lookup key = some item := by
  induction entries with
  | nil => cases hmem
  | cons entry rest ih =>
    rw [List.map_cons, List.nodup_cons] at h
    rcases List.mem_cons.1 hmem with rfl | hrest
    · exact List.lookup_cons_self
    · have hne : key ≠ entry.1 := fun heq ↦ h.1 (heq ▸ List.mem_map_of_mem hrest)
      rw [List.lookup_cons, beq_false_of_ne hne]
      exact ih h.2 hrest

theorem entries_eq_filterMap (t : Table β) : t.entries = t.keys.filterMap fun key ↦ (t.get? key).map (key, ·) :=
  (filterMap_lookup t.nodup_keys).symm

/-- A table of pairs has the entries that the pairs stand for. -/
theorem entries_ofPairs_eq_merged (pairs : List (String × β)) : (ofPairs pairs).entries = merged pairs := by
  have hkeys : (ofPairs pairs).keys = firstKeys pairs := by
    have hnone : ∀ key ∈ firstKeys pairs, decide (key ∉ ({} : Table β).keys) = true :=
      fun key _ ↦ decide_eq_true List.not_mem_nil
    exact (keys_insertAll {} pairs).trans (List.filter_eq_self.2 hnone)
  have hitems (key : String) : (ofPairs pairs).get? key = lastItem? pairs key :=
    (get?_insertAll {} pairs key).trans Option.or_none
  rw [entries_eq_filterMap, hkeys, merged]
  simp only [hitems]

theorem lookup_map_snd {γ : Type} (f : β → γ) (entries : List (String × β)) (key : String) :
    (entries.map fun entry ↦ (entry.1, f entry.2)).lookup key = (entries.lookup key).map f := by
  induction entries with
  | nil => rfl
  | cons entry rest ih =>
    rw [List.map_cons, List.lookup_cons, List.lookup_cons, ih]
    cases key == entry.1 <;> rfl

/-- What is done to every item of pairs is done to the entries that they stand for. -/
theorem merged_map {γ : Type} (f : β → γ) (pairs : List (String × β)) :
    merged (pairs.map fun pair ↦ (pair.1, f pair.2)) = (merged pairs).map fun entry ↦ (entry.1, f entry.2) := by
  have hkeys : firstKeys (pairs.map fun pair ↦ (pair.1, f pair.2)) = firstKeys pairs := by
    simp only [firstKeys, List.map_map, Function.comp_def]
  have hitems (key : String) :
      lastItem? (pairs.map fun pair ↦ (pair.1, f pair.2)) key = (lastItem? pairs key).map f := by
    unfold lastItem?
    rw [← List.map_reverse, lookup_map_snd]
  unfold merged
  rw [hkeys, List.map_filterMap]
  simp only [hitems, Option.map_map, Function.comp_def]

/-- Merged pairs have each key once. -/
theorem nodup_keys_merged (pairs : List (String × β)) : ((merged pairs).map Prod.fst).Nodup := by
  rw [← entries_ofPairs_eq_merged]
  exact (ofPairs pairs).nodup_keys

/-- Entries have come into a table. The keys that were there keep their places, and the others follow in the order of
the entries; under every key that is not among the entries there is what was there. -/
structure Extends (before after : Table β) (entries : List (String × β)) : Prop where
  keys : after.keys = before.keys ++ (entries.map Prod.fst).filter (· ∉ before.keys)
  entered : ∀ entry ∈ entries, after.get? entry.1 = some entry.2
  others : ∀ key ∉ entries.map Prod.fst, after.get? key = before.get? key

/-- Inserting entries with distinct keys changes these keys and no others. -/
theorem extends_insertAll (before : Table β) {entries : List (String × β)} (h : (entries.map Prod.fst).Nodup) :
    Extends before (before.insertAll entries) entries where
  keys := by
    have hkeys : firstKeys entries = entries.map Prod.fst := by
      rw [firstKeys, (List.nodup_reverse.2 h).dedup, List.reverse_reverse]
    rw [keys_insertAll, hkeys]
  entered := by
    rintro ⟨key, item⟩ hmem
    have hlast : lastItem? entries key = some item := by
      apply lookup_of_mem _ (List.mem_reverse.2 hmem)
      rw [List.map_reverse]
      exact List.nodup_reverse.2 h
    rw [get?_insertAll, hlast, Option.some_or]
  others := by
    intro key hkey
    have hnone : lastItem? entries key = none := by
      apply lookup_eq_none_of_not_mem
      rw [List.map_reverse, List.mem_reverse]
      exact hkey
    rw [get?_insertAll, hnone, Option.none_or]

end Table

namespace Settings

variable {t : Settings}

/-! ## Settings -/

/-- All entries that the items stand for are assigned one after the other. -/
theorem assignAll_eq_forM (items : List (String × Given (Ref Parameter))) :
    assignAll (.ok items) = (Table.merged items).forM fun entry ↦ assign entry.1 entry.2 := by
  have hloop (entries : List (String × Given (Ref Parameter))) :
      (do
        for entry in entries do
          assign entry.1 entry.2 : Change Unit) = entries.forM fun entry ↦ assign entry.1 entry.2 := by
    induction entries with
    | nil => rfl
    | cons entry rest ih =>
      have hcons : ((entry :: rest).forM fun entry ↦ assign entry.1 entry.2) =
          assign entry.1 entry.2 >>= fun _ ↦ rest.forM fun entry ↦ assign entry.1 entry.2 := rfl
      rw [hcons, ← ih]
      simp only [List.forIn_cons, bind_assoc, pure_bind]
  rw [← Table.entries_ofPairs_eq_merged]
  exact hloop _

/-- Parameters come into the store one after the other, and then the rest is assigned. -/
theorem perform_forM_assign (entries : List (String × Ref Parameter)) (rest : List (String × Given (Ref Parameter)))
    (t : Settings) :
    perform (List.forM (entries.map (fun entry ↦ (entry.1, Except.ok entry.2)) ++ rest)
      fun entry ↦ assign entry.1 entry.2) t =
        perform (rest.forM fun entry ↦ assign entry.1 entry.2) { t with store := t.store.insertAll entries } := by
  induction entries generalizing t with
  | nil => rfl
  | cons entry tail ih => exact ih { t with store := t.store.insert entry.1 entry.2 }

end Settings

namespace Session

variable {s : Session} {place : StorePlace} {before : Store}

/-! ## Stores in their places -/

def withStore (s : Session) (place : StorePlace) (store : Store) : Session :=
  (perform (setStore place store) s).2

theorem perform_setStore (h : s.storeAt? place = some before) (store : Store) :
    perform (setStore place store) s = (.ok (), s.withStore place store) := by
  obtain ⟨t, ht, -⟩ := exists_perform_setStore h store
  rw [withStore, ht]

theorem storeAt?_withStore (h : s.storeAt? place = some before) (store : Store) :
    (s.withStore place store).storeAt? place = some store := by
  obtain ⟨t, ht, hstore, -⟩ := exists_perform_setStore h store
  rw [withStore, ht, hstore]

theorem withStore_self (h : s.storeAt? place = some before) : s.withStore place before = s := by
  obtain ⟨t, ht, -, -, hsame⟩ := exists_perform_setStore h before
  rw [withStore, ht, hsame rfl]

theorem withStore_iterate {r : Ref Iterate} {i : Iterate} (hi : s.iterates.get? r = some i) (store : Store) :
    s.withStore (.iterate r) store = { s with iterates := s.iterates.set r { i with store } } := by
  unfold withStore setStore
  rw [perform_bind_of_ok (perform_get s)]
  dsimp only
  rw [hi]
  rfl

theorem withStore_solver {r : Ref Solver} {v : Solver} (hv : s.solvers.get? r = some v) (store : Store) :
    s.withStore (.solver r) store = { s with solvers := s.solvers.set r { v with store } } :=
  congrArg Prod.snd (perform_setStore_solver hv store)

/-- Of two stores that come into one place the second one stays. -/
theorem withStore_withStore (h : s.storeAt? place = some before) (first second : Store) :
    (s.withStore place first).withStore place second = s.withStore place second := by
  cases place with
  | alone r =>
    have halone (t : Session) (store : Store) :
      t.withStore (.alone r) store = { t with stores := t.stores.set r store } := rfl
    simp only [halone, Arena.set_set]
  | iterate r =>
    obtain ⟨i, hi, -⟩ := Option.map_eq_some_iff.1 h
    have hnew := Arena.get?_set_self s.iterates { i with store := first } i hi
    rw [withStore_iterate hi first, withStore_iterate hnew, withStore_iterate hi second, Arena.set_set]
  | solver r =>
    obtain ⟨v, hv, -⟩ := Option.map_eq_some_iff.1 h
    have hnew := Arena.get?_set_self s.solvers { v with store := first } v hv
    rw [withStore_solver hv first, withStore_solver hnew, withStore_solver hv second, Arena.set_set]

theorem kind_withStore (h : s.storeAt? place = some before) (store : Store) (r : Ref Solver) :
    ((s.withStore place store).solvers.get? r).map (·.kind) = (s.solvers.get? r).map (·.kind) := by
  cases place with
  | alone r' => rfl
  | iterate r' =>
    obtain ⟨i, hi, -⟩ := Option.map_eq_some_iff.1 h
    rw [withStore_iterate hi]
  | solver r' =>
    obtain ⟨v, hv, -⟩ := Option.map_eq_some_iff.1 h
    rw [withStore_solver hv]
    by_cases hr : r' = r
    · subst hr
      rw [Arena.get?_set_self _ _ _ hv, hv, Option.map_some, Option.map_some]
    · rw [Arena.get?_set_of_ne _ _ hr]

/-- Whether a value is a parameter, and what it is called if it is none, does not depend on stores. -/
theorem entryPart_withStore (h : s.storeAt? place = some before) (store : Store) (v : Value) :
    v.entryPart (s.withStore place store) = v.entryPart s := by
  cases v with
  | solver r =>
    have hname := congrArg (Option.map SolverClass.name) (kind_withStore h store r)
    rw [Option.map_map, Option.map_map] at hname
    exact congrArg (fun name : Option String ↦ Except.error (name.getD "")) hname
  | cls c => cases c <;> rfl
  | _ => rfl

/-! ## One by one -/

/-- A change of a store that leaves parameters alone puts another store in its place. -/
theorem perform_changeStore_of_store (h : s.storeAt? place = some before) {c : Settings.Change Unit}
    {answer : Except (Error Float) Unit} {after : Store}
    (hc : perform c ⟨s.parameters, before⟩ = (answer, ⟨s.parameters, after⟩)) :
    perform (changeStore place c) s = (answer, s.withStore place after) := by
  have hrun : c.run ⟨s.parameters, before⟩ = (answer, ⟨s.parameters, after⟩) := hc
  have hset : perform (setStore place after) { s with parameters := s.parameters } =
    (.ok (), s.withStore place after) := perform_setStore h after
  unfold changeStore
  rw [perform_bind_of_ok (perform_store h), perform_bind_of_ok (perform_get s), hrun]
  dsimp only
  rw [perform_bind_of_ok (perform_modify s _), perform_bind_of_ok hset, perform_lift]

/-- A change is known from what it does to the parameters and to the store at the place. -/
theorem perform_changeStore_congr (h : s.storeAt? place = some before) {c d : Settings.Change Unit}
    (hcd : perform c ⟨s.parameters, before⟩ = perform d ⟨s.parameters, before⟩) :
    perform (changeStore place c) s = perform (changeStore place d) s := by
  have hrun : c.run ⟨s.parameters, before⟩ = d.run ⟨s.parameters, before⟩ := hcd
  unfold changeStore
  rw [perform_bind_of_ok (perform_store h), perform_bind_of_ok (perform_get s), perform_bind_of_ok (perform_store h),
    perform_bind_of_ok (perform_get s), hrun]

/-- Puts values under keys, one after the other, up to the first that is no parameter. -/
def assignEach (place : StorePlace) (entries : List (String × Value)) : Run Unit :=
  entries.forM fun entry ↦ (StoreCall.assign entry.1 entry.2).run place

/-- Entries that are parameters, as a caller gives them. -/
def asValues (entries : List (String × Ref Parameter)) : List (String × Value) :=
  entries.map fun entry ↦ (entry.1, .parameter entry.2)

theorem perform_run_assign (place : StorePlace) (key : String) (item : Value) (s : Session) :
    perform ((StoreCall.assign key item).run place) s =
      perform (changeStore place (Settings.assign key (item.entryPart s))) s :=
  perform_bind_of_ok (perform_get s) _

theorem perform_assign_of_ok (h : s.storeAt? place = some before) (key : String) {item : Value} {r : Ref Parameter}
    (hitem : item.entryPart s = .ok r) :
    perform ((StoreCall.assign key item).run place) s = (.ok (), s.withStore place (before.insert key r)) := by
  rw [perform_run_assign, hitem]
  exact perform_changeStore_of_store h rfl

theorem perform_assign_of_error (h : s.storeAt? place = some before) (key : String) {item : Value} {given : String}
    (hitem : item.entryPart s = .error given) :
    perform ((StoreCall.assign key item).run place) s = (.error (.entryExpected key given), s) := by
  rw [perform_run_assign, hitem]
  have hsame : perform (changeStore place (Settings.assign key (.error given))) s =
    (.error (.entryExpected key given), s.withStore place before) := perform_changeStore_of_store h rfl
  rw [hsame, withStore_self h]

/-- Parameters come into the store, and then the rest is assigned. -/
theorem perform_assignEach_append (h : s.storeAt? place = some before) (entries : List (String × Ref Parameter))
    (rest : List (String × Value)) :
    perform (assignEach place (asValues entries ++ rest)) s =
      perform (assignEach place rest) (s.withStore place (before.insertAll entries)) := by
  induction entries generalizing s before with
  | nil =>
    change perform (assignEach place rest) s = perform (assignEach place rest) (s.withStore place before)
    rw [withStore_self h]
  | cons entry tail ih =>
    have hfirst : perform ((StoreCall.assign entry.1 (.parameter entry.2)).run place) s =
      (.ok (), s.withStore place (before.insert entry.1 entry.2)) := perform_assign_of_ok h entry.1 rfl
    calc
      perform (assignEach place (asValues (entry :: tail) ++ rest)) s =
          perform (assignEach place (asValues tail ++ rest)) (s.withStore place (before.insert entry.1 entry.2)) :=
        perform_bind_of_ok hfirst _
      _ = perform (assignEach place rest) (s.withStore place ((before.insert entry.1 entry.2).insertAll tail)) := by
        rw [ih (storeAt?_withStore h _), withStore_withStore h]

/-- Assigning values one after the other is inserting them all. -/
theorem perform_assignEach (h : s.storeAt? place = some before) (entries : List (String × Ref Parameter)) :
    perform (assignEach place (asValues entries)) s = (.ok (), s.withStore place (before.insertAll entries)) := by
  rw [← List.append_nil (asValues entries), perform_assignEach_append h]
  rfl

/-- Assigning stops at the first value that is not a parameter, and keeps what was assigned before it. -/
theorem perform_assignEach_of_error (h : s.storeAt? place = some before) (entries : List (String × Ref Parameter))
    (key : String) {item : Value} {given : String} (hitem : item.entryPart s = .error given)
    (rest : List (String × Value)) :
    perform (assignEach place (asValues entries ++ (key, item) :: rest)) s =
      (.error (.entryExpected key given), s.withStore place (before.insertAll entries)) := by
  have hsame := (entryPart_withStore h (before.insertAll entries) item).trans hitem
  have hfails := perform_assign_of_error (storeAt?_withStore h (before.insertAll entries)) key hsame
  rw [perform_assignEach_append h]
  exact perform_bind_of_error hfails _

/-! ## All at once -/

/-- What the entries that are to be assigned are read as. -/
theorem merged_storeItems (s : Session) (pairs : List (String × Value)) :
    Table.merged (pairs.map fun pair ↦ (pair.1, pair.2.entryPart s)) =
      (Table.merged pairs).map fun entry ↦ (entry.1, entry.2.entryPart s) :=
  Table.merged_map (·.entryPart s) pairs

theorem perform_assignAll {pairs : List (String × Value)} {entries : List (String × Ref Parameter)}
    (hentries : Table.merged pairs = asValues entries) (s : Session) (t : Settings) :
    perform (Settings.assignAll (Value.storeItems s (.ok pairs))) t =
      (.ok (), { t with store := t.store.insertAll entries }) := by
  have hread : Value.storeItems s (.ok pairs) = .ok (pairs.map fun pair ↦ (pair.1, pair.2.entryPart s)) := rfl
  have hloop := Settings.perform_forM_assign entries [] t
  rw [List.append_nil] at hloop
  rw [hread, Settings.assignAll_eq_forM, merged_storeItems, hentries, asValues, List.map_map]
  exact hloop

theorem perform_assignAll_of_error {pairs : List (String × Value)} {entries : List (String × Ref Parameter)}
    {key given : String} {item : Value} {rest : List (String × Value)}
    (hentries : Table.merged pairs = asValues entries ++ (key, item) :: rest)
    (hitem : item.entryPart s = .error given) (t : Settings) :
    perform (Settings.assignAll (Value.storeItems s (.ok pairs))) t =
      (.error (.entryExpected key given), { t with store := t.store.insertAll entries }) := by
  have hread : Value.storeItems s (.ok pairs) = .ok (pairs.map fun pair ↦ (pair.1, pair.2.entryPart s)) := rfl
  rw [hread, Settings.assignAll_eq_forM, merged_storeItems, hentries, List.map_append, asValues, List.map_map,
    List.map_cons, hitem]
  exact Settings.perform_forM_assign entries _ t

/-- Entries are all parameters, or there is a first that is none. -/
theorem asValues_or_append (entries : List (String × Value)) : (∃ taken, entries = asValues taken) ∨
    ∃ taken key item rest, entries = asValues taken ++ (key, item) :: rest ∧ ∀ r, item ≠ .parameter r := by
  induction entries with
  | nil => exact .inl ⟨[], rfl⟩
  | cons entry tail ih =>
    obtain ⟨key, item⟩ := entry
    by_cases hitem : ∃ r, item = .parameter r
    · obtain ⟨r, rfl⟩ := hitem
      obtain ⟨taken, rfl⟩ | ⟨taken, other, bad, rest, rfl, hbad⟩ := ih
      · exact .inl ⟨(key, r) :: taken, rfl⟩
      · exact .inr ⟨(key, r) :: taken, other, bad, rest, rfl, hbad⟩
    · exact .inr ⟨[], key, item, tail, rfl, not_exists.1 hitem⟩

theorem exists_entryPart_eq_error {item : Value} (h : ∀ r, item ≠ .parameter r) (s : Session) :
    ∃ given, item.entryPart s = .error given := by
  cases hitem : item.entryPart s with
  | error given => exact ⟨given, rfl⟩
  | ok r =>
    unfold Value.entryPart at hitem
    split at hitem
    · exact (h _ rfl).elim
    · cases hitem

theorem perform_run_assignAll (h : s.storeAt? place = some before) {items : Value} {pairs : List (String × Value)}
    (hitems : items.entriesPart s = .ok pairs) {answer : Except (Error Float) Unit} {after : Store}
    (hchange : perform (Settings.assignAll (Value.storeItems s (.ok pairs))) ⟨s.parameters, before⟩ =
      (answer, ⟨s.parameters, after⟩)) :
    perform ((StoreCall.assignAll (items.entriesPart s)).run place) s = (answer, s.withStore place after) := by
  have hrun : perform ((StoreCall.assignAll (items.entriesPart s)).run place) s =
      perform (changeStore place (Settings.assignAll (Value.storeItems s (items.entriesPart s)))) s :=
    perform_bind_of_ok (perform_get s) _
  rw [hrun, hitems]
  exact perform_changeStore_of_store h hchange

theorem perform_addStore {items : Reading Float (List (String × Given (Ref Parameter)))} {store : Store}
    (h : perform (Settings.assignAll items) ⟨s.parameters, {}⟩ = (.ok (), ⟨s.parameters, store⟩)) :
    perform (addStore items) s = (.ok (s.stores.add store).1, { s with stores := (s.stores.add store).2 }) := by
  have hrun : (Settings.assignAll items).run ⟨s.parameters, {}⟩ = (.ok (), ⟨s.parameters, store⟩) := h
  unfold addStore
  rw [perform_bind_of_ok (perform_get s), hrun]
  rfl

theorem perform_addStore_of_error {items : Reading Float (List (String × Given (Ref Parameter)))}
    {e : Error Float} {settings : Settings}
    (h : perform (Settings.assignAll items) ⟨s.parameters, {}⟩ = (.error e, settings)) :
    perform (addStore items) s = (.error e, s) := by
  have hrun : (Settings.assignAll items).run ⟨s.parameters, {}⟩ = (.error e, settings) := h
  unfold addStore
  rw [perform_bind_of_ok (perform_get s), hrun]
  rfl

/-- A parameter is put under a key unless there is something. -/
theorem perform_assignIfAbsent (h : s.storeAt? place = some before) (key : String) (item : Value) :
    perform ((StoreCall.assignIfAbsent key item).run place) s =
      if before.contains key then (.ok (), s) else perform ((StoreCall.assign key item).run place) s := by
  have hrun : perform ((StoreCall.assignIfAbsent key item).run place) s =
      perform (changeStore place (Settings.assignIfAbsent key (item.entryPart s))) s :=
    perform_bind_of_ok (perform_get s) _
  have hget : perform (Settings.assignIfAbsent key (item.entryPart s)) ⟨s.parameters, before⟩ =
      perform (if before.contains key then pure () else Settings.assign key (item.entryPart s))
        ⟨s.parameters, before⟩ := by
    unfold Settings.assignIfAbsent
    rw [perform_bind_of_ok (perform_get _)]
  rw [hrun]
  cases hkey : before.contains key with
  | true =>
    rw [hkey, if_pos rfl] at hget
    rw [if_pos rfl, perform_changeStore_of_store h hget, withStore_self h]
  | false =>
    rw [hkey, if_neg Bool.false_ne_true] at hget
    rw [if_neg Bool.false_ne_true, perform_run_assign, perform_changeStore_congr h hget]

/-- Assigning what is no parameter changes nothing. -/
theorem refused_of_assign (h : s.storeAt? place = some before) {key : String} {item : Value} {e : Error Float}
    {t : Session} (hfails : perform ((StoreCall.assign key item).run place) s = (.error e, t)) :
    t = s ∧ e.kindName = Kind.typeMismatch.name := by
  cases hitem : item.entryPart s with
  | ok r => cases (perform_assign_of_ok h key hitem).symm.trans hfails
  | error given =>
    cases (perform_assign_of_error h key hitem).symm.trans hfails
    exact ⟨rfl, rfl⟩

/-! ## Main statement -/

/-- What is done with many entries at once: what is done when they are put under their keys one after the other, up to
the first that is no parameter. Nothing but the store at the place changes. -/
structure Merges (place : StorePlace) (before : Store) (items : Value) (pairs : List (String × Value))
    (s : Session) : Prop where
  /-- The entries are all parameters, or there is a first that is none. -/
  taken : (∃ entries, Table.merged pairs = asValues entries) ∨ ∃ entries key item rest,
    Table.merged pairs = asValues entries ++ (key, item) :: rest ∧ ∀ r, item ≠ .parameter r
  each : perform ((StoreCall.assignAll (items.entriesPart s)).run place) s =
    perform (assignEach place (Table.merged pairs)) s
  /-- Entries that are all parameters are all in the store. -/
  succeeds : ∀ entries, Table.merged pairs = asValues entries → ∃ after, before.Extends after entries ∧
    perform ((StoreCall.assignAll (items.entriesPart s)).run place) s = (.ok (), s.withStore place after)
  /-- Otherwise those before the first that is none are in the store, and the types do not match. -/
  fails : ∀ entries key item rest, Table.merged pairs = asValues entries ++ (key, item) :: rest →
    (∀ r, item ≠ .parameter r) → ∃ e after, e.kindName = Kind.typeMismatch.name ∧ before.Extends after entries ∧
      perform ((StoreCall.assignAll (items.entriesPart s)).run place) s = (.error e, s.withStore place after)
  /-- A new store has the entries that an empty one would have in the end. -/
  makes : ∀ entries, Table.merged pairs = asValues entries → ∃ store, Table.Extends {} store entries ∧
    perform (addStore (Value.storeItems s (items.entriesPart s))) s =
      (.ok (s.stores.add store).1, { s with stores := (s.stores.add store).2 })
  /-- There is no new store if an entry is no parameter. -/
  makesNone : ∀ entries key item rest, Table.merged pairs = asValues entries ++ (key, item) :: rest →
    (∀ r, item ≠ .parameter r) → ∃ e, e.kindName = Kind.typeMismatch.name ∧
      perform (addStore (Value.storeItems s (items.entriesPart s))) s = (.error e, s)
  /-- A single entry that is refused leaves everything as it was. -/
  refused : ∀ key item e t, perform ((StoreCall.assign key item).run place) s = (.error e, t) ∨
    perform ((StoreCall.assignIfAbsent key item).run place) s = (.error e, t) →
      t = s ∧ e.kindName = Kind.typeMismatch.name

/-- A list of pairs stands for these pairs. -/
theorem entriesPart_list (s : Session) (pairs : List (String × Value)) :
    (Value.list (pairs.map fun pair ↦ .tuple [.text pair.1, pair.2])).entriesPart s = .ok pairs := by
  change (pairs.map fun pair ↦ Value.tuple [.text pair.1, pair.2]).mapM (Value.pairPart s) = .ok pairs
  induction pairs with
  | nil => rfl
  | cons pair tail ih =>
    rw [List.map_cons, List.mapM_cons, ih]
    rfl

/-- What comes of many entries is what comes of each. -/
theorem merges_of_entriesPart (h : s.storeAt? place = some before) {items : Value} {pairs : List (String × Value)}
    (hitems : items.entriesPart s = .ok pairs) : Merges place before items pairs s := by
  have hnodup {entries : List (String × Ref Parameter)} {rest : List (String × Value)}
      (hentries : Table.merged pairs = asValues entries ++ rest) : (entries.map Prod.fst).Nodup := by
    have hkeys := Table.nodup_keys_merged pairs
    rw [hentries, List.map_append, List.nodup_append] at hkeys
    simpa only [asValues, List.map_map, Function.comp_def] using hkeys.1
  have hall {entries : List (String × Ref Parameter)} (hentries : Table.merged pairs = asValues entries) :
      (entries.map Prod.fst).Nodup := hnodup (hentries.trans (List.append_nil _).symm)
  constructor
  case taken => exact asValues_or_append _
  case each =>
    obtain ⟨entries, hentries⟩ | ⟨entries, key, item, rest, hentries, hitem⟩ := asValues_or_append (Table.merged pairs)
    · rw [perform_run_assignAll h hitems (perform_assignAll hentries s _), hentries, perform_assignEach h]
    · obtain ⟨given, hgiven⟩ := exists_entryPart_eq_error hitem s
      rw [perform_run_assignAll h hitems (perform_assignAll_of_error hentries hgiven _), hentries,
        perform_assignEach_of_error h entries key hgiven]
  case succeeds =>
    intro entries hentries
    exact ⟨_, Table.extends_insertAll before (hall hentries),
      perform_run_assignAll h hitems (perform_assignAll hentries s _)⟩
  case fails =>
    intro entries key item rest hentries hitem
    obtain ⟨given, hgiven⟩ := exists_entryPart_eq_error hitem s
    exact ⟨_, _, rfl, Table.extends_insertAll before (hnodup hentries),
      perform_run_assignAll h hitems (perform_assignAll_of_error hentries hgiven _)⟩
  case makes =>
    intro entries hentries
    rw [hitems]
    exact ⟨_, Table.extends_insertAll {} (hall hentries), perform_addStore (perform_assignAll hentries s _)⟩
  case makesNone =>
    intro entries key item rest hentries hitem
    obtain ⟨given, hgiven⟩ := exists_entryPart_eq_error hitem s
    rw [hitems]
    exact ⟨_, rfl, perform_addStore_of_error (perform_assignAll_of_error hentries hgiven _)⟩
  case refused =>
    rintro key item e t (hfails | hfails)
    · exact refused_of_assign h hfails
    · rw [perform_assignIfAbsent h] at hfails
      split at hfails
      · cases hfails
      · exact refused_of_assign h hfails

/-- Two keys come twice in a list of pairs, one of them is in the store already, and there is a text among the values:
the two keys and their last values are in the store, and the key that comes after the text is not. -/
theorem merges_of_entriesPart_repeated :
    let place := StorePlace.alone ⟨0⟩
    let before := Table.ofPairs [("rounds", ⟨0⟩), ("kept", ⟨0⟩)]
    let s : Session := { stores := ⟨[before]⟩ }
    let pairs := [("limit", Value.parameter ⟨1⟩), ("rounds", .parameter ⟨0⟩), ("limit", .parameter ⟨0⟩),
      ("note", .text ""), ("rounds", .parameter ⟨1⟩), ("late", .parameter ⟨1⟩)]
    let items := Value.list (pairs.map fun pair ↦ .tuple [.text pair.1, pair.2])
    s.storeAt? place = some before ∧ items.entriesPart s = .ok pairs ∧
      ∃ e after, e.kindName = Kind.typeMismatch.name ∧ after.keys = ["rounds", "kept", "limit"] ∧
        after.get? "rounds" = some ⟨1⟩ ∧ after.get? "kept" = some ⟨0⟩ ∧ after.get? "limit" = some ⟨0⟩ ∧
        perform ((StoreCall.assignAll (items.entriesPart s)).run place) s = (.error e, s.withStore place after) := by
  intro place before s pairs items
  have hitems := entriesPart_list s pairs
  have hmerges : Merges place before items pairs s := merges_of_entriesPart rfl hitems
  have hentries : Table.merged pairs = asValues [("limit", ⟨0⟩), ("rounds", ⟨1⟩)] ++
    ("note", .text "") :: [("late", .parameter ⟨1⟩)] := rfl
  obtain ⟨e, after, hkind, hafter, hcall⟩ := hmerges.fails _ _ _ _ hentries nofun
  refine ⟨rfl, hitems, e, after, hkind, hafter.keys, ?_, ?_, ?_, hcall⟩
  · exact hafter.entered ("rounds", ⟨1⟩) (by decide)
  · exact hafter.others "kept" (by decide)
  · exact hafter.entered ("limit", ⟨0⟩) (by decide)

end Session

end Extremum
