import Extremum.Proofs.Perform
import Extremum.Proofs.Reading
import Extremum.Settings

/-!
# What settings hold

Settings that were made by putting and updating alone hold a list of parameters under distinct keys: no two
entries of the store share a parameter, so that giving one of them a value is a change of that parameter only.
Main statements: what is held after parameters have been put, and after they have been configured.
-/

namespace Extremum

namespace Table

variable {β : Type} {key : String} {item : β} {entry : String × β}

theorem eq_or_mem_of_mem_insertInto {entries : List (String × β)} (h : entry ∈ insertInto key item entries) :
    entry = (key, item) ∨ entry ∈ entries := by
  induction entries with
  | nil => exact .inl (List.mem_singleton.1 h)
  | cons first rest ih =>
    unfold insertInto at h
    split at h
    · exact (List.mem_cons.1 h).imp_right (List.mem_cons_of_mem first)
    · rcases List.mem_cons.1 h with h | h
      · exact .inr (List.mem_cons.2 (.inl h))
      · exact (ih h).imp_right (List.mem_cons_of_mem first)

theorem mem_of_mem_insertAll {t : Table β} {pairs : List (String × β)} (h : entry ∈ (t.insertAll pairs).entries) :
    entry ∈ t.entries ∨ entry ∈ pairs := by
  induction pairs generalizing t with
  | nil => exact .inl h
  | cons pair rest ih =>
    rcases ih h with h | h
    · rcases eq_or_mem_of_mem_insertInto h with rfl | h
      · exact .inr List.mem_cons_self
      · exact .inl h
    · exact .inr (List.mem_cons_of_mem pair h)

theorem mem_of_mem_ofPairs {pairs : List (String × β)} (h : entry ∈ (ofPairs pairs).entries) : entry ∈ pairs :=
  (mem_of_mem_insertAll h).resolve_left List.not_mem_nil

end Table

namespace Settings

/-- The settings stand for a list of parameters by key, none of which is shared. -/
structure Holds (s : Settings) (held : List (String × Parameter)) : Prop where
  entries : List.Forall₂ (fun entry item ↦ entry.1 = item.1 ∧ s.parameters.get? entry.2 = some item.2)
    s.store.entries held
  distinct : (s.store.entries.map Prod.snd).Nodup

variable {s t : Settings} {key : String} {held : List (String × Parameter)}

section Entries

variable {parameters : Arena Parameter} {entries : List (String × Ref Parameter)}

/-- Entries that refer to the listed parameters. -/
abbrev Refer (parameters : Arena Parameter) : List (String × Ref Parameter) → List (String × Parameter) → Prop :=
  List.Forall₂ fun entry item ↦ entry.1 = item.1 ∧ parameters.get? entry.2 = some item.2

theorem Refer.keys (h : Refer parameters entries held) : entries.map Prod.fst = held.map Prod.fst := by
  induction h with
  | nil => rfl
  | cons hfirst _ ih => rw [List.map_cons, List.map_cons, hfirst.1, ih]

theorem Refer.mono {others : Arena Parameter}
    (hsame : ∀ entry ∈ entries, others.get? entry.2 = parameters.get? entry.2)
    (h : Refer parameters entries held) : Refer others entries held := by
  induction h with
  | nil => exact .nil
  | @cons entry item rest _ hfirst _ ih =>
    have hentry := hsame entry List.mem_cons_self
    refine .cons ⟨hfirst.1, hentry.trans hfirst.2⟩ (ih ?_)
    exact fun other hother ↦ hsame other (List.mem_cons_of_mem entry hother)

theorem Refer.good (h : Refer parameters entries held) :
    ∀ entry ∈ entries, ∃ p, parameters.get? entry.2 = some p := by
  induction h with
  | nil => simp
  | cons hfirst _ ih =>
    intro entry hentry
    rcases List.mem_cons.1 hentry with rfl | hentry
    · exact ⟨_, hfirst.2⟩
    · exact ih entry hentry

/-- What a store refers to, looked up entry by entry, is what it holds. -/
theorem Refer.filterMap (h : Refer parameters entries held) :
    entries.filterMap (fun (key, r) ↦ (parameters.get? r).map fun p ↦ (key, p)) = held := by
  induction h with
  | nil => rfl
  | @cons entry item _ _ hfirst _ ih =>
    obtain ⟨first, r⟩ := entry
    obtain ⟨second, p⟩ := item
    obtain rfl : first = second := hfirst.1
    have hread : parameters.get? r = some p := hfirst.2
    rw [List.filterMap_cons]
    dsimp only
    rw [hread, Option.map_some, ih]

/-- A key that is held leads to a parameter of its content. -/
theorem Refer.lookup {p : Parameter} (h : Refer parameters entries held) (hp : held.lookup key = some p) :
    ∃ r, entries.lookup key = some r ∧ parameters.get? r = some p := by
  induction h with
  | nil => cases hp
  | @cons entry item _ _ hfirst _ ih =>
    obtain ⟨first, r⟩ := entry
    obtain ⟨second, q⟩ := item
    obtain rfl : first = second := hfirst.1
    rw [List.lookup_cons] at hp ⊢
    split at hp
    · obtain rfl : q = p := Option.some.inj hp
      exact ⟨r, rfl, hfirst.2⟩
    · exact ih hp

theorem Refer.insertInto {r : Ref Parameter} {p : Parameter} (hr : parameters.get? r = some p)
    (h : Refer parameters entries held) :
    Refer parameters (Table.insertInto key r entries) (Table.insertInto key p held) := by
  induction h with
  | nil => exact .cons ⟨rfl, hr⟩ .nil
  | @cons entry item _ _ hfirst hrest ih =>
    obtain ⟨first, old⟩ := entry
    obtain ⟨second, content⟩ := item
    obtain rfl : first = second := hfirst.1
    unfold Table.insertInto
    split
    · exact .cons ⟨rfl, hr⟩ hrest
    · exact .cons hfirst ih

/-- Giving the parameter of one entry another value is seen under the key of that entry only. -/
theorem Refer.set {r : Ref Parameter} {p : Parameter} (hlookup : entries.lookup key = some r)
    (hdistinct : (entries.map Prod.snd).Nodup) (h : Refer parameters entries held) :
    Refer (parameters.set r p) entries (Table.insertInto key p held) := by
  induction h with
  | nil => cases hlookup
  | @cons entry item rest _ hfirst hrest ih =>
    obtain ⟨first, old⟩ := entry
    obtain ⟨second, content⟩ := item
    obtain rfl : first = second := hfirst.1
    rw [List.map_cons, List.nodup_cons] at hdistinct
    by_cases hkey : first = key
    · subst hkey
      rw [List.lookup_cons_self] at hlookup
      obtain rfl : old = r := Option.some.inj hlookup
      rw [Table.insertInto, if_pos rfl]
      refine .cons ⟨rfl, Arena.get?_set_self _ _ _ hfirst.2⟩ (Refer.mono ?_ hrest)
      intro other hother
      apply Arena.get?_set_of_ne
      intro heq
      have hmem := List.mem_map_of_mem (f := Prod.snd) hother
      rw [← heq] at hmem
      exact hdistinct.1 hmem
    · have hbeq : (key == first) = false := beq_false_of_ne fun heq ↦ hkey heq.symm
      rw [List.lookup_cons, hbeq] at hlookup
      have hne : r ≠ old := by
        intro heq
        obtain ⟨before, after, heq', -⟩ := List.lookup_eq_some_iff.1 hlookup
        apply hdistinct.1
        rw [heq', ← heq]
        simp
      rw [Table.insertInto, if_neg hkey]
      refine .cons ⟨rfl, ?_⟩ (ih hlookup hdistinct.2)
      rw [Arena.get?_set_of_ne _ _ hne]
      exact hfirst.2

theorem eq_or_mem_of_mem_insertInto {r r' : Ref Parameter}
    (h : r' ∈ (Table.insertInto key r entries).map Prod.snd) : r' = r ∨ r' ∈ entries.map Prod.snd := by
  obtain ⟨entry, hentry, rfl⟩ := List.mem_map.1 h
  rcases Table.eq_or_mem_of_mem_insertInto hentry with rfl | hold
  · exact .inl rfl
  · exact .inr (List.mem_map_of_mem hold)

theorem nodup_insertInto {r : Ref Parameter} (hr : r ∉ entries.map Prod.snd)
    (hdistinct : (entries.map Prod.snd).Nodup) :
    ((Table.insertInto key r entries).map Prod.snd).Nodup := by
  induction entries with
  | nil => simp [Table.insertInto]
  | cons entry rest ih =>
    obtain ⟨first, old⟩ := entry
    rw [List.map_cons, List.mem_cons, not_or] at hr
    rw [List.map_cons, List.nodup_cons] at hdistinct
    unfold Table.insertInto
    split
    · rw [List.map_cons, List.nodup_cons]
      exact ⟨hr.2, hdistinct.2⟩
    · rw [List.map_cons, List.nodup_cons]
      refine ⟨fun hold ↦ ?_, ih hr.2 hdistinct.2⟩
      rcases eq_or_mem_of_mem_insertInto hold with heq | hmem
      · exact hr.1 heq.symm
      · exact hdistinct.1 hmem

end Entries

theorem perform_find {r : Ref Parameter} {p : Parameter} (hr : s.store.entries.lookup key = some r)
    (hp : s.parameters.get? r = some p) : perform (find key) s = (.ok (r, p), s) := by
  have hget : s.store.get? key = some r := hr
  unfold find
  rw [perform_bind_of_ok (perform_get s), hget]
  dsimp only
  rw [hp]
  rfl

namespace Holds

theorem empty (parameters : Arena Parameter) : Holds { parameters, store := {} } [] :=
  ⟨.nil, List.nodup_nil⟩

theorem keys (h : s.Holds held) : s.store.keys = held.map Prod.fst :=
  Refer.keys h.entries

theorem nodup_keys (h : s.Holds held) : (held.map Prod.fst).Nodup := by
  rw [← h.keys]
  exact s.store.nodup_keys

/-- The list that the settings stand for is what they show. -/
theorem contents_eq (h : s.Holds held) : s.contents = held :=
  Refer.filterMap h.entries

/-- Putting a value never fails, and enters it in the place of its key. -/
theorem put (h : s.Holds held) (key : String) (content : Content) (description : String) :
    ∃ t, perform (Settings.put key (.ok content) description) s = (.ok (), t) ∧
      t.Holds (Table.insertInto key { content, description } held) := by
  refine ⟨_, rfl, ?_⟩
  have hnew := Arena.get?_add_self s.parameters ⟨content, description⟩
  have hgood := Refer.good h.entries
  have hold : Refer (s.parameters.add ⟨content, description⟩).2 s.store.entries held := by
    refine Refer.mono (fun entry hentry ↦ ?_) h.entries
    obtain ⟨p, hp⟩ := hgood entry hentry
    rw [hp]
    exact Arena.get?_add_of_get? _ _ _ hp
  constructor
  · exact hold.insertInto hnew
  · refine nodup_insertInto (fun hmem ↦ ?_) h.distinct
    obtain ⟨entry, hentry, heq⟩ := List.mem_map.1 hmem
    obtain ⟨p, hp⟩ := hgood entry hentry
    exact Arena.add_fst_ne_of_get? hp ⟨content, description⟩ heq.symm

/-- An update by a value of the same type replaces the content and keeps the description. -/
theorem update (h : s.Holds held) {p : Parameter} (hp : held.lookup key = some p) {content : Content}
    (htype : content.type = p.type) :
    ∃ t, perform (Settings.update key (.ok content)) s = (.ok (), t) ∧
      t.Holds (Table.insertInto key { p with content } held) := by
  obtain ⟨r, hr, hread⟩ := Refer.lookup h.entries hp
  have hset := (Parameter.set_eq_ok_iff p _ content).2 ⟨htype, rfl⟩
  refine ⟨{ s with parameters := s.parameters.set r { p with content } }, ?_, ?_, h.distinct⟩
  · unfold Settings.update
    rw [perform_bind_of_ok (perform_find hr hread)]
    dsimp only
    rw [hset]
    rfl
  · exact Refer.set hr h.distinct h.entries

/-- An update by a value of another type is refused and changes nothing. -/
theorem update_of_ne (h : s.Holds held) {p : Parameter} (hp : held.lookup key = some p) {content : Content}
    (htype : content.type ≠ p.type) :
    perform (Settings.update key (.ok content)) s =
      (.error (.parameterStore p.type.name content.type.name), s) := by
  obtain ⟨r, hr, hread⟩ := Refer.lookup h.entries hp
  have hset : p.set (.ok content) = .error (.parameterStore p.type.name content.type.name) := by
    unfold Parameter.set
    exact if_neg htype
  unfold Settings.update
  rw [perform_bind_of_ok (perform_find hr hread)]
  dsimp only
  rw [hset]
  rfl

end Holds

/-! ## Putting -/

/-- The parameters that are to be put, unless one of them has no value that parameters have. -/
def declared (items : List (String × Reading Float Content × String)) :
    Except (Error Float) (List (String × Parameter)) :=
  items.mapM fun (key, content, description) ↦ (fun content ↦ (key, { content, description })) <$> content

/-- Parameters that have been put are held under their keys, each at the place of its first occurrence and as
its last occurrence says. -/
theorem Holds.putAll (h : s.Holds held) {items : List (String × Reading Float Content × String)}
    {pairs : List (String × Parameter)} (hpairs : declared items = .ok pairs) :
    ∃ t, perform (Settings.putAll items) s = (.ok (), t) ∧
      t.Holds (pairs.foldl (fun held (key, p) ↦ Table.insertInto key p held) held) := by
  have hread := Reading.mapM_eq_ok_iff.1 hpairs
  clear hpairs
  induction hread generalizing s held with
  | nil => exact ⟨s, rfl, h⟩
  | @cons item pair rest others hfirst _ ih =>
    obtain ⟨key, content, description⟩ := item
    obtain ⟨value, rfl, rfl⟩ := Reading.map_eq_ok_iff.1 hfirst
    obtain ⟨u, hu, hheld⟩ := h.put key value description
    obtain ⟨t, ht, hrest⟩ := ih hheld
    exact ⟨t, (perform_bind_of_ok hu _).trans ht, hrest⟩

/-- Putting parameters fails if one of them has no value that parameters have. -/
theorem putAll_of_error {items : List (String × Reading Float Content × String)} {e : Error Float}
    (h : declared items = .error e) (s : Settings) :
    ∃ t, perform (Settings.putAll items) s = (.error e, t) := by
  induction items generalizing s with
  | nil => cases h
  | cons item rest ih =>
    obtain ⟨key, content, description⟩ := item
    cases content with
    | error other =>
      obtain rfl : other = e := Except.error.inj h
      exact ⟨s, rfl⟩
    | ok value =>
      have hrest : declared rest = .error e := by
        unfold declared at h ⊢
        rw [List.mapM_cons, Reading.bind_eq_error_iff] at h
        obtain h | ⟨_, -, h⟩ := h
        · cases h
        · obtain h | ⟨_, -, h⟩ := Reading.bind_eq_error_iff.1 h
          · exact h
          · cases h
      obtain ⟨t, ht⟩ := ih hrest _
      exact ⟨t, (perform_bind_of_ok rfl _).trans ht⟩

/-! ## Configuring -/

/-- Why values cannot be given to the parameters that are held, if so: the first value of another type than
the parameter under its key. -/
def misfit? (held : List (String × Parameter)) : List (String × Content) → Option (Error Float)
  | [] => none
  | (key, content) :: rest =>
    match held.lookup key with
    | some p =>
      if content.type = p.type then misfit? held rest
      else some (.parameterStore p.type.name content.type.name)
    | none => misfit? held rest

/-- A parameter with the value under a key, if there is one. -/
def revalue (values : List (String × Content)) (key : String) (p : Parameter) : Parameter :=
  { p with content := (values.lookup key).getD p.content }

/-- The parameters that are held, each with the value under its key. -/
def revalued (values : List (String × Content)) (held : List (String × Parameter)) :
    List (String × Parameter) :=
  held.map fun item ↦ (item.1, revalue values item.1 item.2)

/-- The values under keys that nothing is held under, as parameters without descriptions. -/
def added (held : List (String × Parameter)) (values : List (String × Content)) :
    List (String × Parameter) :=
  (values.filter fun value ↦ value.1 ∉ held.map Prod.fst).map fun (key, content) ↦ (key, { content })

/-- What is held after values have been given: first what was held before, in its order and with its
descriptions, and then what was added, in the order of the values. -/
def configured (held : List (String × Parameter)) (values : List (String × Content)) :
    List (String × Parameter) :=
  revalued values held ++ added held values

section Configuring

variable {p : Parameter} {content : Content} {rest : List (String × Content)}

theorem misfit?_insertInto (hkey : key ∉ rest.map Prod.fst) :
    misfit? (Table.insertInto key p held) rest = misfit? held rest := by
  induction rest with
  | nil => rfl
  | cons value rest ih =>
    obtain ⟨other, content⟩ := value
    rw [List.map_cons, List.mem_cons, not_or] at hkey
    have hne : other ≠ key := fun heq ↦ hkey.1 heq.symm
    unfold misfit?
    rw [Table.lookup_insertInto_of_ne p held hne, ih hkey.2]

theorem revalue_cons_self : revalue ((key, content) :: rest) key p = { p with content } := by
  unfold revalue
  rw [List.lookup_cons_self, Option.getD_some]

theorem revalue_cons_of_ne {other : String} (h : other ≠ key) :
    revalue ((key, content) :: rest) other p = revalue rest other p := by
  unfold revalue
  rw [List.lookup_cons, beq_false_of_ne h]

theorem revalue_of_not_mem (h : key ∉ rest.map Prod.fst) : revalue rest key p = p := by
  unfold revalue
  rw [Table.lookup_eq_none_of_not_mem h, Option.getD_none]

theorem revalued_cons_of_not_mem (hkey : key ∉ held.map Prod.fst) :
    revalued ((key, content) :: rest) held = revalued rest held := by
  unfold revalued
  apply List.map_congr_left
  intro item hitem
  have hne : item.1 ≠ key := by
    intro heq
    exact hkey (heq ▸ List.mem_map_of_mem hitem)
  rw [revalue_cons_of_ne hne]

theorem added_cons_of_mem (hkey : key ∈ held.map Prod.fst) :
    added held ((key, content) :: rest) = added held rest := by
  unfold added
  rw [List.filter_cons_of_neg]
  simpa using hkey

theorem added_cons_of_not_mem (hkey : key ∉ held.map Prod.fst) :
    added held ((key, content) :: rest) = (key, { content }) :: added held rest := by
  unfold added
  rw [List.filter_cons_of_pos, List.map_cons]
  simpa using hkey

/-- Only the keys of what is held decide what is added. -/
theorem added_congr {others : List (String × Parameter)}
    (hkeys : ∀ value ∈ rest, value.1 ∈ others.map Prod.fst ↔ value.1 ∈ held.map Prod.fst) :
    added others rest = added held rest := by
  unfold added
  congr 1
  apply List.filter_congr
  intro value hvalue
  rw [decide_eq_decide, not_iff_not]
  exact hkeys value hvalue

/-- Giving a new value to one key, and then to the keys of the rest, is giving new values to them all. -/
theorem revalued_insertInto (hkeys : (held.map Prod.fst).Nodup) (hkey : key ∉ rest.map Prod.fst)
    (hp : held.lookup key = some p) :
    revalued rest (Table.insertInto key { p with content } held) =
      revalued ((key, content) :: rest) held := by
  induction held with
  | nil => cases hp
  | cons item tail ih =>
    obtain ⟨other, q⟩ := item
    rw [List.map_cons, List.nodup_cons] at hkeys
    unfold Table.insertInto
    split
    · rename_i hother
      obtain rfl : other = key := hother
      rw [List.lookup_cons_self] at hp
      obtain rfl : q = p := Option.some.inj hp
      calc
        revalued rest ((other, { q with content }) :: tail) =
            (other, revalue rest other { q with content }) :: revalued rest tail := rfl
        _ = (other, { q with content }) :: revalued ((other, content) :: rest) tail := by
          rw [revalue_of_not_mem hkey, revalued_cons_of_not_mem hkeys.1]
        _ = (other, revalue ((other, content) :: rest) other q) ::
            revalued ((other, content) :: rest) tail := by
          rw [revalue_cons_self]
    · rename_i hother
      rw [List.lookup_cons, beq_false_of_ne fun heq ↦ hother heq.symm] at hp
      calc
        revalued rest ((other, q) :: Table.insertInto key { p with content } tail) =
            (other, revalue rest other q) ::
              revalued rest (Table.insertInto key { p with content } tail) := rfl
        _ = (other, revalue ((key, content) :: rest) other q) :: revalued ((key, content) :: rest) tail := by
          rw [ih hkeys.2 hp, revalue_cons_of_ne hother]

theorem configured_of_some (hkeys : (held.map Prod.fst).Nodup) (hkey : key ∉ rest.map Prod.fst)
    (hp : held.lookup key = some p) :
    configured (Table.insertInto key { p with content } held) rest =
      configured held ((key, content) :: rest) := by
  have hmem := Table.mem_of_lookup_eq_some hp
  have hsame : (Table.insertInto key { p with content } held).map Prod.fst = held.map Prod.fst := by
    rw [Table.map_fst_insertInto, if_pos hmem]
  unfold configured
  rw [revalued_insertInto hkeys hkey hp, added_cons_of_mem hmem]
  congr 1
  apply added_congr
  intro value _
  rw [hsame]

theorem configured_of_not_mem (hkey : key ∉ rest.map Prod.fst) (hheld : key ∉ held.map Prod.fst) :
    configured (Table.insertInto key ⟨content, ""⟩ held) rest = configured held ((key, content) :: rest) := by
  have hadded : added (held ++ [(key, ⟨content, ""⟩)]) rest = added held rest := by
    apply added_congr
    intro value hvalue
    have hne : value.1 ≠ key := by
      intro heq
      exact hkey (heq ▸ List.mem_map_of_mem hvalue)
    simp [hne]
  calc
    configured (Table.insertInto key ⟨content, ""⟩ held) rest =
        revalued rest (held ++ [(key, ⟨content, ""⟩)]) ++ added (held ++ [(key, ⟨content, ""⟩)]) rest := by
      rw [Table.insertInto_of_not_mem hheld]
      rfl
    _ = (revalued rest held ++ [(key, revalue rest key ⟨content, ""⟩)]) ++ added held rest := by
      rw [hadded]
      unfold revalued
      rw [List.map_append]
      rfl
    _ = revalued ((key, content) :: rest) held ++ ((key, ⟨content, ""⟩) :: added held rest) := by
      rw [revalue_of_not_mem hkey, revalued_cons_of_not_mem hheld, List.append_assoc]
      rfl
    _ = configured held ((key, content) :: rest) := by
      rw [← added_cons_of_not_mem hheld]
      rfl

theorem configure_cons_of_contains (h : s.store.contains key = true) :
    perform (Settings.configure ((key, content) :: rest)) s =
      perform (Settings.update key (.ok content) >>= fun _ ↦ Settings.configure rest) s := by
  change perform ((get >>= fun s : Settings ↦ if s.store.contains key then Settings.update key (.ok content)
    else Settings.put key (.ok content) "") >>= fun _ ↦ Settings.configure rest) s = _
  rw [perform_bind, perform_bind_of_ok (perform_get s), if_pos h, perform_bind]

theorem configure_cons_of_not_contains (h : s.store.contains key = false) :
    perform (Settings.configure ((key, content) :: rest)) s =
      perform (Settings.put key (.ok content) "" >>= fun _ ↦ Settings.configure rest) s := by
  change perform ((get >>= fun s : Settings ↦ if s.store.contains key then Settings.update key (.ok content)
    else Settings.put key (.ok content) "") >>= fun _ ↦ Settings.configure rest) s = _
  rw [perform_bind, perform_bind_of_ok (perform_get s), h, if_neg Bool.false_ne_true, perform_bind]

theorem Holds.contains (h : s.Holds held) : s.store.contains key = decide (key ∈ held.map Prod.fst) := by
  unfold Table.contains
  rw [h.keys, List.contains_eq_mem]

end Configuring

/-- Values are given one after the other until one does not fit. If all of them fit, the settings hold what
was to be configured. -/
theorem Holds.configure (h : s.Holds held) {values : List (String × Content)}
    (hkeys : (values.map Prod.fst).Nodup) :
    match misfit? held values with
    | some e => ∃ t, perform (Settings.configure values) s = (.error e, t)
    | none => ∃ t, perform (Settings.configure values) s = (.ok (), t) ∧ t.Holds (configured held values) := by
  induction values generalizing s held with
  | nil => exact ⟨s, rfl, by simpa [configured, revalued, added, revalue] using h⟩
  | cons value rest ih =>
    obtain ⟨key, content⟩ := value
    rw [List.map_cons, List.nodup_cons] at hkeys
    unfold misfit?
    cases hp : held.lookup key with
    | none =>
      have hmem : key ∉ held.map Prod.fst := by
        intro hmem
        obtain ⟨item, hitem, rfl⟩ := List.mem_map.1 hmem
        have hne := List.lookup_eq_none_iff.1 hp item hitem
        exact bne_iff_ne.1 hne rfl
      obtain ⟨u, hu, hheld⟩ := h.put key content ""
      rw [configure_cons_of_not_contains (by rw [h.contains, decide_eq_false hmem]), perform_bind_of_ok hu,
        ← configured_of_not_mem hkeys.1 hmem, ← misfit?_insertInto hkeys.1]
      exact ih hheld hkeys.2
    | some p =>
      have hmem := Table.mem_of_lookup_eq_some hp
      rw [configure_cons_of_contains (by rw [h.contains, decide_eq_true hmem])]
      dsimp only
      by_cases htype : content.type = p.type
      · obtain ⟨u, hu, hheld⟩ := h.update hp htype
        rw [if_pos htype, perform_bind_of_ok hu, ← configured_of_some h.nodup_keys hkeys.1 hp,
          ← misfit?_insertInto hkeys.1]
        exact ih hheld hkeys.2
      · rw [if_neg htype]
        exact ⟨s, perform_bind_of_error (h.update_of_ne hp htype) _⟩

/-- Values that have been given without a failure fit, and are held. -/
theorem Holds.of_configure (h : s.Holds held) {values : List (String × Content)}
    (hkeys : (values.map Prod.fst).Nodup) (hok : perform (Settings.configure values) s = (.ok (), t)) :
    misfit? held values = none ∧ t.Holds (configured held values) := by
  have hfits := h.configure hkeys
  cases hmisfit : misfit? held values with
  | some e =>
    rw [hmisfit] at hfits
    obtain ⟨_, hfails⟩ := hfits
    cases hok.symm.trans hfails
  | none =>
    rw [hmisfit] at hfits
    obtain ⟨u, hu, hheld⟩ := hfits
    cases hok.symm.trans hu
    exact ⟨rfl, hheld⟩

end Settings

end Extremum
