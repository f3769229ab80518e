import Extremum.Proofs.Settings
import Mathlib.Data.List.Dedup

/-!
# Histories of settings

What is stored in which parameter is noted down, and which parameter is put under which key, the latest note
first. The notes account for the settings: the value of a parameter is the one that was stored last, the entry
under a key is the parameter that was put there last, and the keys are in the order in which they first came. Main
statements: each change of settings adds its notes and keeps this, and none gives a parameter another type or takes
it away (`Accounts.assignAll` and those around it).
-/

namespace Extremum

theorem Parameter.exists_of_set_eq_ok {p q : Parameter} {content : Reading Float Content}
    (h : p.set content = .ok q) :
    ∃ value, content = .ok value ∧ value.type = p.type ∧ q = { p with content := value } := by
  cases content with
  | error e => cases h
  | ok value => exact ⟨value, rfl, (set_eq_ok_iff p q value).1 h⟩

/-- What was stored in which parameter, and which parameter was put under which key, the latest first. -/
structure History where
  stored : List (Ref Parameter × Content) := []
  entered : List (String × Ref Parameter) := []

namespace History

/-- The note that a value was stored in a parameter. -/
def store (h : History) (r : Ref Parameter) (content : Content) : History :=
  { h with stored := (r, content) :: h.stored }

/-- The note that a parameter was put under a key. -/
def enter (h : History) (key : String) (r : Ref Parameter) : History :=
  { h with entered := (key, r) :: h.entered }

/-- The note on what was to be put under a key: nothing is noted of what is no parameter. -/
def assign (h : History) (key : String) : Given (Ref Parameter) → History
  | .ok r => h.enter key r
  | .error _ => h

/-- The notes on what was to be put under keys one after the other, up to the first that is no parameter. -/
def assignAll (h : History) : List (String × Given (Ref Parameter)) → History
  | [] => h
  | (key, .ok r) :: rest => (h.enter key r).assignAll rest
  | (_, .error _) :: _ => h

/-- The note on a value that was handed to a parameter: nothing is noted unless it was taken. -/
def hand (h : History) (answer : Except (Error Float) Unit) (r : Option (Ref Parameter))
    (content : Reading Float Content) : History :=
  match answer, r, content with
  | .ok _, some r, .ok content => h.store r content
  | _, _, _ => h

def keys (h : History) : List String :=
  (h.entered.map Prod.fst).dedup.reverse

def under? (h : History) (key : String) : Option (Ref Parameter) :=
  h.entered.lookup key

/-- The note on what was to be put under a key unless there was something. -/
def assignIfAbsent (h : History) (key : String) (item : Given (Ref Parameter)) : History :=
  if (h.under? key).isSome then h else h.assign key item

/-- The value that was last stored in a parameter; what nothing was stored in is as it was at the beginning. -/
def content? (h : History) (origin : Arena Parameter) (r : Ref Parameter) : Option Content :=
  (h.stored.lookup r).or ((origin.get? r).map (·.content))

variable {h : History} {origin : Arena Parameter} {key other : String} {r r' : Ref Parameter} {content : Content}

theorem content?_store_self : (h.store r content).content? origin r = some content := by
  unfold content? store
  rw [List.lookup_cons_self, Option.some_or]

theorem content?_store_of_ne (hne : r' ≠ r) : (h.store r content).content? origin r' = h.content? origin r' := by
  unfold content? store
  rw [List.lookup_cons, beq_false_of_ne hne]

theorem under?_enter_self : (h.enter key r).under? key = some r :=
  List.lookup_cons_self

theorem under?_enter_of_ne (hne : other ≠ key) : (h.enter key r).under? other = h.under? other := by
  unfold under? enter
  rw [List.lookup_cons, beq_false_of_ne hne]

theorem keys_enter : (h.enter key r).keys = if key ∈ h.keys then h.keys else h.keys ++ [key] := by
  unfold keys enter
  rw [List.map_cons]
  by_cases hkey : key ∈ h.entered.map Prod.fst
  · have hlisted : key ∈ (h.entered.map Prod.fst).dedup.reverse := List.mem_reverse.2 (List.mem_dedup.2 hkey)
    rw [List.dedup_cons_of_mem hkey, if_pos hlisted]
  · have hunlisted : key ∉ (h.entered.map Prod.fst).dedup.reverse :=
      fun hlisted ↦ hkey (List.mem_dedup.1 (List.mem_reverse.1 hlisted))
    rw [List.dedup_cons_of_notMem hkey, if_neg hunlisted, List.reverse_cons]

end History

/-! ## Parameters that stay -/

/-- Parameters that are there stay, with their types and descriptions. -/
def Retains (before after : Arena Parameter) : Prop :=
  ∀ r p, before.get? r = some p → ∃ q, after.get? r = some q ∧ q.type = p.type ∧ q.description = p.description

namespace Retains

variable {a b c : Arena Parameter}

theorem refl (a : Arena Parameter) : Retains a a :=
  fun _ p hp ↦ ⟨p, hp, rfl, rfl⟩

theorem trans (hab : Retains a b) (hbc : Retains b c) : Retains a c := by
  intro r p hp
  obtain ⟨q, hq, htype, hdescription⟩ := hab r p hp
  obtain ⟨q', hq', htype', hdescription'⟩ := hbc r q hq
  exact ⟨q', hq', htype'.trans htype, hdescription'.trans hdescription⟩

theorem add (a : Arena Parameter) (p : Parameter) : Retains a (a.add p).2 :=
  fun _ q hq ↦ ⟨q, Arena.get?_add_of_get? a p q hq, rfl, rfl⟩

theorem set {r : Ref Parameter} {p : Parameter} (hp : a.get? r = some p) {content : Content}
    (htype : content.type = p.type) : Retains a (a.set r { p with content }) := by
  intro r' q hq
  by_cases hr : r = r'
  · subst hr
    obtain rfl : p = q := Option.some.inj (hp.symm.trans hq)
    exact ⟨_, Arena.get?_set_self a _ p hp, htype, rfl⟩
  · exact ⟨q, (Arena.get?_set_of_ne a _ hr).trans hq, rfl, rfl⟩

end Retains

/-! ## Notes that account for settings -/

namespace Settings

/-- The notes say what the settings are, given the parameters that there were at the beginning. -/
structure Accounts (origin : Arena Parameter) (h : History) (t : Settings) : Prop where
  content? : ∀ r, (t.parameters.get? r).map (·.content) = h.content? origin r
  under? : ∀ key, t.store.get? key = h.under? key
  keys : t.store.keys = h.keys
  /-- Every entry refers to a parameter. -/
  live : ∀ key r, t.store.get? key = some r → ∃ p, t.parameters.get? r = some p

variable {origin : Arena Parameter} {h : History} {t : Settings} {key : String} {r : Ref Parameter} {p : Parameter}

namespace Accounts

theorem start (origin : Arena Parameter) : Accounts origin {} ⟨origin, {}⟩ where
  content? _ := rfl
  under? _ := rfl
  keys := rfl
  live _ _ hr := by cases hr

theorem contains_iff (hacc : Accounts origin h t) :
    t.store.contains key = true ↔ (h.under? key).isSome = true := by
  unfold Table.contains
  rw [List.contains_iff_mem, ← hacc.under? key, Option.isSome_iff_exists]
  constructor
  · intro hkey
    cases hr : t.store.get? key with
    | some r => exact ⟨r, rfl⟩
    | none =>
      obtain ⟨entry, hentry, rfl⟩ := List.mem_map.1 hkey
      exact absurd rfl (bne_iff_ne.1 (List.lookup_eq_none_iff.1 hr entry hentry))
  · rintro ⟨r, hr⟩
    exact Table.mem_of_lookup_eq_some hr

theorem add (hacc : Accounts origin h t) (p : Parameter) :
    Accounts origin (h.store (t.parameters.add p).1 p.content)
      { t with parameters := (t.parameters.add p).2 } where
  content? r := by
    by_cases hr : r = (t.parameters.add p).1
    · rw [hr, History.content?_store_self, Arena.get?_add_self, Option.map_some]
    · rw [History.content?_store_of_ne hr, ← hacc.content? r]
      cases hq : t.parameters.get? r with
      | some q => rw [Arena.get?_add_of_get? _ _ _ hq]
      | none =>
        cases hq' : (t.parameters.add p).2.get? r with
        | none => rfl
        | some q =>
          obtain hold | ⟨hnew, -⟩ := Arena.get?_add_eq_some hq'
          · rw [hq] at hold
            cases hold
          · exact absurd hnew hr
  under? := hacc.under?
  keys := hacc.keys
  live key r hr := by
    obtain ⟨q, hq⟩ := hacc.live key r hr
    exact ⟨q, Arena.get?_add_of_get? _ _ _ hq⟩

theorem set (hacc : Accounts origin h t) (hp : t.parameters.get? r = some p) (content : Content) :
    Accounts origin (h.store r content)
      { t with parameters := t.parameters.set r { p with content } } where
  content? r' := by
    by_cases hr : r' = r
    · rw [hr, History.content?_store_self, Arena.get?_set_self _ _ _ hp, Option.map_some]
    · rw [History.content?_store_of_ne hr, ← hacc.content? r', Arena.get?_set_of_ne _ _ (Ne.symm hr)]
  under? := hacc.under?
  keys := hacc.keys
  live key r' hr' := by
    obtain ⟨q, hq⟩ := hacc.live key r' hr'
    by_cases hr : r = r'
    · subst hr
      exact ⟨_, Arena.get?_set_self _ _ _ hp⟩
    · exact ⟨q, (Arena.get?_set_of_ne _ _ hr).trans hq⟩

theorem insert (hacc : Accounts origin h t) (key : String) (hp : t.parameters.get? r = some p) :
    Accounts origin (h.enter key r) { t with store := t.store.insert key r } where
  content? := hacc.content?
  under? other := by
    by_cases hother : other = key
    · rw [hother, History.under?_enter_self, Table.get?_insert_self]
    · rw [History.under?_enter_of_ne hother, Table.get?_insert_of_ne _ _ hother, hacc.under? other]
  keys := by rw [History.keys_enter, Table.keys_insert, hacc.keys]
  live other r' hr' := by
    by_cases hother : other = key
    · rw [hother, Table.get?_insert_self] at hr'
      cases hr'
      exact ⟨p, hp⟩
    · rw [Table.get?_insert_of_ne _ _ hother] at hr'
      exact hacc.live other r' hr'

end Accounts

/-! ## Changes -/

/-- What settings are like after a change: the notes still account for them, and all parameters stayed. -/
structure Follows (origin : Arena Parameter) (h : History) (before t : Settings) : Prop where
  accounts : Accounts origin h t
  retains : Retains before.parameters t.parameters

namespace Accounts

theorem follows (hacc : Accounts origin h t) : Follows origin h t t :=
  ⟨hacc, .refl t.parameters⟩

theorem assign (hacc : Accounts origin h t) (key : String) {item : Given (Ref Parameter)}
    (hitem : ∀ r, item = .ok r → ∃ p, t.parameters.get? r = some p) :
    Follows origin (h.assign key item) t (perform (Settings.assign key item) t).2 := by
  cases item with
  | error given => exact hacc.follows
  | ok r =>
    obtain ⟨p, hp⟩ := hitem r rfl
    exact ⟨hacc.insert key hp, .refl t.parameters⟩

theorem assignIfAbsent (hacc : Accounts origin h t) (key : String) {item : Given (Ref Parameter)}
    (hitem : ∀ r, item = .ok r → ∃ p, t.parameters.get? r = some p) :
    Follows origin (h.assignIfAbsent key item) t (perform (Settings.assignIfAbsent key item) t).2 := by
  unfold Settings.assignIfAbsent History.assignIfAbsent
  rw [perform_bind_of_ok (perform_get t)]
  by_cases hkey : t.store.contains key = true
  · rw [if_pos hkey, if_pos (hacc.contains_iff.1 hkey)]
    exact hacc.follows
  · rw [if_neg hkey, if_neg fun hentry ↦ hkey (hacc.contains_iff.2 hentry)]
    exact hacc.assign key hitem

theorem assignEach {items : List (String × Given (Ref Parameter))} (hacc : Accounts origin h t)
    (hitems : ∀ item ∈ items, ∀ r, item.2 = .ok r → ∃ p, t.parameters.get? r = some p) :
    Follows origin (h.assignAll items) t (perform (do
      for (key, item) in items do
        Settings.assign key item) t).2 := by
  induction items generalizing h t with
  | nil => exact hacc.follows
  | cons entry rest ih =>
    obtain ⟨key, item⟩ := entry
    cases item with
    | error given => exact hacc.follows
    | ok r =>
      obtain ⟨hfirst, hrest⟩ := List.forall_mem_cons.1 hitems
      obtain ⟨p, hp⟩ := hfirst r rfl
      have hstep : perform (do
          for (key, item) in (key, .ok r) :: rest do
            Settings.assign key item) t = perform (do
          for (key, item) in rest do
            Settings.assign key item) { t with store := t.store.insert key r } := by
        simp only [List.forIn_cons, bind_assoc]
        rfl
      rw [hstep]
      have hfollows := ih (hacc.insert key hp) hrest
      exact ⟨hfollows.accounts, hfollows.retains⟩

theorem assignAll {items : List (String × Given (Ref Parameter))} (hacc : Accounts origin h t)
    (hitems : ∀ item ∈ items, ∀ r, item.2 = .ok r → ∃ p, t.parameters.get? r = some p) :
    Follows origin (h.assignAll (Table.ofPairs items).entries) t (perform (Settings.assignAll (.ok items)) t).2 :=
  hacc.assignEach fun item hitem ↦ hitems item (Table.mem_of_mem_ofPairs hitem)

theorem put (hacc : Accounts origin h t) (key : String) (content : Content) (description : String) :
    Follows origin ((h.store ⟨t.parameters.size⟩ content).enter key ⟨t.parameters.size⟩) t
      (perform (Settings.put key (.ok content) description) t).2 :=
  ⟨(hacc.add ⟨content, description⟩).insert key (Arena.get?_add_self t.parameters ⟨content, description⟩),
    .add t.parameters ⟨content, description⟩⟩

end Accounts

/-- A parameter is found under its key and handed a value. -/
theorem perform_update (hr : t.store.get? key = some r) (hp : t.parameters.get? r = some p)
    (content : Reading Float Content) : perform (Settings.update key content) t = match p.set content with
      | .ok q => (.ok (), { t with parameters := t.parameters.set r q })
      | .error e => (.error e, t) := by
  unfold Settings.update
  rw [perform_bind_of_ok (perform_find hr hp)]
  dsimp only
  cases p.set content <;> rfl

theorem perform_find_of_none (hr : t.store.get? key = none) :
    perform (find key) t = (.error (.keyNotFound key), t) := by
  unfold find
  rw [perform_bind_of_ok (perform_get t), hr]
  rfl

theorem perform_update_of_none (hr : t.store.get? key = none) (content : Reading Float Content) :
    perform (Settings.update key content) t = (.error (.keyNotFound key), t) :=
  perform_bind_of_error (perform_find_of_none hr) _

theorem perform_value_of_none (hr : t.store.get? key = none) (requested : Reading Float ParameterType) :
    perform (Settings.value key requested) t = (.error (.keyNotFound key), t) :=
  perform_bind_of_error (perform_find_of_none hr) _

/-- A parameter is found under its key and asked for its value. -/
theorem perform_value (hr : t.store.get? key = some r) (hp : t.parameters.get? r = some p)
    (requested : Reading Float ParameterType) :
    perform (Settings.value key requested) t = (p.get requested, t) := by
  unfold Settings.value
  rw [perform_bind_of_ok (perform_find hr hp)]
  dsimp only
  cases p.get requested <;> rfl

theorem Accounts.hand (hacc : Accounts origin h t) (hp : t.parameters.get? r = some p)
    {content : Reading Float Content} {q : Parameter} (hset : p.set content = .ok q) :
    Follows origin (h.hand (.ok ()) (some r) content) t { t with parameters := t.parameters.set r q } := by
  obtain ⟨value, rfl, htype, rfl⟩ := Parameter.exists_of_set_eq_ok hset
  exact ⟨hacc.set hp value, .set hp htype⟩

theorem Accounts.update (hacc : Accounts origin h t) (key : String) (content : Reading Float Content) :
    Follows origin (h.hand (perform (Settings.update key content) t).1 (h.under? key) content) t
      (perform (Settings.update key content) t).2 := by
  rw [← hacc.under? key]
  cases hr : t.store.get? key with
  | none =>
    rw [perform_update_of_none hr]
    exact hacc.follows
  | some r =>
    obtain ⟨p, hp⟩ := hacc.live key r hr
    rw [perform_update hr hp]
    cases hset : p.set content with
    | error e => exact hacc.follows
    | ok q => exact hacc.hand hp hset

end Settings

end Extremum
