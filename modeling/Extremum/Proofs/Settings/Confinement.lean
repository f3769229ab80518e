import Extremum.Proofs.Settings.History

/-!
# What changes of settings leave alone

Several stores may live side by side over the same parameters. A change of one store gives values to its own
parameters only and otherwise adds new ones, so the settings of the others stay what they are (`Confined`). And it
goes by nothing but the parameters that the store holds: wherever these live, the change answers the same, and what
is held afterwards is the same (`Blind`).
-/

namespace Extremum

theorem Arena.get?_add_fst {β : Type} (a : Arena β) (item : β) : a.get? (a.add item).1 = none := by
  simp [add, get?]

/-- The vector that a parameter holds with one entry replaced, for those who ask for a vector. -/
def Parameter.withEntry (p : Parameter) (requested : Reading Float ParameterType) (index : Int)
    (entry : Reading Float Float) : Reading Float Content := do
  match (← p.get requested) with
  | .vector entries => return .vector (← Vec.setEntry entries index entry)
  | _ => throw (.unfit .type)

namespace Settings

variable {β : Type} {s t u : Settings} {key : String} {r : Ref Parameter} {p q : Parameter}
  {held : List (String × Parameter)}

/-- The parameters that the entries refer to. -/
def refs (store : Store) : List (Ref Parameter) :=
  store.entries.map Prod.snd

theorem mem_refs_of_get? (h : s.store.get? key = some r) : r ∈ refs s.store := by
  obtain ⟨before, after, hentries, -⟩ := List.lookup_eq_some_iff.1 h
  unfold refs
  simp [hentries]

/-! ## Confinement -/

/-- Only parameters that the store refers to have got other values, and the store has come to refer to new
parameters only. -/
structure Confined (s t : Settings) : Prop where
  others : ∀ r p, r ∉ refs s.store → s.parameters.get? r = some p → t.parameters.get? r = some p
  live : ∀ r p, s.parameters.get? r = some p → ∃ q, t.parameters.get? r = some q
  refs : ∀ r ∈ refs t.store, r ∈ refs s.store ∨ s.parameters.get? r = none

namespace Confined

theorem refl (s : Settings) : Confined s s :=
  ⟨fun _ _ _ h ↦ h, fun _ p h ↦ ⟨p, h⟩, fun _ h ↦ .inl h⟩

theorem trans (hst : Confined s t) (htu : Confined t u) : Confined s u where
  others r p hr hp := by
    apply htu.others r p _ (hst.others r p hr hp)
    intro hmem
    cases hst.refs r hmem with
    | inl hold => exact hr hold
    | inr hnone => cases hnone.symm.trans hp
  live r p hp := by
    obtain ⟨q, hq⟩ := hst.live r p hp
    exact htu.live r q hq
  refs r hr := by
    cases htu.refs r hr with
    | inl hmem => exact hst.refs r hmem
    | inr hnone =>
      right
      rw [Option.eq_none_iff_forall_ne_some]
      intro p hp
      obtain ⟨q, hq⟩ := hst.live r p hp
      cases hnone.symm.trans hq

instance : IsPreorder Settings Confined where
  refl := refl
  trans _ _ _ := trans

/-- The parameters that a change has left behind, under a store that has not been changed. -/
theorem parameters (h : Confined s t) : Confined s { s with parameters := t.parameters } :=
  ⟨h.others, h.live, fun _ hr ↦ .inl hr⟩

/-- Adding a parameter. -/
theorem add (s : Settings) (p : Parameter) : Confined s { s with parameters := (s.parameters.add p).2 } where
  others _ _ _ hq := Arena.get?_add_of_get? _ _ _ hq
  live _ q hq := ⟨q, Arena.get?_add_of_get? _ _ _ hq⟩
  refs _ hr := .inl hr

/-- Adding a parameter, and putting it under a key. -/
theorem put (s : Settings) (key : String) (p : Parameter) : Confined s
    { parameters := (s.parameters.add p).2, store := s.store.insert key (s.parameters.add p).1 } where
  others := (add s p).others
  live := (add s p).live
  refs r hr := by
    cases eq_or_mem_of_mem_insertInto hr with
    | inl hnew =>
      right
      rw [hnew]
      exact Arena.get?_add_fst s.parameters p
    | inr hold => exact .inl hold

/-- Giving a value to the parameter under a key. -/
theorem set (hr : s.store.get? key = some r) (hp : s.parameters.get? r = some p) (q : Parameter) :
    Confined s { s with parameters := s.parameters.set r q } where
  others r' p' hr' hp' := by
    have hne : r ≠ r' := by
      rintro rfl
      exact hr' (mem_refs_of_get? hr)
    exact (Arena.get?_set_of_ne _ _ hne).trans hp'
  live r' p' hp' := by
    by_cases h : r = r'
    · subst h
      exact ⟨q, Arena.get?_set_self _ _ _ hp⟩
    · exact ⟨p', (Arena.get?_set_of_ne _ _ h).trans hp'⟩
  refs _ hr' := .inl hr'

end Confined

/-- Looking for a parameter finds one that the store refers to, or fails; it changes nothing. -/
theorem find_cases (key : String) (s : Settings) :
    (∃ e, perform (find key) s = (.error e, s)) ∨
      ∃ r p, s.store.get? key = some r ∧ s.parameters.get? r = some p ∧ perform (find key) s = (.ok (r, p), s) := by
  cases hr : s.store.get? key with
  | none => exact .inl ⟨_, perform_find_of_none hr⟩
  | some r =>
    cases hp : s.parameters.get? r with
    | some p => exact .inr ⟨r, p, rfl, hp, perform_find hr hp⟩
    | none =>
      left
      unfold find
      rw [perform_bind_of_ok (perform_get s), hr]
      dsimp only
      rw [hp]
      exact ⟨_, rfl⟩

theorem perform_setEntry (hr : s.store.get? key = some r) (hp : s.parameters.get? r = some p)
    (requested : Reading Float ParameterType) (index : Int) (entry : Reading Float Float) :
    perform (setEntry key requested index entry) s = match p.withEntry requested index entry with
      | .ok content => (.ok content, { s with parameters := s.parameters.set r { p with content } })
      | .error e => (.error e, s) := by
  have hchange (changed : Reading Float (List Float)) : perform (do
      let content := Content.vector (← changed)
      modify fun s ↦ { s with parameters := s.parameters.set r { p with content } }
      return content : Change Content) s = match Content.vector <$> changed with
        | .ok content => (.ok content, { s with parameters := s.parameters.set r { p with content } })
        | .error e => (.error e, s) := by
    cases changed <;> rfl
  unfold setEntry Parameter.withEntry
  rw [perform_bind_of_ok (perform_find hr hp)]
  dsimp only
  cases p.get requested with
  | error e => rfl
  | ok content =>
    cases content with
    | vector entries => exact hchange (Vec.setEntry entries index entry)
    | _ => rfl

theorem confined_find_bind {k : Ref Parameter × Parameter → Change β}
    (hk : ∀ s r p, s.store.get? key = some r → s.parameters.get? r = some p →
      Confined s (perform (k (r, p)) s).2) : Keeps Confined (find key >>= k) := by
  intro s
  obtain ⟨e, hfind⟩ | ⟨r, p, hr, hp, hfind⟩ := find_cases key s
  · rw [perform_bind_of_error hfind]
    exact .refl s
  · rw [perform_bind_of_ok hfind]
    exact hk s r p hr hp

theorem confined_put (key : String) (content : Reading Float Content) (description : String) :
    Keeps Confined (put key content description) := by
  intro s
  cases content with
  | error e => exact .refl s
  | ok content => exact .put s key ⟨content, description⟩

theorem confined_value (key : String) (requested : Reading Float ParameterType) :
    Keeps Confined (value key requested) := by
  refine confined_find_bind fun s r p hr hp ↦ ?_
  dsimp only
  cases p.get requested <;> exact .refl s

theorem confined_update (key : String) (content : Reading Float Content) :
    Keeps Confined (update key content) := by
  refine confined_find_bind fun s r p hr hp ↦ ?_
  dsimp only
  cases p.set content with
  | error e => exact .refl s
  | ok q => exact .set hr hp q

theorem confined_setEntry (key : String) (requested : Reading Float ParameterType) (index : Int)
    (entry : Reading Float Float) : Keeps Confined (setEntry key requested index entry) := by
  intro s
  obtain ⟨e, hfind⟩ | ⟨r, p, hr, hp, -⟩ := find_cases key s
  · unfold setEntry
    rw [perform_bind_of_error hfind]
    exact .refl s
  · rw [perform_setEntry hr hp]
    cases p.withEntry requested index entry with
    | error e => exact .refl s
    | ok content => exact .set hr hp { p with content }

theorem confined_putAll (items : List (String × Reading Float Content × String)) : Keeps Confined (putAll items) :=
  Keeps.forM fun (key, content, description) _ ↦ confined_put key content description

theorem confined_configure (values : List (String × Content)) : Keeps Confined (configure values) := by
  refine Keeps.forM fun (key, content) _ ↦ Keeps.bind Keeps.get fun s ↦ ?_
  split
  · exact confined_update key _
  · exact confined_put key _ _

/-! ## What is held decides -/

/-- The answer of a change and what is held afterwards depend on nothing but what is held before. -/
def Blind (c : Change β) : Prop :=
  ∀ held, ∃ answer held', ∀ s, s.Holds held → ∃ t, perform c s = (answer, t) ∧ t.Holds held'

theorem Holds.get?_of_lookup_eq_none (h : s.Holds held) (hnone : held.lookup key = none) :
    s.store.get? key = none := by
  apply Table.lookup_eq_none_of_not_mem
  rw [Refer.keys h.entries]
  intro hmem
  obtain ⟨item, hitem, rfl⟩ := List.mem_map.1 hmem
  exact bne_iff_ne.1 (List.lookup_eq_none_iff.1 hnone item hitem) rfl

/-- Giving a value to the parameter under a key is seen under that key only. -/
theorem Holds.set (h : s.Holds held) (hr : s.store.get? key = some r) (q : Parameter) :
    Holds { s with parameters := s.parameters.set r q } (Table.insertInto key q held) :=
  ⟨Refer.set hr h.distinct h.entries, h.distinct⟩

theorem blind_put (key : String) (content : Reading Float Content) (description : String) :
    Blind (put key content description) := by
  intro held
  cases content with
  | error e => exact ⟨.error e, held, fun s h ↦ ⟨s, rfl, h⟩⟩
  | ok content => exact ⟨.ok (), _, fun s h ↦ h.put key content description⟩

theorem blind_value (key : String) (requested : Reading Float ParameterType) : Blind (value key requested) := by
  intro held
  cases hp : held.lookup key with
  | none =>
    exact ⟨_, held, fun s h ↦ ⟨s, perform_value_of_none (h.get?_of_lookup_eq_none hp) requested, h⟩⟩
  | some p =>
    refine ⟨p.get requested, held, fun s h ↦ ?_⟩
    obtain ⟨r, hr, hread⟩ := Refer.lookup h.entries hp
    exact ⟨s, perform_value hr hread requested, h⟩

theorem blind_update (key : String) (content : Reading Float Content) : Blind (update key content) := by
  intro held
  cases hp : held.lookup key with
  | none =>
    exact ⟨_, held, fun s h ↦ ⟨s, perform_update_of_none (h.get?_of_lookup_eq_none hp) content, h⟩⟩
  | some p =>
    cases hset : p.set content with
    | error e =>
      refine ⟨.error e, held, fun s h ↦ ⟨s, ?_, h⟩⟩
      obtain ⟨r, hr, hread⟩ := Refer.lookup h.entries hp
      rw [perform_update hr hread, hset]
    | ok q =>
      refine ⟨.ok (), Table.insertInto key q held, fun s h ↦ ?_⟩
      obtain ⟨r, hr, hread⟩ := Refer.lookup h.entries hp
      refine ⟨_, ?_, h.set hr q⟩
      rw [perform_update hr hread, hset]

theorem blind_setEntry (key : String) (requested : Reading Float ParameterType) (index : Int)
    (entry : Reading Float Float) : Blind (setEntry key requested index entry) := by
  intro held
  cases hp : held.lookup key with
  | none =>
    refine ⟨.error (.keyNotFound key), held, fun s h ↦ ⟨s, ?_, h⟩⟩
    exact perform_bind_of_error (perform_find_of_none (h.get?_of_lookup_eq_none hp)) _
  | some p =>
    cases hset : p.withEntry requested index entry with
    | error e =>
      refine ⟨.error e, held, fun s h ↦ ⟨s, ?_, h⟩⟩
      obtain ⟨r, hr, hread⟩ := Refer.lookup h.entries hp
      rw [perform_setEntry hr hread, hset]
    | ok content =>
      refine ⟨.ok content, Table.insertInto key { p with content } held, fun s h ↦ ?_⟩
      obtain ⟨r, hr, hread⟩ := Refer.lookup h.entries hp
      refine ⟨_, ?_, h.set hr { p with content }⟩
      rw [perform_setEntry hr hread, hset]

/-- A change of one store leaves what another holds as it is, if the two share no parameter. -/
theorem Holds.of_confined {store : Store} (h : Holds ⟨s.parameters, store⟩ held) (hst : Confined s t)
    (hapart : ∀ r ∈ refs store, r ∉ refs s.store) : Holds ⟨t.parameters, store⟩ held := by
  refine ⟨Refer.mono (fun entry hentry ↦ ?_) h.entries, h.distinct⟩
  obtain ⟨p, hp⟩ := Refer.good h.entries entry hentry
  have hother := hapart entry.2 (List.mem_map_of_mem hentry)
  exact (hst.others entry.2 p hother hp).trans hp.symm

/-- Two stores that share no parameter share none after a change of one of them. -/
theorem Holds.apart_of_confined {store : Store} (h : Holds ⟨s.parameters, store⟩ held) (hst : Confined s t)
    (hapart : ∀ r ∈ refs store, r ∉ refs s.store) : ∀ r ∈ refs store, r ∉ refs t.store := by
  intro r hr hmem
  cases hst.refs r hmem with
  | inl hold => exact hapart r hr hold
  | inr hnone =>
    obtain ⟨entry, hentry, rfl⟩ := List.mem_map.1 hr
    obtain ⟨p, hp⟩ := Refer.good h.entries entry hentry
    cases hnone.symm.trans hp

end Settings

end Extremum
