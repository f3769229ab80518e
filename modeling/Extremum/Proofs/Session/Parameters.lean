import Extremum.Proofs.Session.Equations
import Extremum.Proofs.Settings.History
import Extremum.Value.Parts
import Mathlib.Logic.Relation

/-!
# The discipline of parameters

Parameters are made, put under keys of a store, and handed values, under their keys or past the store; one
parameter may be under several keys. Whatever is called in whatever order, a parameter keeps the type of its first
value. Who asks for the value under a key has to name that type, and gets what was stored last. A value of another
type is refused, and nothing changes. Main statement: `parameters_disciplined`.
-/

namespace Extremum

/-! ## Calls -/

/-- What is called on a store and on parameters. -/
inductive StoreCall
  /-- A parameter is made that is under no key yet. -/
  | create (v : Value) (description : String)
  /-- A parameter is made and put under a key. -/
  | put (key : String) (v : Value) (description : String)
  /-- A value is put under a key. -/
  | assign (key : String) (item : Value)
  /-- The items of a mapping, or of a list of pairs, are put under their keys. -/
  | assignAll (items : Reading Float (List (String × Value)))
  /-- A value is put under a key unless there is something. -/
  | assignIfAbsent (key : String) (item : Value)
  /-- The parameter under a key is handed a value. -/
  | update (key : String) (v : Value)
  /-- A parameter is handed a value past all stores. -/
  | set (r : Ref Parameter) (v : Value)

/-- A value that is a parameter is one of those that there are. -/
def Value.Known (s : Session) (v : Value) : Prop :=
  ∀ r, v.entryPart s = .ok r → ∃ p, s.parameters.get? r = some p

namespace StoreCall

open Session

/-- What a call does to the store at a place. -/
def run (place : StorePlace) (c : StoreCall) : Run Unit := do
  let s ← get
  match c with
  | create v description => discard (addParameter (v.contentPart s) description)
  | put key v description => changeStore place (Settings.put key (v.contentPart s) description)
  | assign key item => changeStore place (Settings.assign key (item.entryPart s))
  | assignAll items => changeStore place (Settings.assignAll (Value.storeItems s items))
  | assignIfAbsent key item => changeStore place (Settings.assignIfAbsent key (item.entryPart s))
  | update key v => changeStore place (Settings.update key (v.contentPart s))
  | set r v => setParameter r (v.contentPart s)

/-- What is noted down of a call, given what it answered. A new parameter comes after all others. -/
def note (s : Session) (answer : Except (Error Float) Unit) (h : History) : StoreCall → History
  | create v _ => match v.contentPart s with
    | .ok content => h.store ⟨s.parameters.size⟩ content
    | .error _ => h
  | put key v _ => match v.contentPart s with
    | .ok content => (h.store ⟨s.parameters.size⟩ content).enter key ⟨s.parameters.size⟩
    | .error _ => h
  | assign key item => h.assign key (item.entryPart s)
  | assignAll items => match Value.storeItems s items with
    | .ok items => h.assignAll (Table.ofPairs items).entries
    | .error _ => h
  | assignIfAbsent key item => h.assignIfAbsent key (item.entryPart s)
  | update key v => h.hand answer (h.under? key) (v.contentPart s)
  | set r v => h.hand answer (some r) (v.contentPart s)

/-- Whoever hands over a parameter has one. -/
def Known (s : Session) : StoreCall → Prop
  | assign _ item | assignIfAbsent _ item => item.Known s
  | assignAll items => ∀ pairs, items = .ok pairs → ∀ pair ∈ pairs, pair.2.Known s
  | _ => True

end StoreCall

namespace Session

open Settings (Accounts Follows)

variable {s t : Session} {place : StorePlace} {store : Store} {origin : Arena Parameter} {h : History}

/-- The notes account for the store at a place. -/
def Serves (origin : Arena Parameter) (h : History) (place : StorePlace) (s : Session) : Prop :=
  ∃ store, s.storeAt? place = some store ∧ Accounts origin h ⟨s.parameters, store⟩

theorem serves_changeStore (hstore : s.storeAt? place = some store) {c : Settings.Change Unit}
    (hfollows : Follows origin h ⟨s.parameters, store⟩ (perform c ⟨s.parameters, store⟩).2) :
    Serves origin h place (perform (changeStore place c) s).2 ∧
      Retains s.parameters (perform (changeStore place c) s).2.parameters := by
  obtain ⟨t, ht, htstore, hparameters, -⟩ := exists_perform_changeStore hstore (c := c) rfl
  rw [ht]
  dsimp only
  refine ⟨⟨_, htstore, ?_⟩, ?_⟩
  · rw [hparameters]
    exact hfollows.accounts
  · rw [hparameters]
    exact hfollows.retains

/-- Every call adds its notes, and takes no parameter away. -/
theorem serves_call (hserves : Serves origin h place s) (c : StoreCall) (hknown : c.Known s) :
    Serves origin (c.note s (perform (c.run place) s).1 h) place (perform (c.run place) s).2 ∧
      Retains s.parameters (perform (c.run place) s).2.parameters := by
  obtain ⟨store, hstore, hacc⟩ := hserves
  unfold StoreCall.run
  rw [perform_bind_of_ok (perform_get s)]
  cases c with
  | create v description =>
    dsimp only [StoreCall.note]
    cases v.contentPart s with
    | error e => exact ⟨⟨store, hstore, hacc⟩, .refl s.parameters⟩
    | ok content =>
      refine ⟨⟨store, ?_, ?_⟩, .add s.parameters ⟨content, description⟩⟩
      · exact (storeAt?_of_parameters s place _).trans hstore
      · exact hacc.add ⟨content, description⟩
  | put key v description =>
    dsimp only [StoreCall.note]
    cases v.contentPart s with
    | error e => exact serves_changeStore hstore hacc.follows
    | ok content => exact serves_changeStore hstore (hacc.put key content description)
  | assign key item => exact serves_changeStore hstore (hacc.assign key hknown)
  | assignAll items =>
    dsimp only [StoreCall.note]
    cases items with
    | error e => exact serves_changeStore hstore hacc.follows
    | ok pairs =>
      refine serves_changeStore hstore (hacc.assignAll fun item hitem r hr ↦ ?_)
      obtain ⟨pair, hpair, rfl⟩ := List.mem_map.1 hitem
      exact hknown pairs rfl pair hpair r hr
  | assignIfAbsent key item => exact serves_changeStore hstore (hacc.assignIfAbsent key hknown)
  | update key v =>
    -- What is noted depends on the answer, which the session passes on as it is.
    obtain ⟨t, ht, -⟩ := exists_perform_changeStore hstore (c := Settings.update key (v.contentPart s)) rfl
    have hfollows := hacc.update key (v.contentPart s)
    have hanswer := congrArg Prod.fst ht
    dsimp only [StoreCall.note] at hanswer ⊢
    rw [hanswer]
    exact serves_changeStore hstore hfollows
  | set r v =>
    dsimp only [StoreCall.note]
    cases hp : s.parameters.get? r with
    | none =>
      rw [perform_setParameter_of_none hp]
      exact ⟨⟨store, hstore, hacc⟩, .refl s.parameters⟩
    | some p =>
      rw [perform_setParameter hp]
      cases hset : p.set (v.contentPart s) with
      | error e => exact ⟨⟨store, hstore, hacc⟩, .refl s.parameters⟩
      | ok q =>
        have hfollows := hacc.hand hp hset
        exact ⟨⟨store, (storeAt?_of_parameters s place _).trans hstore, hfollows.accounts⟩, hfollows.retains⟩

/-! ## Runs -/

/-- One call, with what is noted down of it. -/
inductive StoreStep (place : StorePlace) : History × Session → History × Session → Prop
  | call (h : History) (s : Session) (c : StoreCall) (known : c.Known s) :
    StoreStep place (h, s) (c.note s (perform (c.run place) s).1 h, (perform (c.run place) s).2)

/-- Calls one after the other, those that fail included. -/
abbrev StoreRun (place : StorePlace) : History × Session → History × Session → Prop :=
  Relation.ReflTransGen (StoreStep place)

theorem serves_run {a b : History × Session} (hserves : Serves origin a.1 place a.2) (hrun : StoreRun place a b) :
    Serves origin b.1 place b.2 ∧ Retains a.2.parameters b.2.parameters := by
  induction hrun with
  | refl => exact ⟨hserves, .refl _⟩
  | tail _ hstep ih =>
    obtain ⟨h, s, c, hknown⟩ := hstep
    obtain ⟨hserves, hretains⟩ := ih
    obtain ⟨hserves, hretains'⟩ := serves_call hserves c hknown
    exact ⟨hserves, hretains.trans hretains'⟩

/-! ## Reading -/

/-- The value under a key, for those who name its type. -/
def readValue (place : StorePlace) (key : String) (v : Value) : Run Content := do
  changeStore place (Settings.value key (v.typePart (← get)))

theorem perform_readValue (hstore : s.storeAt? place = some store) {key : String} (v : Value)
    {answer : Except (Error Float) Content}
    (hvalue : perform (Settings.value key (v.typePart s)) ⟨s.parameters, store⟩ =
      (answer, ⟨s.parameters, store⟩)) :
    perform (readValue place key v) s = (answer, s) := by
  obtain ⟨t, ht, -, -, hsame⟩ := exists_perform_changeStore hstore hvalue
  unfold readValue
  rw [perform_bind_of_ok (perform_get s), ht, hsame rfl]

end Session

def ParameterType.valueClass : ParameterType → PlainClass
  | float => .float
  | int => .int
  | bool => .bool
  | text => .text
  | vector => .array

def Content.value : Content → Value
  | float x => .float x
  | int n => .int n
  | bool b => .bool b
  | text s => .text s
  | vector entries => .numbers (.vector entries)

theorem Content.parameterType_value (c : Content) (name : String) : c.value.parameterType name = .ok c.type := by
  cases c <;> rfl

namespace Value

variable {s : Session} {v : Value}

/-- The classes of values stand for the types, and nothing else does. -/
theorem typePart_eq_ok_iff {type : ParameterType} :
    v.typePart s = .ok type ↔ v = .cls (.plain type.valueClass) := by
  unfold typePart requestedType
  constructor
  · intro h
    split at h
    · cases h
      rfl
    · cases h
      rfl
    · cases h
      rfl
    · cases h
      rfl
    · cases h
      rfl
    · obtain ⟨shown, -, h⟩ := Reading.bind_eq_ok_iff.1 h
      cases h
  · rintro rfl
    cases type <;> rfl

/-- What can be written and stands for no type is refused as one. -/
theorem kindName_of_typePart {e : Error Float} (h : v.typePart s = .error e)
    (hshown : ∃ shown, v.textIn s = .ok shown) : e.kindName = Kind.typeMismatch.name := by
  obtain ⟨shown, hshown⟩ := hshown
  unfold typePart requestedType at h
  split at h
  · cases h
  · cases h
  · cases h
  · cases h
  · cases h
  · split at h
    · cases h
      rfl
    · rw [hshown] at h
      cases h
      rfl

end Value

namespace Parameter

variable {p : Parameter} {requested : Reading Float ParameterType} {content : Content}

theorem get_eq_ok_iff : p.get requested = .ok content ↔ requested = .ok p.type ∧ content = p.content := by
  unfold get
  cases requested with
  | error e => simp [bind, Except.bind]
  | ok type =>
    by_cases h : type = p.type
    · simp [bind, Except.bind, h, pure, Except.pure, eq_comm]
    · simp [bind, Except.bind, h, throw, throwThe, MonadExceptOf.throw]

/-- A request fails as one that names no type, or because of the type that it names. -/
theorem error_of_get {e : Error Float} (h : p.get requested = .error e) :
    requested = .error e ∨ e.kindName = Kind.typeMismatch.name := by
  unfold get at h
  cases requested with
  | error e' =>
    cases h
    exact .inl rfl
  | ok type =>
    obtain h | ⟨type', -, h⟩ := Reading.bind_eq_error_iff.1 h
    · cases h
    · split at h
      · cases h
      · cases h
        exact .inr rfl

end Parameter

namespace Session

variable {s : Session} {place : StorePlace} {origin : Arena Parameter} {h : History} {key : String}
  {r : Ref Parameter}

/-! ## Handing values to parameters -/

/-- A call hands a value to a parameter. Nothing happens if it fails. Otherwise the value is of the parameter's
type, and that parameter has it from then on, with the description it had before; nothing else is changed. -/
structure Hands (v : Value) (r : Ref Parameter) (s : Session) (call : Run Unit) : Prop where
  fails : ∀ e t, perform call s = (.error e, t) → t = s
  succeeds : ∀ t, perform call s = (.ok (), t) → ∃ p content, s.parameters.get? r = some p ∧
    v.contentPart s = .ok content ∧ content.type = p.type ∧
    t = { s with parameters := s.parameters.set r { p with content } }
  /-- Every value of the parameter's type is taken. -/
  taken : ∀ p content, s.parameters.get? r = some p → v.contentPart s = .ok content → content.type = p.type →
    ∃ t, perform call s = (.ok (), t)

/-- A call hands a value to a parameter if it does what the parameter does with the value. -/
theorem hands_of_set {v : Value} {p : Parameter} (hp : s.parameters.get? r = some p) {call : Run Unit}
    (hcall : perform call s = match p.set (v.contentPart s) with
      | .ok q => (.ok (), { s with parameters := s.parameters.set r q })
      | .error e => (.error e, s)) : Hands v r s call where
  fails e t ht := by
    rw [hcall] at ht
    split at ht
    · cases ht
    · cases ht
      rfl
  succeeds t ht := by
    rw [hcall] at ht
    split at ht
    · rename_i q hset
      cases ht
      obtain ⟨content, hcontent, htype, rfl⟩ := Parameter.exists_of_set_eq_ok hset
      exact ⟨p, content, hp, hcontent, htype, rfl⟩
    · cases ht
  taken p' content hp' hcontent htype := by
    obtain rfl : p = p' := Option.some.inj (hp.symm.trans hp')
    rw [hcall, hcontent, (Parameter.set_eq_ok_iff p _ content).2 ⟨htype, rfl⟩]
    exact ⟨_, rfl⟩

theorem hands_set (v : Value) (r : Ref Parameter) (s : Session) (place : StorePlace) :
    Hands v r s ((StoreCall.set r v).run place) := by
  have hrun : perform ((StoreCall.set r v).run place) s = perform (setParameter r (v.contentPart s)) s :=
    perform_bind_of_ok (perform_get s) _
  cases hp : s.parameters.get? r with
  | none =>
    rw [perform_setParameter_of_none hp] at hrun
    refine ⟨fun e t ht ↦ ?_, fun t ht ↦ ?_, fun p content hp' ↦ ?_⟩
    · rw [hrun] at ht
      cases ht
      rfl
    · rw [hrun] at ht
      cases ht
    · rw [hp] at hp'
      cases hp'
  | some p =>
    rw [perform_setParameter hp] at hrun
    exact hands_of_set hp hrun

theorem perform_run_update (key : String) (v : Value) (place : StorePlace) (s : Session) :
    perform ((StoreCall.update key v).run place) s =
      perform (changeStore place (Settings.update key (v.contentPart s))) s :=
  perform_bind_of_ok (perform_get s) _

theorem hands_update (hserves : Serves origin h place s) (hr : h.under? key = some r) (v : Value) :
    Hands v r s ((StoreCall.update key v).run place) := by
  obtain ⟨store, hstore, hacc⟩ := hserves
  have hentry : store.get? key = some r := (hacc.under? key).trans hr
  obtain ⟨p, hp⟩ := hacc.live key r hentry
  apply hands_of_set hp
  have hupdate := Settings.perform_update hentry hp (v.contentPart s)
  rw [perform_run_update]
  cases hset : p.set (v.contentPart s) with
  | error e =>
    rw [hset] at hupdate
    obtain ⟨t, ht, -, -, hsame⟩ := exists_perform_changeStore hstore hupdate
    rw [ht, hsame rfl]
  | ok q =>
    rw [hset] at hupdate
    obtain ⟨t, ht, -, -, hsame⟩ := exists_perform_changeStore hstore hupdate
    rw [ht, hsame rfl]

/-! ## The discipline -/

/-- What is true of a store and of parameters after a run of calls, told from the notes `h` on the run. -/
structure Disciplined (place : StorePlace) (origin : Arena Parameter) (h : History) (s : Session) : Prop where
  /-- The store has the keys that parameters were put under, in the order in which they first came, and under each
  the parameter that was put there last. -/
  store : ∃ store, s.storeAt? place = some store ∧ store.keys = h.keys ∧ ∀ key, store.get? key = h.under? key
  /-- There is such a parameter, and what it hands back is of its type as it is. -/
  entry : ∀ key r, h.under? key = some r → ∃ p, s.parameters.get? r = some p ∧
    ∀ name, p.content.value.parameterType name = .ok p.type
  /-- Parameters keep their types and descriptions, whatever is called from here on. -/
  retains : ∀ h' t, StoreRun place (h, s) (h', t) → Retains s.parameters t.parameters
  /-- Who asks for the type of the parameter under a key gets the value that was stored last, and no one else gets
  anything. -/
  read : ∀ key r, h.under? key = some r → ∀ v content,
    (perform (readValue place key v) s).1 = .ok content ↔
      h.content? origin r = some content ∧ v = .cls (.plain content.type.valueClass)
  /-- The others are told that the types do not match, if what they asked for can be written at all. -/
  refused : ∀ key r, h.under? key = some r → ∀ v e, (perform (readValue place key v) s).1 = .error e →
    (∃ shown, v.textIn s = .ok shown) → e.kindName = Kind.typeMismatch.name
  /-- Under any other key nothing is found, and nothing can be changed. -/
  absent : ∀ key, h.under? key = none → ∀ v, perform (readValue place key v) s = (.error (.keyNotFound key), s) ∧
    perform ((StoreCall.update key v).run place) s = (.error (.keyNotFound key), s)
  update : ∀ key r, h.under? key = some r → ∀ v, Hands v r s ((StoreCall.update key v).run place)
  set : ∀ r v, Hands v r s ((StoreCall.set r v).run place)

theorem disciplined_of_serves (hserves : Serves origin h place s) : Disciplined place origin h s := by
  obtain ⟨store, hstore, hacc⟩ := hserves
  have hread (key : String) (r : Ref Parameter) (hr : h.under? key = some r) (v : Value) :
      ∃ p, s.parameters.get? r = some p ∧ h.content? origin r = some p.content ∧
        (perform (readValue place key v) s).1 = p.get (v.typePart s) := by
    have hentry : store.get? key = some r := (hacc.under? key).trans hr
    obtain ⟨p, hp⟩ := hacc.live key r hentry
    have hcontent := hacc.content? r
    rw [hp, Option.map_some] at hcontent
    have hvalue := Settings.perform_value hentry hp (v.typePart s)
    exact ⟨p, hp, hcontent.symm, congrArg Prod.fst (perform_readValue hstore v hvalue)⟩
  constructor
  case store => exact ⟨store, hstore, hacc.keys, hacc.under?⟩
  case entry =>
    intro key r hr
    obtain ⟨p, hp⟩ := hacc.live key r ((hacc.under? key).trans hr)
    exact ⟨p, hp, p.content.parameterType_value⟩
  case retains =>
    intro h' t hrun
    exact (serves_run (a := (h, s)) ⟨store, hstore, hacc⟩ hrun).2
  case read =>
    intro key r hr v content
    obtain ⟨p, -, hcontent, hanswer⟩ := hread key r hr v
    rw [hanswer, Parameter.get_eq_ok_iff, Value.typePart_eq_ok_iff, hcontent, Option.some.injEq]
    constructor
    · rintro ⟨hv, rfl⟩
      exact ⟨rfl, hv⟩
    · rintro ⟨rfl, hv⟩
      exact ⟨hv, rfl⟩
  case refused =>
    intro key r hr v e he hshown
    obtain ⟨p, -, -, hanswer⟩ := hread key r hr v
    rw [hanswer] at he
    obtain htype | hkind := Parameter.error_of_get he
    · exact Value.kindName_of_typePart htype hshown
    · exact hkind
  case absent =>
    intro key hr v
    have hentry : store.get? key = none := (hacc.under? key).trans hr
    refine ⟨perform_readValue hstore v (Settings.perform_value_of_none hentry _), ?_⟩
    obtain ⟨t, ht, -, -, hsame⟩ := exists_perform_changeStore hstore
      (Settings.perform_update_of_none hentry (v.contentPart s))
    rw [perform_run_update, ht, hsame rfl]
  case update =>
    intro key r hr v
    exact hands_update ⟨store, hstore, hacc⟩ hr v
  case set =>
    intro r v
    exact hands_set v r s place

/-- A store that was empty at first keeps the discipline through every run of calls. -/
theorem parameters_disciplined {s₀ : Session} (hempty : s₀.storeAt? place = some {})
    (hrun : StoreRun place ({}, s₀) (h, s)) : Disciplined place s₀.parameters h s := by
  have hstart : Serves s₀.parameters {} place s₀ := ⟨{}, hempty, .start s₀.parameters⟩
  exact disciplined_of_serves (serves_run hstart hrun).1

/-- A parameter of whole numbers is put under one key and then under another. There it is handed a whole number of
an array library, and past the store a flag, which it refuses. -/
theorem parameters_disciplined_shared :
    let s₀ : Session := { stores := ⟨[{}]⟩ }
    let place := StorePlace.alone ⟨0⟩
    ∃ h s, StoreRun place ({}, s₀) (h, s) ∧ h.keys = ["rounds", "limit"] ∧
      (perform (readValue place "rounds" (.cls (.plain .int))) s).1 = .ok (.int 2) ∧
      ∃ e, (perform (readValue place "rounds" (.cls (.plain .bool))) s).1 = .error e ∧
        e.kindName = Kind.typeMismatch.name := by
  intro s₀ place
  have hput : StoreRun place ({}, s₀) _ := .single (.call {} s₀ (.put "rounds" (.int 1) "") trivial)
  have hshared := hput.tail (.call _ _ (.assign "limit" (.parameter ⟨0⟩)) fun r hr ↦ by
    cases hr
    exact ⟨_, rfl⟩)
  have hupdated := hshared.tail (.call _ _ (.update "limit" (.fixed (.whole "int64" 2))) trivial)
  have hrefused := hupdated.tail (.call _ _ (.set ⟨0⟩ (.bool true)) trivial)
  have hdisciplined := parameters_disciplined rfl hrefused
  refine ⟨_, _, hrefused, rfl, ?_, _, rfl, ?_⟩
  · exact (hdisciplined.read "rounds" ⟨0⟩ rfl _ _).2 ⟨rfl, rfl⟩
  · exact hdisciplined.refused "rounds" ⟨0⟩ rfl (.cls (.plain .bool)) _ rfl ⟨_, rfl⟩

end Session

end Extremum
