import Extremum.Proofs.Session.Call
import Extremum.Proofs.Text.Case
import Mathlib.Data.List.Induction
import Mathlib.Data.String.Basic

/-!
# Which class stands under a name

Classes of solvers are registered under names and names are freed again. What stands under a key afterwards can
be read off the history alone: the last call that decided about the key, because it freed the key or put a class
there without failing, has put that class there. The built-in names are no exception, since they come from two
registrations at the very beginning.
-/

namespace Extremum

namespace Call

/-- A call that is only about classes of solvers and their names. -/
def Naming : Call → Prop
  | defineClass _ | register .. | unregister _ => True
  | _ => False

/-- The call is to put a class under a key. -/
def Puts (key : String) (r : Ref SolverClass) : Call → Prop
  | register name given _ => Text.lower name = key ∧ given = .ok r
  | _ => False

/-- The call frees a key. -/
def Frees (key : String) : Call → Prop
  | unregister name => Text.lower name = key
  | _ => False

/-- The call does not fail. -/
def Succeeds (c : Call) (s : Session) : Prop :=
  ∃ t, perform c.run s = (.ok (), t)

/-- The call decides what stands under a key: it frees the key, or puts a class there and does not fail. -/
def Decides (c : Call) (s : Session) (key : String) : Prop :=
  c.Frees key ∨ c.Succeeds s ∧ ∃ r, c.Puts key r

end Call

namespace Session

variable {s t : Session} {name key : String} {given : Given (Ref SolverClass)} {overwrite : Bool}
  {r : Ref SolverClass} {c : SolverClass} {calls : List Call}

/-! ## One registration -/

/-- What is given is a class whose solvers own a problem. -/
def IsSolverClass (s : Session) (given : Given (Ref SolverClass)) : Prop :=
  ∃ r c, given = .ok r ∧ s.classes.get? r = some c ∧ c.ownsProblem = true

/-- Another class than the given one is registered under a key. -/
def HeldByOther (s : Session) (key : String) (given : Given (Ref SolverClass)) : Prop :=
  ∃ r other, given = .ok r ∧ other ≠ r ∧ s.registry.get? key = some other

theorem taken_iff : s.taken key r = true ↔ s.HeldByOther key (.ok r) := by
  unfold taken HeldByOther
  constructor
  · intro h
    cases hkey : s.registry.get? key with
    | none =>
      rw [hkey] at h
      cases h
    | some other =>
      rw [hkey] at h
      exact ⟨r, other, rfl, bne_iff_ne.1 h, rfl⟩
  · rintro ⟨_, other, hr, hother, hkey⟩
    cases hr
    rw [hkey]
    exact bne_iff_ne.2 hother

/-- A class can be registered under a name. -/
structure Admits (s : Session) (name : String) (given : Given (Ref SolverClass)) (overwrite : Bool) : Prop where
  isClass : s.IsSolverClass given
  free : s.HeldByOther (Text.lower name) given → overwrite = true

theorem perform_register (h : s.Admits name (.ok r) overwrite) : perform (register name (.ok r) overwrite) s =
    (.ok (), { s with registry := s.registry.insert (Text.lower name) r }) := by
  obtain ⟨_, c, hr, hc, howns⟩ := h.isClass
  cases hr
  have hfree : (s.taken (Text.lower name) r && !overwrite) = false := by
    cases htaken : s.taken (Text.lower name) r with
    | false => rfl
    | true =>
      rw [h.free (taken_iff.1 htaken)]
      rfl
  unfold register
  dsimp only
  rw [perform_bind_of_ok (perform_solverClass hc), if_pos howns, perform_bind_of_ok (perform_get s), hfree]
  rfl

/-- A registration that is not admitted changes nothing. -/
theorem perform_register_of_not_admits (h : ¬s.Admits name given overwrite) :
    ∃ e, perform (register name given overwrite) s = (.error e, s) := by
  unfold register
  cases given with
  | error shown => exact ⟨_, rfl⟩
  | ok r =>
    dsimp only
    cases hc : s.classes.get? r with
    | none => exact ⟨_, perform_bind_of_error (perform_solverClass_of_none hc) _⟩
    | some c =>
      rw [perform_bind_of_ok (perform_solverClass hc)]
      by_cases howns : c.ownsProblem = true
      · -- The class is one of solvers, so it must be the name that is refused.
        have htaken : s.taken (Text.lower name) r = true := by
          by_contra hfree
          exact h ⟨⟨r, c, rfl, hc, howns⟩, fun hheld ↦ absurd (taken_iff.2 hheld) hfree⟩
        have hkept : overwrite = false := by
          rw [← Bool.not_eq_true]
          exact fun hover ↦ h ⟨⟨r, c, rfl, hc, howns⟩, fun _ ↦ hover⟩
        rw [if_pos howns, perform_bind_of_ok (perform_get s), htaken, hkept]
        exact ⟨_, rfl⟩
      · rw [if_neg howns]
        exact ⟨_, rfl⟩

theorem succeeds_register_iff :
    (Call.register name given overwrite).Succeeds s ↔ s.Admits name given overwrite := by
  constructor
  · rintro ⟨t, ht⟩
    by_contra hrefused
    obtain ⟨e, he⟩ := perform_register_of_not_admits hrefused
    exact absurd (he.symm.trans ht) (by simp)
  · intro h
    obtain ⟨r, c, rfl, -⟩ := h.isClass
    exact ⟨_, perform_register h⟩

theorem fails_register_iff : (∃ e t, perform (register name given overwrite) s = (.error e, t)) ↔
    ¬s.IsSolverClass given ∨ overwrite = false ∧ s.HeldByOther (Text.lower name) given := by
  have hadmits : s.Admits name given overwrite ↔
      s.IsSolverClass given ∧ (s.HeldByOther (Text.lower name) given → overwrite = true) :=
    ⟨fun h ↦ ⟨h.isClass, h.free⟩, fun h ↦ ⟨h.1, h.2⟩⟩
  have hrefused : (∃ e t, perform (register name given overwrite) s = (.error e, t)) ↔
      ¬s.Admits name given overwrite := by
    constructor
    · rintro ⟨e, t, h⟩ hadmits
      obtain ⟨u, hu⟩ := succeeds_register_iff.2 hadmits
      exact absurd (h.symm.trans hu) (by simp)
    · intro h
      obtain ⟨e, he⟩ := perform_register_of_not_admits h
      exact ⟨e, s, he⟩
  rw [hrefused, hadmits, not_and_or, Classical.not_imp, Bool.not_eq_true, and_comm (b := overwrite = false)]

/-- A registration that fails changes nothing. -/
theorem register_of_error {e : Error Float} (h : perform (register name given overwrite) s = (.error e, t)) :
    t = s := by
  by_cases hadmits : s.Admits name given overwrite
  · obtain ⟨u, hu⟩ := succeeds_register_iff.2 hadmits
    exact absurd (h.symm.trans hu) (by simp)
  · obtain ⟨e', he⟩ := perform_register_of_not_admits hadmits
    rw [he] at h
    cases h
    rfl

/-! ## One call -/

theorem next_register_of_admits (h : s.Admits name (.ok r) overwrite) :
    s.next (.register name (.ok r) overwrite) =
      { s with registry := s.registry.insert (Text.lower name) r } := by
  change (perform (register name (.ok r) overwrite) s).2 = _
  rw [perform_register h]

theorem next_register_of_not_admits (h : ¬s.Admits name given overwrite) :
    s.next (.register name given overwrite) = s := by
  obtain ⟨e, he⟩ := perform_register_of_not_admits h
  change (perform (register name given overwrite) s).2 = s
  rw [he]

theorem next_unregister (s : Session) (name : String) :
    s.next (.unregister name) = { s with registry := s.registry.erase (Text.lower name) } := rfl

theorem next_defineClass (s : Session) (c : SolverClass) :
    s.next (.defineClass c) = { s with classes := (s.classes.add c).2 } := rfl

/-- After a call, a class stands under a key if the call has put it there, or if it stood there before and the
call decided nothing about the key. -/
theorem get?_registry_next {call : Call} (hcall : call.Naming) (s : Session) (key : String)
    (r : Ref SolverClass) : (s.next call).registry.get? key = some r ↔
      call.Puts key r ∧ call.Succeeds s ∨ s.registry.get? key = some r ∧ ¬call.Decides s key := by
  cases call with
  | defineClass c =>
    rw [next_defineClass]
    simp [Call.Puts, Call.Decides, Call.Frees]
  | unregister name =>
    rw [next_unregister]
    dsimp only
    by_cases hkey : Text.lower name = key
    · rw [hkey, Table.get?_erase_self]
      simp [Call.Puts, Call.Decides, Call.Frees, hkey]
    · rw [Table.get?_erase_of_ne _ (Ne.symm hkey)]
      simp [Call.Puts, Call.Decides, Call.Frees, hkey]
  | register name given overwrite =>
    by_cases hadmits : s.Admits name given overwrite
    · have hsucceeds := succeeds_register_iff.2 hadmits
      obtain ⟨put, c, rfl, -⟩ := hadmits.isClass
      rw [next_register_of_admits hadmits]
      dsimp only
      by_cases hkey : Text.lower name = key
      · rw [hkey, Table.get?_insert_self]
        simp [Call.Puts, Call.Decides, Call.Frees, hkey, hsucceeds]
      · rw [Table.get?_insert_of_ne _ _ (Ne.symm hkey)]
        simp [Call.Puts, Call.Decides, Call.Frees, hkey]
    · have hfails : ¬(Call.register name given overwrite).Succeeds s := fun h ↦
        hadmits (succeeds_register_iff.1 h)
      rw [next_register_of_not_admits hadmits]
      simp [Call.Decides, Call.Frees, hfails]
  | _ => exact hcall.elim

/-! ## Histories -/

/-- A class stands under a key after calls: the last of them that decided about the key has put it there. -/
def Stands (s : Session) (calls : List Call) (key : String) (r : Ref SolverClass) : Prop :=
  ∃ before call rest, calls = before ++ call :: rest ∧ call.Puts key r ∧ call.Succeeds (s.after before) ∧
    ∀ middle later tail, rest = middle ++ later :: tail →
      ¬later.Decides (s.after (before ++ call :: middle)) key

theorem stands_append_singleton {call : Call} : s.Stands (calls ++ [call]) key r ↔
    call.Puts key r ∧ call.Succeeds (s.after calls) ∨
      s.Stands calls key r ∧ ¬call.Decides (s.after calls) key := by
  constructor
  · rintro ⟨before, first, rest, hcalls, hputs, hsucceeds, hlast⟩
    rcases List.eq_nil_or_concat rest with rfl | ⟨init, last, rfl⟩
    · obtain ⟨rfl, hfirst⟩ := List.append_inj' hcalls rfl
      cases hfirst
      exact .inl ⟨hputs, hsucceeds⟩
    · rw [List.concat_eq_append] at hcalls hlast
      rw [← List.cons_append, ← List.append_assoc] at hcalls
      obtain ⟨rfl, hcall⟩ := List.append_inj' hcalls rfl
      cases hcall
      refine .inr ⟨⟨before, first, init, rfl, hputs, hsucceeds, ?_⟩, hlast init call [] rfl⟩
      rintro middle later tail rfl
      exact hlast middle later (tail ++ [call]) (by rw [List.append_assoc, List.cons_append])
  · rintro (⟨hputs, hsucceeds⟩ | ⟨⟨before, first, rest, rfl, hputs, hsucceeds, hlast⟩, hcall⟩)
    · exact ⟨calls, call, [], rfl, hputs, hsucceeds, fun middle _ _ h ↦ by cases middle <;> cases h⟩
    · refine ⟨before, first, rest ++ [call], by simp, hputs, hsucceeds, ?_⟩
      intro middle later tail hrest
      rcases List.eq_nil_or_concat tail with rfl | ⟨init, last, rfl⟩
      · obtain ⟨rfl, hlater⟩ := List.append_inj' hrest rfl
        cases hlater
        exact hcall
      · rw [List.concat_eq_append, ← List.cons_append, ← List.append_assoc] at hrest
        exact hlast middle later init (List.append_inj' hrest rfl).1

/-- What is registered after calls on an empty registry is what stands there by the history. -/
theorem get?_registry_after (hempty : s.registry = {}) (hcalls : ∀ call ∈ calls, call.Naming) (key : String)
    (r : Ref SolverClass) : (s.after calls).registry.get? key = some r ↔ s.Stands calls key r := by
  induction calls using List.reverseRecOn generalizing r with
  | nil =>
    rw [after_nil, hempty]
    constructor
    · intro h
      cases h
    · rintro ⟨before, _, _, h, -⟩
      cases before <;> cases h
  | append_singleton calls call ih =>
    have hbefore := ih (fun other hother ↦ hcalls other (List.mem_append_left _ hother))
    have hcall := hcalls call (by simp)
    rw [after_append, after_cons, after_nil, get?_registry_next hcall, stands_append_singleton, hbefore]

/-- Whoever stands under a key has been registered under a name whose lower case is the key. -/
theorem Stands.lower_key (h : s.Stands calls key r) : Text.lower key = key := by
  obtain ⟨_, call, _, -, hputs, -⟩ := h
  cases call with
  | register name given overwrite =>
    rw [← hputs.1]
    exact Text.lower_lower name
  | _ => exact hputs.elim

/-! ## Known classes -/

/-- Every class that is registered is a class whose solvers own a problem. -/
def Sound (s : Session) : Prop :=
  ∀ key r, s.registry.get? key = some r → s.IsSolverClass (.ok r)

theorem isSolverClass_next {call : Call} (hcall : call.Naming) (h : s.IsSolverClass given) :
    (s.next call).IsSolverClass given := by
  obtain ⟨r, c, rfl, hc, howns⟩ := h
  cases call with
  | defineClass d => exact ⟨r, c, rfl, Arena.get?_add_of_get? _ _ _ hc, howns⟩
  | unregister name => exact ⟨r, c, rfl, hc, howns⟩
  | register name other overwrite =>
    by_cases hadmits : s.Admits name other overwrite
    · obtain ⟨put, _, rfl, -⟩ := hadmits.isClass
      rw [next_register_of_admits hadmits]
      exact ⟨r, c, rfl, hc, howns⟩
    · rw [next_register_of_not_admits hadmits]
      exact ⟨r, c, rfl, hc, howns⟩
  | _ => exact hcall.elim

theorem Sound.next {call : Call} (hcall : call.Naming) (h : s.Sound) : (s.next call).Sound := by
  intro key r hkey
  rcases (get?_registry_next hcall s key r).1 hkey with ⟨hputs, hsucceeds⟩ | ⟨hbefore, -⟩
  · cases call with
    | register name given overwrite =>
      obtain ⟨-, rfl⟩ := hputs
      exact isSolverClass_next hcall (succeeds_register_iff.1 hsucceeds).isClass
    | _ => exact hputs.elim
  · exact isSolverClass_next hcall (h key r hbefore)

theorem Sound.after (hcalls : ∀ call ∈ calls, call.Naming) (h : s.Sound) : (s.after calls).Sound := by
  induction calls generalizing s with
  | nil => exact h
  | cons call rest ih =>
    rw [after_cons]
    exact ih (fun other hother ↦ hcalls other (List.mem_cons_of_mem call hother))
      (h.next (hcalls call List.mem_cons_self))

/-! ## The beginning -/

/-- The library has just been loaded; classes may have been defined already, but none was registered. -/
structure Initial (s : Session) : Prop where
  registry : s.registry = builtinRegistry
  classes : builtinClasses <+: s.classes.items

/-- The same session before the built-in classes are registered. -/
def unloaded (s : Session) : Session :=
  { s with registry := {} }

/-- The registrations that loading the library consists of. -/
def loading : List Call :=
  [.register "dummy" (.ok ⟨2⟩) false, .register "dummy-laststate" (.ok ⟨3⟩) false]

theorem Initial.after_loading (h : s.Initial) : s.unloaded.after loading = s := by
  obtain ⟨rest, hrest⟩ := h.classes
  have hclass (t : Session) (ht : t.classes = s.classes) :
      t.IsSolverClass (.ok ⟨2⟩) ∧ t.IsSolverClass (.ok ⟨3⟩) := by
    unfold IsSolverClass Arena.get?
    rw [ht, ← hrest]
    exact ⟨⟨_, .giveUp, rfl, rfl, rfl⟩, ⟨_, .recordStart, rfl, rfl, rfl⟩⟩
  have hfirst : s.unloaded.Admits "dummy" (.ok ⟨2⟩) false := by
    refine ⟨(hclass _ rfl).1, ?_⟩
    rintro ⟨_, _, -, -, hheld⟩
    cases hheld
  have hdummy : s.unloaded.next (.register "dummy" (.ok ⟨2⟩) false) =
      { s with registry := ({} : Table (Ref SolverClass)).insert (Text.lower "dummy") ⟨2⟩ } :=
    next_register_of_admits hfirst
  have hsecond : (s.unloaded.next (.register "dummy" (.ok ⟨2⟩) false)).Admits "dummy-laststate" (.ok ⟨3⟩)
      false := by
    rw [hdummy]
    refine ⟨(hclass _ rfl).2, ?_⟩
    rintro ⟨_, _, -, -, hheld⟩
    cases hheld
  have hregistry : (({} : Table (Ref SolverClass)).insert (Text.lower "dummy") ⟨2⟩).insert
      (Text.lower "dummy-laststate") ⟨3⟩ = s.registry := by
    rw [h.registry]
    rfl
  unfold loading
  rw [after_cons, after_cons, next_register_of_admits hsecond, hdummy]
  dsimp only
  rw [hregistry, after_nil]

theorem naming_of_mem_loading {call : Call} (h : call ∈ loading) : call.Naming := by
  unfold loading at h
  rw [List.mem_cons, List.mem_singleton] at h
  rcases h with rfl | rfl <;> exact trivial

/-- What is registered after calls at the beginning is what stands there by the history, in which the built-in
classes come first. -/
theorem Initial.get?_registry_after (h : s.Initial) (hcalls : ∀ call ∈ calls, call.Naming) (key : String)
    (r : Ref SolverClass) :
    (s.after calls).registry.get? key = some r ↔ s.unloaded.Stands (loading ++ calls) key r := by
  have hall (call : Call) (hcall : call ∈ loading ++ calls) : call.Naming := by
    rcases List.mem_append.1 hcall with hbuiltin | hlater
    · exact naming_of_mem_loading hbuiltin
    · exact hcalls call hlater
  rw [← Session.get?_registry_after rfl hall, after_append, h.after_loading]

theorem Initial.sound (h : s.Initial) : s.Sound := by
  rw [← h.after_loading]
  apply Sound.after fun _ ↦ naming_of_mem_loading
  intro key r hkey
  cases hkey

/-! ## The names that are listed -/

theorem mem_available_iff : key ∈ s.available ↔ ∃ r, s.registry.get? key = some r := by
  unfold available
  rw [List.mem_mergeSort, Table.mem_keys_iff]

/-- The names are listed in ascending order, each of them once. -/
theorem pairwise_available (s : Session) : s.available.Pairwise (· < ·) := by
  have hsorted : s.available.Pairwise (· ≤ ·) := by
    have htrans (a b c : String) (hab : decide (a ≤ b) = true) (hbc : decide (b ≤ c) = true) :
        decide (a ≤ c) = true :=
      decide_eq_true ((of_decide_eq_true hab).trans (of_decide_eq_true hbc))
    have htotal (a b : String) : (decide (a ≤ b) || decide (b ≤ a)) = true := by
      rw [Bool.or_eq_true, decide_eq_true_iff, decide_eq_true_iff]
      exact le_total a b
    exact (List.pairwise_mergeSort htrans htotal s.registry.keys).imp of_decide_eq_true
  have hnodup : s.available.Nodup := (List.mergeSort_perm _ _).nodup_iff.2 s.registry.nodup_keys
  exact (hsorted.and hnodup).imp fun h ↦ lt_of_le_of_ne h.1 h.2

end Session

end Extremum
