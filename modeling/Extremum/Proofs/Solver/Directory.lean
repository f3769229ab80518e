import Extremum.Proofs.Session.Registration
import Extremum.Proofs.Solver.Creation

/-!
# The registry as a map

For solvers, the registry is a map from names in any case to classes. After any history of registrations, which
class a name stands for, which registrations are refused and which names are listed can be told from the history
alone, and creating a solver by name is building one of the class that the name stands for.
-/

namespace Extremum.Session

variable {s t u : Session} {name : String} {c : SolverClass} {p : Ref (Problem Float)} {q : Problem Float}
  {v : Ref Solver} {calls : List Call}

/-! ## Creation without parameters -/

/-- Creating a solver by name, without parameters, is building one of a class, but for what the log is told. -/
structure Instantiates (s : Session) (name : String) (c : SolverClass) : Prop where
  built : ∀ p v t, perform (build c (some (.ok p))) s = (.ok v, t) →
    (∃ log, perform (create name [] (.ok p)) s = (.ok v, { t with log })) ∧
      ∃ solver, t.solvers.get? v = some solver ∧ solver.kind = c
  refused : ∀ p q e t, s.problems.get? p = some q → perform (build c (some (.ok p))) s = (.error e, t) →
    perform (create name [] (.ok p)) s = (.error e, t)

/-- Giving a solver no parameters changes nothing. -/
theorem perform_equip_nil {solver : Solver} (hv : s.solvers.get? v = some solver)
    (hp : s.problems.get? p = some q) (wasFrozen : Bool) : perform (equip v p wasFrozen []) s = (.ok (), s) := by
  have hconfigure : perform (Settings.configure []) ⟨s.parameters, solver.store⟩ =
      (.ok (), ⟨s.parameters, solver.store⟩) := rfl
  rw [perform_equip hv hp wasFrozen hconfigure]
  dsimp only
  rw [Arena.set_eq_self hv]
  rfl

/-- A registered class can be instantiated by its name. -/
theorem Registers.instantiates (h : s.Registers name c) : s.Instantiates name c := by
  have hread : readParameters [] = .ok [] := rfl
  constructor
  · intro p v t hbuild
    obtain ⟨q, own, settings, hbuilt⟩ := build_of_ok hbuild
    have hequip := perform_equip_nil hbuilt.solver hbuilt.given q.frozen
    have hcreate := perform_create h hread hbuilt.found
    rw [perform_bind_of_ok hbuild, perform_bind_of_ok hequip, perform_bind_of_ok (perform_logDebug _ _ t)] at hcreate
    exact ⟨⟨_, hcreate⟩, _, hbuilt.solver, rfl⟩
  · intro p q e t hp hbuild
    rw [perform_create h hread hp]
    exact perform_bind_of_error hbuild _

/-! ## The laws of the registry -/

/-- The registry of a session is a map in which `stands` tells which class stands under a key. -/
structure Directory (s : Session) (stands : String → Ref SolverClass → Prop) : Prop where
  /-- A solver with a name is one of the class that stands under the name in lower case. -/
  known : ∀ name r, stands (Text.lower name) r →
    ∃ c, s.classes.get? r = some c ∧ c.ownsProblem = true ∧ s.Instantiates name c
  /-- There are no solvers with a name under which no class stands, whatever else is given. -/
  unknown : ∀ name parameters given, (∀ r, ¬stands (Text.lower name) r) →
    ∃ e, perform (create name parameters given) s = (.error e, s) ∧ e.kindName = Kind.value.name
  /-- A registration fails if something else than a class of solvers is given, or if another class stands under
  the name and is not to be overwritten. -/
  refused_iff : ∀ name given overwrite, (∃ e t, perform (register name given overwrite) s = (.error e, t)) ↔
    ¬s.IsSolverClass given ∨
      overwrite = false ∧ ∃ r other, given = .ok r ∧ other ≠ r ∧ stands (Text.lower name) other
  /-- A registration that fails changes nothing. -/
  unchanged : ∀ name given overwrite e t,
    perform (register name given overwrite) s = (.error e, t) → t = s
  ascending : s.available.Pairwise (· < ·)
  /-- The names that are listed are those under which a class stands. -/
  listed : ∀ key, key ∈ s.available ↔ ∃ r, stands key r
  /-- Every name that is listed gives solvers of the class that stands there. -/
  resolved : ∀ key ∈ s.available, ∃ r c, stands key r ∧ s.classes.get? r = some c ∧ s.Instantiates key c

theorem registers_of_sound (hsound : s.Sound) {r : Ref SolverClass}
    (h : s.registry.get? (Text.lower name) = some r) :
    ∃ c, s.classes.get? r = some c ∧ c.ownsProblem = true ∧ s.Registers name c := by
  obtain ⟨_, c, hr, hc, howns⟩ := hsound _ r h
  cases hr
  exact ⟨c, hc, howns, r, h, hc⟩

/-- After any calls that define classes, register them or free their names, the registry is a map in which the
class stands under a key that the last registration has put there which was neither refused nor undone. -/
theorem Initial.directory_after (hs : s.Initial) (hcalls : ∀ call ∈ calls, call.Naming) :
    Directory (s.after calls) (s.unloaded.Stands (loading ++ calls)) := by
  have hstands := hs.get?_registry_after hcalls
  have hsound : (s.after calls).Sound := hs.sound.after hcalls
  have hlisted (key : String) : key ∈ (s.after calls).available ↔
      ∃ r, s.unloaded.Stands (loading ++ calls) key r := by
    simp only [mem_available_iff, hstands]
  refine ⟨?_, ?_, ?_, ?_, pairwise_available _, hlisted, ?_⟩
  · intro name r h
    obtain ⟨c, hc, howns, hregisters⟩ := registers_of_sound hsound ((hstands _ r).2 h)
    exact ⟨c, hc, howns, hregisters.instantiates⟩
  · intro name parameters given h
    have hnone : (s.after calls).registry.get? (Text.lower name) = none := by
      rw [Option.eq_none_iff_forall_ne_some]
      exact fun r hr ↦ h r ((hstands _ r).1 hr)
    exact ⟨_, perform_bind_of_error (perform_lookUp_of_none hnone) _, rfl⟩
  · intro name given overwrite
    simp only [fails_register_iff, HeldByOther, hstands]
  · intro name given overwrite e t h
    exact register_of_error h
  · intro key hkey
    obtain ⟨r, hr⟩ := (hlisted key).1 hkey
    have hget := (hstands key r).2 hr
    rw [← hr.lower_key] at hget
    obtain ⟨c, hc, -, hregisters⟩ := registers_of_sound hsound hget
    exact ⟨r, c, hr, hc, hregisters.instantiates⟩

/-- A history in which a name is taken, refused to another class, overwritten in other letters, and in which a
built-in name is freed. -/
def renamed : List Call :=
  [.register "Own" (.ok ⟨2⟩) false, .register "OWN" (.ok ⟨3⟩) false, .register "oWn" (.ok ⟨3⟩) true,
    .register "own" (.error "<class 'object'>") true, .unregister "DUMMY"]

/-- A name that was overwritten leads to the new class in any case, and a freed one is refused. -/
theorem directory_after_renamed :
    "own" ∈ (({} : Session).after renamed).available ∧
      (({} : Session).after renamed).Instantiates "OWN" .recordStart ∧
      ∃ e, perform (create "Dummy" [] (.ok ⟨0⟩)) (({} : Session).after renamed) =
        (.error e, ({} : Session).after renamed) ∧ e.kindName = "ValueError" := by
  have hs : Initial {} := ⟨rfl, List.prefix_refl _⟩
  have hcalls : ∀ call ∈ renamed, call.Naming := by
    unfold renamed
    simp [Call.Naming]
  have hdirectory := hs.directory_after hcalls
  have hstands := hs.get?_registry_after hcalls
  have hown : (({} : Session).after renamed).registry.get? "own" = some ⟨3⟩ := by decide +kernel
  have hlower : Text.lower "OWN" = "own" := by decide +kernel
  refine ⟨?_, ?_, ?_⟩
  · exact (hdirectory.listed "own").2 ⟨⟨3⟩, (hstands _ _).1 hown⟩
  · obtain ⟨c, hc, -, hinstantiates⟩ := hdirectory.known "OWN" ⟨3⟩ (hlower.symm ▸ (hstands _ _).1 hown)
    cases hc
    exact hinstantiates
  · refine hdirectory.unknown "Dummy" [] (.ok ⟨0⟩) fun r hr ↦ ?_
    have hdummy : (({} : Session).after renamed).registry.get? (Text.lower "Dummy") = none := by decide +kernel
    rw [(hstands _ r).2 hr] at hdummy
    cases hdummy

end Extremum.Session
