import Extremum.Value.Basic

/-!
# Equality of values

Numbers are equal when they stand for the same number, whatever their types are; texts, lists and outcomes are
equal when they hold equal things; things that change, and functions, are equal to themselves only. Values of
different kinds are not equal.
-/

namespace Extremum.Value

/-- A single number, exactly. -/
inductive Exact
  | whole (n : Int)
  | real (x : Float)

/-- The number that a value stands for, flags included. -/
def number? : Value → Option Exact
  | bool b | fixed (.truth b) => some (.whole (if b then 1 else 0))
  | int n | fixed (.whole _ n) => some (.whole n)
  | float x | fixed (.real _ _ x) | fixed (.complex x) => some (.real x)
  | _ => Option.none

def Exact.sameMixed (n : Int) (x : Float) : Bool :=
  x.floor == x && Decimal.truncate? x == some n

def Exact.same : Exact → Exact → Bool
  | whole n, whole m => n == m
  | real x, real y => x == y
  | whole n, real x | real x, whole n => sameMixed n x

mutual

/-- Whether two values are equal; `identical` says that they are one and the same. -/
def equal (identical : Bool) : Value → Value → Bool
  | none, none => true
  | text s, text t | fixed (.text s), text t | text s, fixed (.text t) | fixed (.text s), fixed (.text t) =>
    s == t
  | list xs, list ys | tuple xs, tuple ys => equalAll identical xs ys
  | mapping xs, mapping ys => xs.length == ys.length && equalEntries identical xs ys
  | interval i, interval j => i.lower == j.lower && i.upper == j.upper
  | function _, function _ => identical
  | cls c, cls d => c == d
  | outcome (.failed message last), outcome (.failed other otherLast) =>
    (identical && message == other) || (Outcome.failed message last).equal (.failed other otherLast)
  | outcome o, outcome p => o.equal p
  | parameter r, parameter s => r == s
  | problem r, problem s => r == s
  | iterate r, iterate s => r == s
  | solver r, solver s => r == s
  | store r, store s => r == s
  | v, w => match v.number?, w.number? with
    | some a, some b => a.same b
    | _, _ => false

def equalAll (identical : Bool) : List Value → List Value → Bool
  | [], [] => true
  | v :: rest, w :: others => equal identical v w && equalAll identical rest others
  | _, _ => false

/-- Whether every entry has an equal one under its key among the others. -/
def equalEntries (identical : Bool) : List (String × Value) → List (String × Value) → Bool
  | [], _ => true
  | (key, v) :: rest, others =>
    (match others.lookup key with
      | some w => equal identical v w
      | Option.none => false) && equalEntries identical rest others

end

end Extremum.Value
