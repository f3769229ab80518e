/-!
# Classes of functions

What a class of functions promises about derivatives. There are five tiers, each a special case of the one
below it: values only, gradients, hessians, constant hessians, zero hessians. The library's own functions
belong to one tier each, and users derive further classes. `isSubclass` is the order between all of these;
main statements: it is reflexive and transitive, and on tiers it compares their ranks.
-/

namespace Extremum

/-- How much derivative information is promised. -/
inductive Capability
  | value
  | gradient
  | hessian
deriving DecidableEq, Repr

namespace Capability

/-- Capabilities in order, from zero. -/
def rank : Capability → Nat
  | value => 0
  | gradient => 1
  | hessian => 2

def name : Capability → String
  | value => "VALUE"
  | gradient => "GRADIENT"
  | hessian => "HESSIAN"

def named? (text : String) : Option Capability :=
  [value, gradient, hessian].find? (·.name == text)

/-- Whether a capability provides at least what is required. -/
def satisfies (provided required : Capability) : Bool :=
  required.rank ≤ provided.rank

end Capability

/-- The tiers of functions, from the least to the most specific. -/
inductive Tier
  | value
  | derivable
  | twiceDerivable
  | quadratic
  | linear
deriving DecidableEq, Repr

namespace Tier

/-- Tiers in order of how specific they are. -/
def rank : Tier → Nat
  | value => 0
  | derivable => 1
  | twiceDerivable => 2
  | quadratic => 3
  | linear => 4

/-- All tiers, the most specific one first. -/
def all : List Tier :=
  [linear, quadratic, twiceDerivable, derivable, value]

/-- The name of the class that is all of a tier. -/
def name : Tier → String
  | value => "Function"
  | derivable => "DerivableFunction"
  | twiceDerivable => "TwiceDerivableFunction"
  | quadratic => "QuadraticFunction"
  | linear => "LinearFunction"

/-- What the functions of a tier are called in a description. -/
def description : Tier → String
  | value => "function"
  | derivable => "derivable function"
  | twiceDerivable => "twice derivable function"
  | quadratic => "quadratic function"
  | linear => "linear function"

def capability : Tier → Capability
  | value => .value
  | derivable => .gradient
  | twiceDerivable | quadratic | linear => .hessian

/-- Whether every function of the first tier belongs to the second. -/
def isSubtier (t s : Tier) : Bool :=
  s.rank ≤ t.rank

theorem rank_injective {t s : Tier} (h : t.rank = s.rank) : t = s := by
  cases t <;> cases s <;> simp_all [rank]

theorem isSubtier_refl (t : Tier) : t.isSubtier t = true := by
  simp [isSubtier]

theorem isSubtier_trans {t s r : Tier} (hts : t.isSubtier s = true) (hsr : s.isSubtier r = true) :
    t.isSubtier r = true := by
  simp only [isSubtier, decide_eq_true_eq] at *
  omega

theorem mem_all (t : Tier) : t ∈ all := by
  cases t <;> simp [all]

end Tier

/-- The library's own kinds of functions. -/
inductive Kernel
  | affine
  | quadraticForm
  | constant
  | shift
  | finiteDifference
  | symbolic
deriving DecidableEq, Repr

namespace Kernel

def tier : Kernel → Tier
  | affine | constant | shift => .linear
  | quadraticForm => .quadratic
  | finiteDifference => .derivable
  | symbolic => .twiceDerivable

def name : Kernel → String
  | affine => "NumericLinearFunction"
  | quadraticForm => "NumericQuadraticFunction"
  | constant => "ConstantFunction"
  | shift => "IdentityFunction"
  | finiteDifference => "FiniteDifferenceGradient"
  | symbolic => "TorchFunction"

/-- The name of the class with the module that declares it. -/
def qualifiedName : Kernel → String
  | finiteDifference => "optconduit.function.finite_difference.FiniteDifferenceGradient"
  | symbolic => "optconduit.torch.autograd.TorchFunction"
  | kernel => "optconduit.function.numeric." ++ kernel.name

def all : List Kernel :=
  [affine, quadraticForm, constant, shift, finiteDifference, symbolic]

end Kernel

/-- A class of functions: all functions of a tier, all of one of the library's kinds, or a class that a user
derived from another. Two derived classes are the same if they stem from one declaration. -/
inductive FunctionClass
  | tier (t : Tier)
  | kernel (k : Kernel)
  | derived (declaration : Nat) (name : String) (base : FunctionClass)
deriving DecidableEq, Repr

namespace FunctionClass

def name : FunctionClass → String
  | tier t => t.name
  | kernel k => k.name
  | derived _ name _ => name

/-- The most specific tier that contains a class. -/
def leastTier : FunctionClass → Tier
  | tier t => t
  | kernel k => k.tier
  | derived _ _ base => base.leastTier

/-- The library's kind of functions that a class is made of, if it is. -/
def kernel? : FunctionClass → Option Kernel
  | tier _ => none
  | kernel k => some k
  | derived _ _ base => base.kernel?

/-- Whether every function of the first class belongs to the second. -/
def isSubclass (c d : FunctionClass) : Bool :=
  c == d ||
    match c with
    | tier t => match d with
      | tier s => t.isSubtier s
      | _ => false
    | kernel k => match d with
      | tier s => k.tier.isSubtier s
      | _ => false
    | derived _ _ base => base.isSubclass d

def text : FunctionClass → String
  | tier t => "<class 'optconduit.function.base." ++ t.name ++ "'>"
  | kernel k => "<class '" ++ k.qualifiedName ++ "'>"
  | derived _ name _ => "<class '__main__." ++ name ++ "'>"

@[simp] theorem isSubclass_refl (c : FunctionClass) : c.isSubclass c = true := by
  cases c <;> simp [isSubclass]

@[simp] theorem isSubclass_tier (t s : Tier) :
    (tier t).isSubclass (tier s) = t.isSubtier s := by
  by_cases h : t = s
  · subst h
    simp [Tier.isSubtier_refl]
  · simp [isSubclass, h]

/-- A class is a subclass of a tier exactly when its own tier is. -/
theorem isSubclass_tier_iff (c : FunctionClass) (s : Tier) :
    c.isSubclass (tier s) = c.leastTier.isSubtier s := by
  induction c with
  | tier t => simp [leastTier]
  | kernel k => simp [isSubclass, leastTier]
  | derived declaration name base ih => simp [isSubclass, leastTier, ih]

theorem isSubclass_trans {c d e : FunctionClass} (hcd : c.isSubclass d = true)
    (hde : d.isSubclass e = true) : c.isSubclass e = true := by
  induction c with
  | tier t =>
    cases d with
    | tier s =>
      cases e with
      | tier r =>
        rw [isSubclass_tier] at *
        exact Tier.isSubtier_trans hcd hde
      | kernel k => simp [isSubclass] at hde
      | derived declaration name base => simp [isSubclass] at hde
    | kernel k => simp [isSubclass] at hcd
    | derived declaration name base => simp [isSubclass] at hcd
  | kernel k =>
    by_cases h : kernel k = d
    · exact h ▸ hde
    · cases d with
      | tier s =>
        cases e with
        | tier r =>
          rw [isSubclass_tier_iff] at *
          exact Tier.isSubtier_trans hcd hde
        | kernel k' => simp [isSubclass] at hde
        | derived declaration name base => simp [isSubclass] at hde
      | kernel k' =>
        exact absurd (by simpa [isSubclass] using hcd) h
      | derived declaration name base => simp [isSubclass] at hcd
  | derived declaration name base ih =>
    by_cases h : derived declaration name base = d
    · exact h ▸ hde
    · have hbase : base.isSubclass d = true := by
        have hne : (derived declaration name base == d) = false := by simpa using h
        rw [isSubclass, hne, Bool.false_or] at hcd
        exact hcd
      rw [isSubclass, ih hbase, Bool.or_true]

/-- The classes that the library itself declares. -/
def builtin : List FunctionClass :=
  Tier.all.map tier ++ Kernel.all.map kernel

end FunctionClass

end Extremum
