/-!
# Binary floating point numbers taken apart

A finite double is a natural number times a power of two. `anatomy` reads sign, mantissa and exponent off
the sixty-four bits, so that everything said about its decimal digits is said in exact natural arithmetic.
`Format.round` rounds such a number to a format with fewer digits.
-/

namespace Extremum.Decimal

/-- The nonnegative number `mantissa * 2 ^ exponent` of a floating point format. -/
structure Binary where
  /-- The mantissa as a natural number. -/
  mantissa : Nat
  /-- The power of two that the mantissa is multiplied by. -/
  exponent : Int
  /-- Whether the next smaller number of the format is only half a unit of the mantissa away. -/
  closeBelow : Bool := false
deriving DecidableEq, Repr

namespace Binary

/-- Numerator and denominator of the number. -/
def ratio (b : Binary) : Nat × Nat :=
  if 0 ≤ b.exponent then (b.mantissa * Nat.pow 2 b.exponent.toNat, 1)
  else (b.mantissa, Nat.pow 2 (-b.exponent).toNat)

/-- The number as a double, exact whenever a double can hold it. -/
def toFloat (b : Binary) : Float :=
  if 0 ≤ b.exponent then Float.ofNat b.mantissa * Float.ofNat (Nat.pow 2 b.exponent.toNat)
  else if -1022 ≤ b.exponent then Float.ofNat b.mantissa / Float.ofNat (Nat.pow 2 (-b.exponent).toNat)
  else
    Float.ofNat b.mantissa / Float.ofNat (Nat.pow 2 1000)
      / Float.ofNat (Nat.pow 2 (-b.exponent - 1000).toNat)

end Binary

/-- What a double is: undefined, infinite, or a sign and a binary number. -/
inductive Anatomy
  | nan
  | infinite (negative : Bool)
  | finite (negative : Bool) (magnitude : Binary)
deriving DecidableEq, Repr

/-- Reads a double: one sign bit, eleven bits of exponent, fifty-two bits of fraction. -/
def anatomy (x : Float) : Anatomy :=
  let bits := x.toBits.toNat
  let negative := decide (Nat.pow 2 63 ≤ bits)
  let field : Nat := bits / Nat.pow 2 52 % Nat.pow 2 11
  let fraction := bits % Nat.pow 2 52
  if field = 2047 then
    if fraction = 0 then .infinite negative else .nan
  else if field = 0 then .finite negative ⟨fraction, -1074, false⟩
  else .finite negative ⟨Nat.pow 2 52 + fraction, (field : Int) - 1075, fraction = 0 ∧ 1 < field⟩

/-- The quotient of two natural numbers rounded to the nearest natural number, a tie to the even one. -/
def roundHalfEven (num den : Nat) : Nat :=
  let quotient := num / den
  let remainder := num % den
  if 2 * remainder < den then quotient
  else if den < 2 * remainder then quotient + 1
  else if quotient % 2 = 0 then quotient
  else quotient + 1

/-- A binary format: the bits of a mantissa, the least exponent, and the exponent from which numbers are
infinite. -/
structure Format where
  /-- How many bits a mantissa has. -/
  precision : Nat
  /-- The exponent of the least positive number. -/
  least : Int
  /-- Numbers of at least `2 ^ overflow` are infinite. -/
  overflow : Int
deriving DecidableEq, Repr

def Format.half : Format := ⟨11, -24, 16⟩

def Format.single : Format := ⟨24, -149, 128⟩

def Format.double : Format := ⟨53, -1074, 1024⟩

/-- Rounds a binary number to the nearest of a format, a tie to the even mantissa; `none` on overflow. -/
def Format.round (f : Format) (b : Binary) : Option Binary :=
  if b.mantissa = 0 then some ⟨0, f.least, false⟩
  else
    let bits : Int := Nat.log2 b.mantissa + 1
    let exponent := max f.least (b.exponent + bits - f.precision)
    let shift := exponent - b.exponent
    let rounded :=
      if 0 ≤ shift then roundHalfEven b.mantissa (Nat.pow 2 shift.toNat)
      else b.mantissa * Nat.pow 2 (-shift).toNat
    let (mantissa, exponent) :=
      if rounded = Nat.pow 2 f.precision then (Nat.pow 2 (f.precision - 1), exponent + 1)
      else (rounded, exponent)
    if f.overflow ≤ exponent + f.precision - 1 ∧ Nat.pow 2 (f.precision - 1) ≤ mantissa then none
    else some ⟨mantissa, exponent, mantissa = Nat.pow 2 (f.precision - 1) ∧ f.least < exponent⟩

/-- The double nearest to `x` among the numbers of a narrower format. -/
def Format.narrow (f : Format) (x : Float) : Float :=
  match anatomy x with
  | .nan | .infinite _ => x
  | .finite negative magnitude =>
    let y := match f.round magnitude with
      | some rounded => rounded.toFloat
      | none => 1.0 / 0.0
    if negative then -y else y

end Extremum.Decimal
