import Extremum.Decimal.Binary

/-!
# Decimal digits of a binary number

`shortest` gives the fewest decimal digits that lie closer to a number than to any other number of its
format; `significant` and `places` round its exact value to a wanted number of digits. All three compare
natural numbers only.
-/

namespace Extremum.Decimal

/-- The decimal number `coefficient * 10 ^ exponent`. -/
structure Digits where
  coefficient : Nat
  exponent : Int
deriving DecidableEq, Repr

/-- How many decimal digits a natural number has; zero has none. -/
def digitCount (n : Nat) : Nat :=
  if n = 0 then 0 else (Nat.toDigits 10 n).length

namespace Digits

def chars (d : Digits) : List Char :=
  Nat.toDigits 10 d.coefficient

/-- The power of ten that the first digit stands for. -/
def leading (d : Digits) : Int :=
  d.exponent + digitCount d.coefficient - 1

/-- The same number without zeros at the end of its coefficient. -/
def strip (d : Digits) : Digits :=
  let zeros := (d.chars.reverse.takeWhile (· == '0')).length
  if d.coefficient = 0 then ⟨0, 0⟩ else ⟨d.coefficient / Nat.pow 10 zeros, d.exponent + zeros⟩

def fractionLength (d : Digits) : Nat :=
  (-d.exponent).toNat

end Digits

namespace Binary

/-- The power of ten of the first decimal digit of a positive number. -/
def leading (b : Binary) : Int :=
  let (num, den) := b.ratio
  if den ≤ num then (digitCount (num / den) : Int) - 1
  else -(digitCount ((den + num - 1) / num - 1) : Int)

/-- Numerator and denominator of the number divided by `10 ^ exponent`. -/
def overPowerOfTen (b : Binary) (exponent : Int) : Nat × Nat :=
  let (num, den) := b.ratio
  if 0 ≤ exponent then (num, den * Nat.pow 10 exponent.toNat) else (num * Nat.pow 10 (-exponent).toNat, den)

/-- The multiple of `10 ^ exponent` nearest to the number, a tie to the even multiple. -/
def onGrid (b : Binary) (exponent : Int) : Digits :=
  let (num, den) := b.overPowerOfTen exponent
  ⟨roundHalfEven num den, exponent⟩

/-- The number rounded to `count` digits behind the decimal point. -/
def places (b : Binary) (count : Nat) : Digits :=
  b.onGrid (-count)

/-- The number rounded to `count` significant digits. -/
def significant (b : Binary) (count : Nat) : Digits :=
  if b.mantissa = 0 then ⟨0, 0⟩
  else
    let d := b.onGrid (b.leading - (count - 1 : Nat))
    if d.coefficient = Nat.pow 10 count then ⟨Nat.pow 10 (count - 1), d.exponent + 1⟩ else d

/-- The number in quarters of its unit: the real numbers that round to it reach two quarters up, and two
quarters down, or one where the next smaller number is close. -/
def inQuarters (b : Binary) (quarters : Nat) : Binary :=
  ⟨quarters, b.exponent - 2, false⟩

/-- Whether `coefficient * 10 ^ exponent` is closer to the number than to its neighbours, or halfway to one
and the number has an even mantissa. -/
def reads (b : Binary) (coefficient : Nat) (exponent : Int) : Bool :=
  let below := if b.closeBelow then 1 else 2
  let (low, lowUnit) := (b.inQuarters (4 * b.mantissa - below)).overPowerOfTen exponent
  let (high, highUnit) := (b.inQuarters (4 * b.mantissa + 2)).overPowerOfTen exponent
  if b.mantissa % 2 = 0 then low ≤ coefficient * lowUnit ∧ coefficient * highUnit ≤ high
  else low < coefficient * lowUnit ∧ coefficient * highUnit < high

/-- Of the two multiples of `10 ^ exponent` around the number, the one that reads as it; the nearer one when
both do, and the even one of two equally near. -/
def onGrid? (b : Binary) (exponent : Int) : Option Digits :=
  let (num, den) := b.overPowerOfTen exponent
  let below := num / den
  match b.reads below exponent, b.reads (below + 1) exponent with
  | true, true => some (b.onGrid exponent)
  | true, false => some ⟨below, exponent⟩
  | false, true => some ⟨below + 1, exponent⟩
  | false, false => none

/-- The fewest decimal digits that read as the number; no number of these formats needs more than
seventeen. -/
def shortest (b : Binary) : Digits :=
  if b.mantissa = 0 then ⟨0, 0⟩
  else
    let first := b.leading
    (((List.range 17).findSome? fun (n : Nat) ↦ b.onGrid? (first - n)).getD (b.significant 17)).strip

end Binary

end Extremum.Decimal
