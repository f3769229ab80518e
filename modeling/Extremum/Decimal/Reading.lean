import Extremum.Decimal.Binary
import Extremum.Text.Character

/-!
# Reading numbers

The texts that stand for a number: digits of any script, single underscores between digits, a point, an
exponent, the words for infinity and for the undefined number, and blank space around it all. Whole numbers
and doubles are converted into each other here too.
-/

namespace Extremum.Decimal

open Extremum.Text

/-- Characters with the digits of all scripts replaced by the ordinary ones. -/
def ordinaryDigits (cs : List Char) : List Char :=
  cs.map fun c ↦ ((digitValue? c).map fun d ↦ Char.ofNat (48 + d)).getD c

/-- The digits at the front, where one underscore may stand between two digits, and what follows them. -/
def takeDigits : List Char → List Char × List Char
  | [] => ([], [])
  | [c] => if c.isDigit then ([c], []) else ([], [c])
  | c :: d :: rest =>
    if c.isDigit then
      if d == '_' then
        match rest with
        | e :: _ =>
          if e.isDigit then
            let (digits, after) := takeDigits rest
            (c :: digits, after)
          else ([c], d :: rest)
        | [] => ([c], d :: rest)
      else
        let (digits, after) := takeDigits (d :: rest)
        (c :: digits, after)
    else ([], c :: d :: rest)

def digitsValue (digits : List Char) : Nat :=
  digits.foldl (fun n c ↦ 10 * n + (c.toNat - 48)) 0

/-- A sign at the front, true for minus, and what follows it. -/
def takeSign : List Char → Bool × List Char
  | '-' :: rest => (true, rest)
  | '+' :: rest => (false, rest)
  | cs => (false, cs)

/-- The exponent that the rest of a number consists of; no exponent is zero. -/
def readExponent? : List Char → Option Int
  | [] => some 0
  | c :: rest =>
    if c == 'e' || c == 'E' then
      let (negative, rest) := takeSign rest
      let (digits, after) := takeDigits rest
      if digits.isEmpty || !after.isEmpty then none
      else some (if negative then -(digitsValue digits : Int) else digitsValue digits)
    else none

def fromDecimal (coefficient : Nat) (exponent : Int) : Float :=
  let digits := (Nat.toDigits 10 coefficient).length
  if coefficient = 0 then 0
  else if 400 < exponent + digits then 1.0 / 0.0
  else if exponent + digits < -400 then 0
  else Float.ofScientific coefficient (exponent < 0) exponent.natAbs

/-- An unsigned number: digits with a point somewhere, at least one digit, and an exponent. -/
def readMagnitude? (cs : List Char) : Option Float :=
  let word := cs.map Char.toLower
  if word == "inf".toList || word == "infinity".toList then some (1.0 / 0.0)
  else if word == "nan".toList then some (0.0 / 0.0)
  else
    let (whole, rest) := takeDigits cs
    let (fraction, rest) := match rest with
      | '.' :: rest => takeDigits rest
      | _ => ([], rest)
    if whole.isEmpty && fraction.isEmpty then none
    else do
      let exponent ← readExponent? rest
      return fromDecimal (digitsValue (whole ++ fraction)) (exponent - fraction.length)

/-- The double that a text stands for. -/
def read? (s : String) : Option Float := do
  let (negative, cs) := takeSign (ordinaryDigits (trim surroundsNumber s.toList))
  let magnitude ← readMagnitude? cs
  return if negative then -magnitude else magnitude

/-- The whole number that a text stands for. -/
def readInt? (s : String) : Option Int :=
  let (negative, cs) := takeSign (ordinaryDigits (trim surroundsNumber s.toList))
  let (digits, after) := takeDigits cs
  if digits.isEmpty || !after.isEmpty then none
  else some (if negative then -(digitsValue digits : Int) else digitsValue digits)

/-- The double nearest to a whole number, unless the number is too large. -/
def ofInt? (n : Int) : Option Float :=
  match Format.double.round ⟨n.natAbs, 0, false⟩ with
  | some b => some (if n < 0 then -b.toFloat else b.toFloat)
  | none => none

def truncate? (x : Float) : Option Int :=
  match anatomy x with
  | .finite negative magnitude =>
    let (num, den) := magnitude.ratio
    let whole : Int := (num / den : Nat)
    some (if negative then -whole else whole)
  | _ => none

end Extremum.Decimal
