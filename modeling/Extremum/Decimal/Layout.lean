import Extremum.Decimal.Digits

/-!
# Written numbers

Three ways of writing a double: the shortest digits that read back (`shortest`), six significant digits with
the zeros at the end dropped (`general`), and one digit before the point and three behind it (`scientific`).
They share how digits are laid out around a decimal point and how an exponent is written.
-/

namespace Extremum.Decimal

/-- An exponent: the letter, a sign, and at least two digits. -/
def exponentText (exponent : Int) : String :=
  let digits := toString exponent.natAbs
  let padded := if digits.length < 2 then "0" ++ digits else digits
  (if exponent < 0 then "e-" else "e+") ++ padded

/-- The digits before and behind the decimal point; a number below one has a zero before it. -/
def Digits.split (d : Digits) : List Char × List Char :=
  let chars := d.chars
  if 0 ≤ d.exponent then (chars ++ List.replicate d.exponent.toNat '0', [])
  else
    let behind := d.fractionLength
    if behind < chars.length then (chars.take (chars.length - behind), chars.drop (chars.length - behind))
    else (['0'], List.replicate (behind - chars.length) '0' ++ chars)

/-- The first digit, and the digits that follow it. -/
def Digits.mantissa (d : Digits) : List Char × List Char :=
  (d.chars.take 1, d.chars.drop 1)

/-- Digits with a point between them, and no point where nothing follows. -/
def joinPoint (before behind : List Char) : String :=
  if behind.isEmpty then String.ofList before else String.ofList (before ++ '.' :: behind)

/-- Puts the sign before a written magnitude. -/
def signed (negative : Bool) (magnitude : String) : String :=
  if negative then "-" ++ magnitude else magnitude

/-- The text of a double, given the text of a magnitude. -/
def textWith (magnitudeText : Binary → String) (x : Float) : String :=
  match anatomy x with
  | .nan => "nan"
  | .infinite negative => signed negative "inf"
  | .finite negative magnitude => signed negative (magnitudeText magnitude)

/-- The fewest digits that read back: positional from `10 ^ -4` up to `10 ^ 16` and always with a point, an
exponent outside that range. -/
def magnitudeShortest (b : Binary) : String :=
  let d := b.shortest
  if d.coefficient = 0 then "0.0"
  else if -4 ≤ d.leading ∧ d.leading < 16 then
    let (before, behind) := d.split
    joinPoint before (if behind.isEmpty then ['0'] else behind)
  else
    let (before, behind) := d.mantissa
    joinPoint before behind ++ exponentText d.leading

/-- The fewest digits that read back as the same double. -/
def shortest (x : Float) : String :=
  textWith magnitudeShortest x

/-- Six significant digits without zeros at the end: positional while the rounded number has its first digit
between `10 ^ -4` and `10 ^ 5`, an exponent outside that range. -/
def general (x : Float) : String :=
  textWith (fun b ↦
    let d := (b.significant 6).strip
    if d.coefficient = 0 then "0"
    else if -4 ≤ d.leading ∧ d.leading < 6 then
      let (before, behind) := d.split
      joinPoint before behind
    else
      let (before, behind) := d.mantissa
      joinPoint before behind ++ exponentText d.leading) x

/-- One digit before the point, three behind it, and an exponent. -/
def scientific (x : Float) : String :=
  textWith (fun b ↦
    let d := b.significant 4
    if d.coefficient = 0 then "0.000e+00"
    else
      let (before, behind) := d.mantissa
      joinPoint before behind ++ exponentText d.leading) x

end Extremum.Decimal
