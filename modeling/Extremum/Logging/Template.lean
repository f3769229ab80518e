import Extremum.Text.Quoted

/-!
# Templates of records

A record of a log is written through a template: text with directives in it. A directive starts with a percent
sign, names a field between round brackets, says how wide the field is, and ends with a letter for the kind of
value. Two percent signs stand for one.

Whether a template will do is decided before any record is written, and by another grammar: it has to mention one
field, with a name of word characters and digits of any script, and nothing else is looked at (`mentionsField`).
-/

namespace Extremum.Logging

inductive Field
  | text (s : String)
  | number (n : Int)

/-- A directive of a template. -/
structure Directive where
  /-- The name of the field. -/
  key : Option String
  /-- The characters that change the layout. -/
  flags : List Char
  /-- The least number of characters. -/
  width : Option Nat
  /-- The largest number of characters of a text. -/
  precision : Option Nat
  /-- Whether a number is left to be given apart. -/
  starred : Bool
  /-- The letter at the end. -/
  conversion : Char

inductive Piece
  | literal (c : Char)
  | directive (d : Directive)

/-! ## Reading -/

/-- What stands before the bracket that closes `depth` open ones and the one in front, and what follows it. -/
def splitClosing? (depth : Nat) : List Char → Option (List Char × List Char)
  | [] => none
  | c :: rest =>
    if c == ')' && depth == 0 then some ([], rest)
    else
      let depth := if c == '(' then depth + 1 else if c == ')' then depth - 1 else depth
      (splitClosing? depth rest).map fun (name, after) ↦ (c :: name, after)

/-- A name between round brackets, if there is one, and what follows it. Brackets in a name come in pairs. -/
def takeKey : List Char → Option String × List Char
  | '(' :: rest =>
    match splitClosing? 0 rest with
    | some (name, after) => (some (String.ofList name), after)
    | none => (none, '(' :: rest)
  | cs => (none, cs)

def isFlag (c : Char) : Bool :=
  ['#', '0', '+', ' ', '-'].contains c

/-- A number or a star, and what follows it. -/
def takeNumber : List Char → Option Nat × Bool × List Char
  | '*' :: rest => (none, true, rest)
  | cs =>
    let digits := cs.takeWhile (·.isDigit)
    (if digits.isEmpty then none else some (digits.foldl (fun n c ↦ 10 * n + (c.toNat - 48)) 0), false,
      cs.dropWhile (·.isDigit))

/-- A precision behind a point, and what follows it. -/
def takePrecision : List Char → Option Nat × Bool × List Char
  | '.' :: rest =>
    let (number, starred, after) := takeNumber rest
    (some (number.getD 0), starred, after)
  | cs => (none, false, cs)

/-- What follows a letter for the length of a number, which says nothing. -/
def skipLength : List Char → List Char
  | 'h' :: rest | 'l' :: rest | 'L' :: rest => rest
  | cs => cs

/-- The directive behind a percent sign, and what follows it. -/
def directive? (cs : List Char) : Option (Directive × List Char) :=
  let (key, cs) := takeKey cs
  let flags := cs.takeWhile isFlag
  let (width, starredWidth, cs) := takeNumber (cs.dropWhile isFlag)
  let (precision, starredPrecision, cs) := takePrecision cs
  match skipLength cs with
  | conversion :: rest =>
    some (⟨key, flags, width, precision, starredWidth || starredPrecision, conversion⟩, rest)
  | [] => none

theorem length_dropWhile_le (p : Char → Bool) (cs : List Char) : (cs.dropWhile p).length ≤ cs.length :=
  (List.dropWhile_sublist p).length_le

theorem length_lt_of_splitClosing? {depth : Nat} {cs name after : List Char}
    (h : splitClosing? depth cs = some (name, after)) : after.length < cs.length := by
  induction cs generalizing depth name with
  | nil => cases h
  | cons c rest ih =>
    unfold splitClosing? at h
    split at h
    · cases h
      exact Nat.lt_succ_self _
    · obtain ⟨⟨name', after'⟩, hrest, heq⟩ := Option.map_eq_some_iff.1 h
      cases heq
      exact Nat.lt_succ_of_lt (ih hrest)

theorem length_takeKey_le (cs : List Char) : (takeKey cs).2.length ≤ cs.length := by
  unfold takeKey
  split
  · rename_i rest
    split
    · rename_i name after h
      exact Nat.le_succ_of_le (Nat.le_of_lt (length_lt_of_splitClosing? h))
    · exact Nat.le_refl _
  · exact Nat.le_refl _

theorem length_takeNumber_le (cs : List Char) : (takeNumber cs).2.2.length ≤ cs.length := by
  unfold takeNumber
  split
  · simp
  · exact length_dropWhile_le _ _

theorem length_takePrecision_le (cs : List Char) : (takePrecision cs).2.2.length ≤ cs.length := by
  unfold takePrecision
  split
  · rename_i rest
    exact Nat.le_succ_of_le (length_takeNumber_le rest)
  · exact Nat.le_refl _

theorem length_skipLength_le (cs : List Char) : (skipLength cs).length ≤ cs.length := by
  unfold skipLength
  split <;> simp

/-- A directive takes at least one character. -/
theorem length_lt_of_directive? {cs rest : List Char} {d : Directive}
    (h : directive? cs = some (d, rest)) : rest.length < cs.length := by
  simp only [directive?] at h
  split at h
  · rename_i conversion after hcs
    simp only [Option.some.injEq, Prod.mk.injEq] at h
    have hkey := length_takeKey_le cs
    have hflags := length_dropWhile_le isFlag (takeKey cs).2
    have hwidth := length_takeNumber_le ((takeKey cs).2.dropWhile isFlag)
    have hprecision := length_takePrecision_le (takeNumber ((takeKey cs).2.dropWhile isFlag)).2.2
    have hlength := length_skipLength_le
      (takePrecision (takeNumber ((takeKey cs).2.dropWhile isFlag)).2.2).2.2
    rw [hcs, List.length_cons] at hlength
    rw [← h.2]
    omega
  · exact absurd h (by simp)

/-- The pieces of a template; a percent sign that starts no directive spoils it. -/
def pieces? : List Char → Option (List Piece)
  | [] => some []
  | '%' :: '%' :: rest => (pieces? rest).map (.literal '%' :: ·)
  | '%' :: rest =>
    match h : directive? rest with
    | some (d, after) =>
      have := length_lt_of_directive? h
      (pieces? after).map (.directive d :: ·)
    | none => none
  | c :: rest => (pieces? rest).map (.literal c :: ·)
termination_by cs => cs.length
decreasing_by all_goals simp_all; try omega

/-! ## Validity -/

/-- The letters that may end a directive. -/
def conversions : List Char :=
  "diouxefgcrsa%".toList

/-- Whether a character may end a directive, in either case. The capital letter with a dot and the small one without
are other cases of `i`, and the long letter is one of `s`. -/
def isConversion (c : Char) : Bool :=
  conversions.contains c.toLower || ['İ', 'ı', 'ſ'].contains c

/-- What follows a name of word characters between round brackets. -/
def skipName? : List Char → Option (List Char)
  | '(' :: rest =>
    match rest.takeWhile Text.isWord, rest.dropWhile Text.isWord with
    | _ :: _, ')' :: after => some after
    | _, _ => none
  | _ => none

/-- What follows a star or the digits of a number. -/
def skipCount? : List Char → Option (List Char)
  | '*' :: rest => some rest
  | c :: rest => if Text.isDecimal c then some (rest.dropWhile Text.isDecimal) else none
  | [] => none

/-- What follows a point and a number; a point without a number is not passed over. -/
def skipPrecision (cs : List Char) : List Char :=
  match cs with
  | '.' :: rest => (skipCount? rest).getD cs
  | _ => cs

/-- Whether a field is mentioned behind a percent sign: its name, the characters that change the layout, a width, a
precision, and a letter for the kind of value. -/
def startsField (cs : List Char) : Bool :=
  match skipName? cs with
  | none => false
  | some cs =>
    let cs := cs.dropWhile isFlag
    (skipPrecision ((skipCount? cs).getD cs)).head?.any isConversion

/-- Whether a template mentions a field anywhere. -/
def mentionsField : List Char → Bool
  | [] => false
  | c :: rest => (c == '%' && startsField rest) || mentionsField rest

/-! ## Filling in -/

/-- Pads a text to the width of a directive, on the side that its flags ask for. -/
def Directive.pad (d : Directive) (cs : List Char) : List Char :=
  let missing := (d.width.getD 0) - cs.length
  if d.flags.contains '-' then cs ++ List.replicate missing ' ' else List.replicate missing ' ' ++ cs

def Directive.numberChars (d : Directive) (n : Int) : List Char :=
  let sign := if n < 0 then ['-'] else if d.flags.contains '+' then ['+']
    else if d.flags.contains ' ' then [' '] else []
  let digits := Nat.toDigits 10 n.natAbs
  let digits := List.replicate (d.precision.getD 0 - digits.length) '0' ++ digits
  let zeros := if d.flags.contains '0' && !d.flags.contains '-' then
    (d.width.getD 0) - sign.length - digits.length else 0
  d.pad (sign ++ List.replicate zeros '0' ++ digits)

def Directive.textChars (d : Directive) (cs : List Char) : List Char :=
  d.pad (match d.precision with
    | some n => cs.take n
    | none => cs)

/-- What a directive stands for, given the fields of a record; a field that is not there, or of another kind
than the directive asks for, cannot be written. Texts, and whole numbers in base ten, are all that is written here:
other bases, fractions and single characters are left out, and so are directives without a name. -/
def Directive.fill? (d : Directive) (field? : String → Option Field) : Option (List Char) :=
  if d.starred then none
  else do
    let field ← field? (← d.key)
    match field, d.conversion with
    | .text s, 's' => some (d.textChars s.toList)
    | .text s, 'r' => some (d.textChars (Text.quoted s).toList)
    | .text s, 'a' => some (d.textChars (Text.quotedPlainly s).toList)
    | .number n, 's' | .number n, 'r' | .number n, 'a' => some (d.textChars (toString n).toList)
    | .number n, 'd' | .number n, 'i' | .number n, 'u' => some (d.numberChars n)
    | _, _ => none

/-- The text that a template gives for the fields of a record. -/
def fill? (template : String) (field? : String → Option Field) : Option String := do
  let pieces ← pieces? template.toList
  let parts ← pieces.mapM fun
    | .literal c => some [c]
    | .directive d => d.fill? field?
  return String.ofList parts.flatten

end Extremum.Logging
