import Extremum.Decimal.Layout
import Extremum.Error
import Extremum.Tensor

/-!
# Written tensors

A tensor of doubles is written between brackets, its numbers aligned in one common form and its lines
wrapped. The form is chosen from the finite entries: positional, or with an exponent when the entries are very
large, very small or far apart. A tensor of more than a thousand entries shows the ends of its long axes only.
-/

namespace Extremum.Tensor

open Extremum.Decimal

def maxPlaces : Nat := 8

/-- Tensors with more entries are abridged. -/
def abridgeAbove : Nat := 1000

/-- How many items an abridged axis shows at each end. -/
def edge : Nat := 3

def lineWidth : Nat := 75

/-- The common form of the numbers of a tensor. -/
inductive Form
  /-- Digits around a point, padded on both sides to the given widths. -/
  | positional (before behind : Nat)
  /-- A mantissa with a fixed number of places, and an exponent with a fixed number of digits. -/
  | exponent (before places digits : Nat)
deriving DecidableEq, Repr

/-- Width of everything from behind the decimal point on. -/
def Form.behind : Form → Nat
  | .positional _ behind => behind
  | .exponent _ places digits => places + digits + 2

/-- Width of everything before the decimal point. -/
def Form.before : Form → Nat
  | .positional before _ => before
  | .exponent before _ _ => before

/-- The same form with at least `width` places before the point. -/
def Form.widen (width : Nat) : Form → Form
  | .positional before behind => .positional (max before width) behind
  | .exponent before places digits => .exponent (max before width) places digits

/-- The shortest digits of a number, rounded to `maxPlaces` places where they have more. -/
def positionalDigits (b : Binary) : Digits :=
  let d := b.shortest
  if maxPlaces < d.fractionLength then (b.places maxPlaces).strip else d

/-- The shortest digits of a number, rounded to `maxPlaces` places behind the first digit where there are
more. -/
def mantissaDigits (b : Binary) : Digits :=
  let d := b.shortest
  if maxPlaces + 1 < d.chars.length then (b.significant (maxPlaces + 1)).strip else d

/-- The digits of an exponent, at least two. -/
def exponentDigits (count : Nat) (exponent : Int) : List Char :=
  let digits := Nat.toDigits 10 exponent.natAbs
  List.replicate (max 2 count - digits.length) '0' ++ digits

/-- The sign and magnitude of a finite double. -/
def finite? (x : Float) : Option (Bool × Binary) :=
  match anatomy x with
  | .finite negative magnitude => some (negative, magnitude)
  | _ => none

def widest (widths : List Nat) : Nat :=
  widths.foldl max 0

/-- Whether numbers are written with an exponent: one is at least `10 ^ 8`, or below `10 ^ -4` and not zero,
or the largest is more than a thousand times the smallest that is not zero. -/
def needsExponent (xs : List Float) : Bool :=
  match (xs.filter (·.isFinite)).map Float.abs |>.filter (· != 0) with
  | [] => false
  | x :: rest =>
    let largest := rest.foldl (fun a b ↦ if a < b then b else a) x
    let smallest := rest.foldl (fun a b ↦ if b < a then b else a) x
    largest ≥ 1e8 || smallest < 1e-4 || largest / smallest > 1000

/-- The form of the finite numbers among some doubles; without any, nothing stands on either side of the
point. -/
def finiteForm (xs : List Float) : Form :=
  let numbers := xs.filterMap finite?
  if needsExponent xs then
    let digits := numbers.map fun (_, b) ↦ mantissaDigits b
    .exponent (widest (numbers.map fun (negative, _) ↦ negative.toNat + 1))
      (widest (digits.map fun d ↦ d.chars.length - 1))
      (widest (digits.map fun d ↦ (exponentDigits 2 d.leading).length))
  else
    let parts := numbers.map fun (negative, b) ↦ (negative.toNat, (positionalDigits b).split)
    .positional (widest (parts.map fun (sign, before, _) ↦ sign + before.length))
      (widest (parts.map fun (_, _, behind) ↦ behind.length))

/-- The form of some doubles: wide enough for the words that stand for numbers that are not finite. -/
def formOf (xs : List Float) : Form :=
  let form := finiteForm xs
  if xs.all (·.isFinite) then form
  else form.widen ((if xs.any fun x ↦ x == -(1.0 / 0.0) then 4 else 3) - (form.behind + 1))

def padLeft (width : Nat) (cs : List Char) : List Char :=
  List.replicate (width - cs.length) ' ' ++ cs

def padRight (width : Nat) (cs : List Char) : List Char :=
  cs ++ List.replicate (width - cs.length) ' '

/-- The sign of a number as it is written. -/
def signChars (negative : Bool) : List Char :=
  if negative then ['-'] else []

/-- A number in a common form. -/
def Form.word (form : Form) (x : Float) : String :=
  match anatomy x with
  | .nan => String.ofList (padLeft (form.before + 1 + form.behind) "nan".toList)
  | .infinite negative =>
    String.ofList (padLeft (form.before + 1 + form.behind) (signChars negative ++ "inf".toList))
  | .finite negative b =>
    match form with
    | .positional before behind =>
      let (whole, fraction) := (positionalDigits b).split
      String.ofList (padLeft before (signChars negative ++ whole) ++ '.' :: padRight behind fraction)
    | .exponent before places digits =>
      let d := b.significant (places + 1)
      let (first, rest) := d.mantissa
      let fraction := rest ++ List.replicate (places - rest.length) '0'
      let exponent := if d.coefficient = 0 then 0 else d.leading
      String.ofList (padLeft before (signChars negative ++ first) ++ '.' :: fraction
        ++ ['e', if exponent < 0 then '-' else '+'] ++ exponentDigits digits exponent)

/-- How the items of a tensor are set apart and indented. -/
structure Setting where
  /-- What stands between two items. -/
  separator : String := " "
  /-- By how much lines after the first are indented, the opening bracket included. -/
  margin : Nat := 1
  /-- How wide a line may be. -/
  width : Nat := lineWidth

def trimRight (s : String) : String :=
  String.ofList (s.toList.reverse.dropWhile (· == ' ')).reverse

/-- Adds a word to the line being filled, on a new line where it does not fit and that helps. -/
def placeWord (limit : Nat) (indent : String) (done : List String × String) (word : String) :
    List String × String :=
  let (lines, line) := done
  if limit < line.length + word.length && indent.length < line.length then
    (lines ++ [trimRight line], indent ++ word)
  else (lines, line ++ word)

/-- The items of an axis with an ellipsis between its ends if it is abridged. -/
def withEllipsis (abridged : Bool) (n : Nat) (items : List String) : List String :=
  if abridged && 2 * edge < n then items.take edge ++ "..." :: items.drop edge else items

/-- The words of one row on lines of at most `width` characters, bracket included. -/
def fillRow (setting : Setting) (margin width : Nat) (words : List String) : String :=
  let indent := String.ofList (List.replicate margin ' ')
  let (lines, line) := (words.zipIdx).foldl (fun done (word, i) ↦
    let (lines, line) := placeWord (width - 1) indent done word
    (lines, if i + 1 < words.length then line ++ setting.separator else line)) ([], indent)
  let text := String.intercalate "\n" (lines ++ [line])
  "[" ++ String.ofList (text.toList.drop margin) ++ "]"

/-- The entries of a tensor, abridged to the ends of its long axes. -/
def shown (abridged : Bool) {α : Type} : List Nat → List α → List α
  | [], entries => entries
  | n :: shape, entries =>
    let items := pieces (volume shape) n entries
    let kept := if abridged && 2 * edge < n then items.take edge ++ items.drop (n - edge) else items
    kept.flatMap (shown abridged shape)

/-- Lays out the words of the shown entries along the axes of a shape. -/
def layOut (setting : Setting) (abridged : Bool) : List Nat → Nat → Nat → List String → String
  | [], _, _, words => words.headD ""
  | [n], margin, width, words => fillRow setting margin width (withEllipsis abridged n words)
  | n :: shape, margin, width, words =>
    let count := if abridged then min n (2 * edge) else n
    let rows := pieces (words.length / count) count words
    let texts := rows.map (layOut setting abridged shape (margin + 1) (width - 1))
    let indent := String.ofList (List.replicate margin ' ')
    let between := trimRight setting.separator ++ String.ofList (List.replicate shape.length '\n') ++ indent
    "[" ++ String.intercalate between (withEllipsis abridged n texts) ++ "]"

/-- The text of a tensor in a setting. -/
def textIn (setting : Setting) (t : Tensor Float) : String :=
  if t.size = 0 then "[]"
  else
    let abridged := abridgeAbove < t.size
    let entries := shown abridged t.shape t.data
    let form := formOf entries
    layOut setting abridged t.shape setting.margin setting.width (entries.map form.word)

def text (t : Tensor Float) : String :=
  textIn {} t

def vectorText (entries : List Float) : String :=
  (vector entries).text

/-! ## Whole numbers -/

/-- The text of a tensor of whole numbers in a setting, all padded to one width. -/
def wholeTextIn (setting : Setting) (t : Tensor Int) : String :=
  if t.size = 0 then "[]"
  else
    let abridged := abridgeAbove < t.size
    let words := (shown abridged t.shape t.data).map toString
    let width := (words.map String.length).foldl max 0
    let padded := words.map fun word ↦ String.ofList (padLeft width word.toList)
    layOut setting abridged t.shape setting.margin setting.width padded

def wholeText (t : Tensor Int) : String :=
  wholeTextIn {} t

/-! ## Full texts -/

/-- How a full text sets its items apart and indents them. -/
def fullSetting : Setting :=
  ⟨", ", 7, lineWidth - 1⟩

/-- A body between round brackets, followed by what cannot be seen from the body: the shape when items are left
out or there are none, and the kind of numbers when it is not the usual one. -/
def enclosed (body : String) (shape : List Nat) (size : Nat) (kind : String) : String :=
  let shapeNote := if (size = 0 ∧ shape ≠ [0]) ∨ abridgeAbove < size then ["shape=" ++ shapeText shape] else []
  let kindNote := if size = 0 then ["dtype=" ++ kind] else []
  let start := "array(" ++ body
  match shapeNote ++ kindNote with
  | [] => start ++ ")"
  | notes =>
    let start := start ++ ","
    let notes := String.intercalate ", " notes ++ ")"
    let lastLine := (start.toList.reverse.takeWhile (· != '\n')).length
    if lineWidth < lastLine + notes.length + 1 then
      start ++ "\n" ++ String.ofList (List.replicate fullSetting.margin ' ') ++ notes
    else start ++ " " ++ notes

def fullText (t : Tensor Float) : String :=
  enclosed (textIn fullSetting t) t.shape t.size "float64"

def wholeFullText (t : Tensor Int) : String :=
  enclosed (wholeTextIn fullSetting t) t.shape t.size "int64"

end Extremum.Tensor
