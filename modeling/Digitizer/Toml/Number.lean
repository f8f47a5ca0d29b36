import Digitizer.Toml.Text
import Digitizer.Toml.Value

/-!
# Numbers

Underscores may stand between digits. Integers have 64 bits; a float that is too large is refused when it is positive and
infinite when it is negative.
-/
namespace Digitizer.Toml

/-- Further digits of a number, with underscores between them. -/
def moreDigits (isDigit : Char → Bool) : List Char → List Char × List Char
  | '_' :: c :: rest =>
    if isDigit c then
      let (digits, left) := moreDigits isDigit rest
      (c :: digits, left)
    else ([], '_' :: c :: rest)
  | c :: rest =>
    if isDigit c then
      let (digits, left) := moreDigits isDigit rest
      (c :: digits, left)
    else ([], c :: rest)
  | [] => ([], [])

/-- The digits of a number, at least one. -/
def digitRun (isDigit : Char → Bool) : Parser (List Char)
  | c :: rest =>
    if isDigit c then
      let (digits, left) := moreDigits isDigit rest
      some (c :: digits, left)
    else none
  | [] => none

/-- The value of digits in a base. -/
def digitsValue (base : Nat) (digits : List Char) : Nat :=
  digits.foldl (fun n c => base * n + (hexDigit? c).getD 0) 0

/-- A sign, and whether it is a minus. -/
def sign : List Char → Bool × List Char
  | '-' :: rest => (true, rest)
  | '+' :: rest => (false, rest)
  | cs => (false, cs)

/-- The digits of a whole number: a number of several digits does not begin with a zero. -/
def wholeDigits : Parser (List Char)
  | '0' :: rest => some (['0'], rest)
  | cs => digitRun Char.isDigit cs

/-- The digits behind a point, if there is one. -/
def fraction? : List Char → Option (List Char × List Char)
  | '.' :: rest => digitRun Char.isDigit rest
  | cs => some ([], cs)

/-- An exponent, if there is one. -/
def exponent? : List Char → Option (Int × List Char)
  | 'e' :: rest | 'E' :: rest => do
    let (negative, rest) := sign rest
    let (digits, rest) ← digitRun Char.isDigit rest
    let size := digitsValue 10 digits
    some (if negative then -size else size, rest)
  | cs => some (0, cs)

/--
The double nearest to `digits * 10 ^ exponent`. Far outside the range of doubles the answer is known from the number of
digits alone.
-/
def decimalFloat (digits : List Char) (exponent : Int) : Float :=
  let significant := digits.dropWhile (· == '0')
  let magnitude := exponent + significant.length
  if significant.isEmpty || magnitude < -400 then 0.0
  else if 400 < magnitude then 1.0 / 0.0
  else Float.ofScientific (digitsValue 10 significant) (exponent < 0) exponent.natAbs

/-- An integer, if it has 64 bits. -/
def integer? (negative : Bool) (size : Nat) : Option Value :=
  let z : Int := if negative then -size else size
  if Int64.minValue.toInt ≤ z ∧ z ≤ Int64.maxValue.toInt then some (.integer z) else none

/-- A float, unless it is too large. -/
def float? (negative : Bool) (size : Float) : Option Value :=
  if negative then some (.float (-size))
  else if size == 1.0 / 0.0 then none
  else some (.float size)

/-- An integer in another base, behind the marks of the base. -/
def basedInteger (base : Nat) : Parser Value := fun cs => do
  let isDigit c := (hexDigit? c).any (· < base)
  let (digits, rest) ← digitRun isDigit cs
  let value ← integer? false (digitsValue base digits)
  some (value, rest)

/-- A number in base ten, or one of the named floats. -/
def signedNumber : Parser Value := fun cs => do
  let (negative, cs) := sign cs
  match cs with
  | 'i' :: 'n' :: 'f' :: rest => some (.float (if negative then -1.0 / 0.0 else 1.0 / 0.0), rest)
  | 'n' :: 'a' :: 'n' :: rest => some (.float (0.0 / 0.0), rest)
  | cs =>
    let (whole, afterWhole) ← wholeDigits cs
    let (places, afterPlaces) ← fraction? afterWhole
    let (exponent, rest) ← exponent? afterPlaces
    if rest.length = afterWhole.length then
      let value ← integer? negative (digitsValue 10 whole)
      some (value, rest)
    else
      let value ← float? negative (decimalFloat (whole ++ places) (exponent - places.length))
      some (value, rest)

/-- A number. -/
def number : Parser Value
  | '0' :: 'x' :: rest => basedInteger 16 rest
  | '0' :: 'o' :: rest => basedInteger 8 rest
  | '0' :: 'b' :: rest => basedInteger 2 rest
  | cs => signedNumber cs

end Digitizer.Toml
