import Digitizer.Toml.Blank

/-!
# Dates and times

A moment is a date, a time of day, or a date with a time and perhaps an offset. Each field has a fixed number of digits and a
range; days are checked against their month.
-/
namespace Digitizer.Toml

/-- A number of exactly so many digits. -/
def fixedDigits : (count : Nat) → List Char → Option (Nat × List Char)
  | 0, cs => some (0, cs)
  | count + 1, c :: cs => do
    if c.isDigit then
      let (n, rest) ← fixedDigits count cs
      some ((c.toNat - '0'.toNat) * Nat.pow 10 count + n, rest)
    else none
  | _ + 1, [] => none

/-- A number of two digits within a range. -/
def twoDigits (low high : Nat) : Parser Nat := fun cs => do
  let (n, rest) ← fixedDigits 2 cs
  if low ≤ n ∧ n ≤ high then some (n, rest) else none

/-- The number of days of a month. -/
def daysIn (year month : Nat) : Nat :=
  if month = 2 then
    if year % 4 = 0 ∧ (year % 100 ≠ 0 ∨ year % 400 = 0) then 29 else 28
  else if month = 4 ∨ month = 6 ∨ month = 9 ∨ month = 11 then 30
  else 31

/-- Leave out a date, as in `1979-05-27`. -/
def skipDate? (cs : List Char) : Option (List Char) := do
  let (year, cs) ← fixedDigits 4 cs
  let (month, cs) ← twoDigits 1 12 (← expect '-' cs)
  let (_, cs) ← twoDigits 1 (daysIn year month) (← expect '-' cs)
  some cs

/-- Leave out a time of day, as in `07:32:00` or `07:32:00.5`. A minute may have a leap second. -/
def skipTime? (cs : List Char) : Option (List Char) := do
  let (_, cs) ← twoDigits 0 23 cs
  let (_, cs) ← twoDigits 0 59 (← expect ':' cs)
  let (_, cs) ← twoDigits 0 60 (← expect ':' cs)
  match cs with
  | '.' :: c :: rest => if c.isDigit then some (rest.dropWhile Char.isDigit) else some cs
  | _ => some cs

/-- Leave out an offset from universal time, if there is one. -/
def skipOffset? : List Char → Option (List Char)
  | 'Z' :: rest | 'z' :: rest => some rest
  | '+' :: rest | '-' :: rest => do
    let (_, rest) ← twoDigits 0 23 rest
    let (_, rest) ← twoDigits 0 59 (← expect ':' rest)
    some rest
  | cs => some cs

/-- Leave out the time and the offset that may follow a date. -/
def skipDayTime? : List Char → Option (List Char)
  | 'T' :: rest | 't' :: rest | ' ' :: rest => do skipOffset? (← skipTime? rest)
  | _ => none

/-- Leave out a moment. -/
def skipMoment? (cs : List Char) : Option (List Char) :=
  match skipDate? cs with
  | some rest => some ((skipDayTime? rest).getD rest)
  | none => skipTime? cs

end Digitizer.Toml
