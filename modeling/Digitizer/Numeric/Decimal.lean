import Digitizer.Numeric.Binary

/-!
# The shortest decimal that reads back

`shortest` gives the fewest significant digits whose decimal is read back as the same double, and of the decimals with
that many digits the nearest one. `positional` writes it without an exponent.
-/
namespace Digitizer.Numeric

/-- A power of ten. -/
def pow10 (k : Nat) : Nat := Nat.pow 10 k

/-- The value `digits * 10 ^ exponent`. -/
structure Decimal where
  digits : Nat
  exponent : Int
  deriving DecidableEq, Repr

/-- Move up to `count` trailing zeros of the digits into the exponent. -/
def Decimal.trim (d : Decimal) : (count : Nat) → Decimal
  | 0 => d
  | count + 1 =>
    if d.digits % 10 = 0 then Decimal.trim ⟨d.digits / 10, d.exponent + 1⟩ count else d

/-- The order of `a * 10 ^ i` and `b * 2 ^ j`, by cross multiplication. -/
def compareScaled (a : Nat) (i : Int) (b : Nat) (j : Int) : Ordering :=
  compare (a * pow10 i.toNat * pow2 (-j).toNat) (b * pow2 j.toNat * pow10 (-i).toNat)

/--
Whether a decimal is read back as the double `m * 2 ^ e`: it lies between the midpoints to the neighbouring doubles,
which count as inside when `m` is even. Below a power of two the neighbour is at half the distance.
-/
def readsBack (m : Nat) (e : Int) (d : Decimal) : Bool :=
  let low := if m = pow2 52 ∧ -1074 < e then 4 * m - 1 else 4 * m - 2
  let above := compareScaled d.digits d.exponent low (e - 2)
  let below := compareScaled d.digits d.exponent (4 * m + 2) (e - 2)
  let ends := m % 2 == 0
  (above == .gt || (ends && above == .eq)) && (below == .lt || (ends && below == .eq))

/-- The whole part of `m * 2 ^ e / 10 ^ i`. -/
def wholePart (m : Nat) (e i : Int) : Nat :=
  m * pow2 e.toNat * pow10 (-i).toNat / (pow2 (-e).toNat * pow10 i.toNat)

/-- The number of places before the point in `m * 2 ^ e`; zero or less when the value is below one. -/
def magnitude (m : Nat) (e : Int) : Int :=
  let whole := wholePart m e 0
  if whole = 0 then
    -- Below one, the leading zeros are counted on the digits after the point.
    let width := (e.natAbs : Nat)
    ((Nat.toDigits 10 (wholePart m e (-width))).length : Int) - width
  else (Nat.toDigits 10 whole).length

/-- The decimal on the grid `10 ^ i` that reads back as `m * 2 ^ e` and is nearest to it, the upper one of two equally near. -/
def onGrid? (m : Nat) (e i : Int) : Option Decimal :=
  let low : Decimal := ⟨wholePart m e i, i⟩
  let high : Decimal := ⟨low.digits + 1, i⟩
  match readsBack m e low, readsBack m e high with
  | false, false => none
  | true, false => some low
  | false, true => some high
  | true, true =>
    some (if compareScaled (low.digits + high.digits) i (2 * m) e == .gt then low else high)

/--
The fewest digits that read back as `m * 2 ^ e`; a grid of seventeen digits always has some. A value just below a power
of ten may read back from that power, whose zeros are then dropped.
-/
def shortest (m : Nat) (e : Int) : Decimal :=
  let places := magnitude m e
  let grids := (List.range 17).map fun n => places - (n + 1 : Nat)
  ((grids.findSome? (onGrid? m e)).getD ⟨wholePart m e (places - 17), places - 17⟩).trim 17

/-- Write a decimal with a point where one is needed and without an exponent. -/
def Decimal.positional (d : Decimal) : String :=
  let written := Nat.toDigits 10 d.digits
  if 0 ≤ d.exponent then String.ofList (written ++ List.replicate d.exponent.toNat '0')
  else
    let places := (-d.exponent).toNat
    let padded := List.replicate (places + 1 - written.length) '0' ++ written
    let whole := padded.length - places
    String.ofList (padded.take whole ++ '.' :: padded.drop whole)

/-- The text of a double in messages: the shortest digits that read back, positional, without a bare `.0`. -/
def text (v : Float) : String :=
  match Reading.ofFloat v with
  | .nan => "NaN"
  | .infinite negative => if negative then "-inf" else "inf"
  | .finite negative m e =>
    let size := if m = 0 then "0" else (shortest m e).positional
    if negative then "-" ++ size else size

end Digitizer.Numeric
