/-!
# Doubles as exact dyadic numbers

A finite double is `± m * 2 ^ e` with a natural `m` and an integer `e`. `Reading.ofFloat` takes a double apart,
`nearest` puts the nearest double to `m * 2 ^ e` together, and `roundInt32` rounds a double to a device unit. All three
work on naturals, so closed instances of them evaluate.
-/
namespace Digitizer.Numeric

/-- A power of two. -/
def pow2 (k : Nat) : Nat := Nat.pow 2 k

/-- What the bits of a double stand for. -/
inductive Reading where
  | nan
  | infinite (negative : Bool)
  /-- The value `± mantissa * 2 ^ exponent`. -/
  | finite (negative : Bool) (mantissa : Nat) (exponent : Int)
  deriving DecidableEq, Repr

/-- Take a double apart: one bit of sign, eleven of exponent, fifty-two of fraction. -/
def Reading.ofFloat (v : Float) : Reading :=
  let bits := v.toBits.toNat
  let negative := bits / pow2 63 == 1
  let scale : Nat := bits / pow2 52 % pow2 11
  let fraction : Nat := bits % pow2 52
  if scale = 2047 then
    if fraction = 0 then .infinite negative else .nan
  else if scale = 0 then .finite negative fraction (-1074)
  else .finite negative (pow2 52 + fraction) ((scale : Int) - 1075)

/-- Whether a double is no number. It is the only value that differs from itself. -/
def isNaN (v : Float) : Bool := v != v

/-- The larger of two doubles. One that is no number gives way to the other, and of two equal ones the first is taken. -/
def larger (a b : Float) : Float :=
  if isNaN a then b else if b > a then b else a

/-- The smaller of two doubles, under the same rules as `larger`. -/
def smaller (a b : Float) : Float :=
  if isNaN a then b else if b < a then b else a

/-- The natural number nearest to `m * 2 ^ e`; a half goes up. -/
def roundHalfUp (m : Nat) (e : Int) : Nat :=
  if 0 ≤ e then m * pow2 e.toNat
  else (2 * m + pow2 (-e).toNat) / (2 * pow2 (-e).toNat)

/-- The 32-bit integer nearest to a given one. -/
def clampInt32 (z : Int) : Int32 :=
  Int32.ofInt (max Int32.minValue.toInt (min Int32.maxValue.toInt z))

/--
The device unit nearest to a double. A half goes away from zero, a value beyond the range of 32 bits becomes the end
of the range on its side, and what is no number becomes 0.
-/
def roundInt32 (v : Float) : Int32 :=
  match Reading.ofFloat v with
  | .nan => 0
  | .infinite true => Int32.minValue
  | .infinite false => Int32.maxValue
  | .finite true m e => clampInt32 (-(roundHalfUp m e : Int))
  | .finite false m e => clampInt32 (roundHalfUp m e)

/-- The natural number nearest to `m / 2 ^ k`; a half goes to the even neighbour. -/
def roundHalfEven (m k : Nat) : Nat :=
  let q := m / pow2 k
  let twice := 2 * (m % pow2 k)
  if twice < pow2 k then q
  else if twice = pow2 k then q + q % 2
  else q + 1

/--
The double nearest to `m * 2 ^ e`, a half going to the even neighbour. The unit of the result is `2 ^ u`, the finest
that leaves at most 53 bits. A mantissa that rounds up to `2 ^ 53` carries into the exponent field by itself.
-/
def nearest (m : Nat) (e : Int) : Float :=
  if m = 0 then 0.0
  else
    let u := max (e + Nat.log2 m - 52) (-1074)
    let mantissa := if u ≤ e then m * pow2 (e - u).toNat else roundHalfEven m (u - e).toNat
    let bits := if mantissa < pow2 52 then mantissa else (u + 1074).toNat * pow2 52 + mantissa
    Float.ofBits (UInt64.ofNat (min bits (2047 * pow2 52)))

end Digitizer.Numeric
