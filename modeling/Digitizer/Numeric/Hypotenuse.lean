import Digitizer.Numeric.Binary

/-!
# The hypotenuse of a right triangle

`hypotenuse a b` is the double nearest to the root of `a ^ 2 + b ^ 2`. The squares are added exactly, so no
intermediate result overflows or loses bits.
-/
namespace Digitizer.Numeric

/--
The double nearest to `sqrt s * 2 ^ e`. Sixty-four extra places make the integer root longer than a mantissa, and a last
odd bit stands for a remainder, so that rounding sees on which side of a half the root lies.
-/
def nearestRoot (s : Nat) (e : Int) : Float :=
  let wide := s * pow2 128
  let root := Nat.sqrt wide
  nearest (2 * root + if root * root = wide then 0 else 1) (e - 65)

/-- The length of the diagonal of an `a` by `b` screen. An infinite side outweighs a side that is no number. -/
def hypotenuse (a b : Float) : Float :=
  match Reading.ofFloat a, Reading.ofFloat b with
  | .infinite _, _ | _, .infinite _ => 1.0 / 0.0
  | .nan, _ | _, .nan => 0.0 / 0.0
  | .finite _ m e, .finite _ n f =>
    let low := min e f
    let x := m * pow2 (e - low).toNat
    let y := n * pow2 (f - low).toNat
    nearestRoot (x * x + y * y) low

end Digitizer.Numeric
