/-!
# Hexadecimal text

Lower-case hexadecimal digits of a natural number, filled up with zeros on the left to a given width.
-/
namespace Digitizer.Numeric

/-- The digits of `n` in base sixteen, at least `width` of them. -/
def hex (width n : Nat) : String :=
  let digits := Nat.toDigits 16 n
  String.ofList (List.replicate (width - digits.length) '0' ++ digits)

end Digitizer.Numeric
