import Digitizer.Config.Basic
import Digitizer.Numeric.Hypotenuse
import Digitizer.Profile

/-!
# Axis resolutions

How many device units fall on a millimetre of the screen, along each axis and along the diagonal.
-/
namespace Digitizer

/-- Units per millimetre. -/
structure Resolution where
  x : Int32
  y : Int32
  diagonal : Int32
  deriving DecidableEq, Repr

namespace Resolution

/-- The units per millimetre of an extent of `units` over a length of `centimetres`. -/
def perMillimetre (units : Int32) (centimetres : Float) : Int32 :=
  Numeric.roundInt32 (Float.ofInt units.toInt / (centimetres * 10))

/-- The resolutions of a profile on a screen. -/
def ofScreen (p : Profile) (c : Config) : Resolution where
  x := perMillimetre p.maxX c.width
  y := perMillimetre p.maxY c.height
  diagonal := perMillimetre p.diagonal (Numeric.hypotenuse c.width c.height)

/-- The form in which log records show resolutions. -/
def text (r : Resolution) : String :=
  s!"Resolution \x7b x: {r.x}, y: {r.y}, diagonal: {r.diagonal} \x7d"

end Resolution

end Digitizer
