/-!
# Screen configuration
-/
namespace Digitizer

/-- What the user sets for a screen. -/
@[ext] structure Config where
  /-- The width of the screen in centimetres. -/
  width : Float := 0
  /-- The height of the screen in centimetres. -/
  height : Float := 0
  /-- Whether the horizontal axis runs the other way. -/
  invertX : Bool := false
  /-- Whether the vertical axis runs the other way. -/
  invertY : Bool := false
  /-- Whether a rejected contact lifts all contacts for as long as it stays. -/
  disableOnPalm : Bool := false
  deriving BEq, Repr

end Digitizer
