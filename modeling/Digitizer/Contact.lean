import Digitizer.Numeric.Binary

/-!
# Contacts

What detection reports for one frame is a list of contacts. Lengths and positions are fractions of the screen.
-/
namespace Digitizer

/-- A pair of fractions of the screen. -/
structure Vec2 where
  x : Float := 0
  y : Float := 0
  deriving BEq, Repr

/-- The larger coordinate. -/
def Vec2.largest (v : Vec2) : Float := Numeric.larger v.x v.y

/-- The smaller coordinate. -/
def Vec2.least (v : Vec2) : Float := Numeric.smaller v.x v.y

/-- One contact on the screen. -/
structure Contact where
  /-- The tracking index that follows the contact from frame to frame. A contact without one is never reported. -/
  index : Option Nat := none
  /-- `some false` marks a rejected contact, for instance a palm. -/
  valid : Option Bool := none
  /-- `some false` marks a contact whose data must not be reported in this frame. -/
  stable : Option Bool := none
  /-- The centre, from 0 to 1 on both axes. -/
  mean : Vec2 := {}
  /-- The lengths of the two principal axes, in no particular order. -/
  size : Vec2 := {}
  /-- The rotation from 0 to 1, where 1 is half a turn. -/
  orientation : Float := 0
  deriving BEq, Repr

namespace Contact

/-- A contact counts as valid unless it was rejected. -/
def isValid (c : Contact) : Bool := c.valid.getD true

/-- A contact counts as stable unless it was marked unstable. -/
def isStable (c : Contact) : Bool := c.stable.getD true

end Contact

end Digitizer
