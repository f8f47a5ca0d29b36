import Digitizer.Config.Basic
import Digitizer.Contact
import Digitizer.IndexSet
import Digitizer.Output.Event
import Digitizer.Profile
import Digitizer.Touch.Selector

/-!
# The events that report a frame

Pure functions from contacts to events. Nothing here depends on what was sent before or on whether a sink takes the events.
-/
namespace Digitizer

/-- A fraction of an output range in device units. -/
def scale (fraction : Float) (limit : Int32) : Int32 :=
  Numeric.roundInt32 (fraction * Float.ofInt limit.toInt)

/-- A point of the screen, with the inverted axes turned round. -/
def Config.place (c : Config) (v : Vec2) : Vec2 where
  x := if c.invertX then 1 - v.x else v.x
  y := if c.invertY then 1 - v.y else v.y

/-- A rotation on the screen. Inverting one axis reverses it, inverting both leaves it. -/
def Config.turn (c : Config) (rotation : Float) : Float :=
  if c.invertX != c.invertY then 1 - rotation else rotation

/-- The number by which events name a tracking index. Indices with a slot are unchanged. -/
def slotNumber (index : Nat) : Int32 := Int32.ofNat index

/-- Whether the virtual device has a slot for a contact. A contact without an index needs none. -/
def Contact.fits (slots : Nat) (c : Contact) : Bool := c.index.all (· < slots)

namespace Report

/-- A contact is down in its slot, at a place, with a rotation and a size. -/
def down (config : Config) (p : Profile) (index : Nat) (c : Contact) : List Event :=
  let place := config.place c.mean
  [.axis Event.mtSlot (slotNumber index),
    .axis Event.mtTrackingId (slotNumber index),
    .axis Event.mtPositionX (scale place.x p.maxX),
    .axis Event.mtPositionY (scale place.y p.maxY),
    .axis Event.mtOrientation (scale (config.turn c.orientation) 180),
    .axis Event.mtTouchMajor (scale c.size.largest p.diagonal),
    .axis Event.mtTouchMinor (scale c.size.least p.diagonal)]

/-- The slot of an index is lifted. -/
def release (index : Nat) : List Event :=
  [.axis Event.mtSlot (slotNumber index), .axis Event.mtTrackingId (-1)]

/-- One contact: reported if it is valid, lifted if it was rejected, left alone without an index or while unstable. -/
def contact (config : Config) (p : Profile) (c : Contact) : List Event :=
  match c.index with
  | none => []
  | some index =>
    if !c.isStable then []
    else if c.isValid then down config p index c
    else release index

/-- The contacts of a frame in their order, then the lifted indices in ascending order. -/
def multitouch (config : Config) (p : Profile) (frame : List Contact) (lifted : IndexSet) : List Event :=
  frame.flatMap (contact config p) ++ lifted.toList.flatMap release

/-- The pointer: pressed and moved, left as it is, or released. -/
def pointer (config : Config) (p : Profile) : Pointer → List Event
  | .down c =>
    let place := config.place c.mean
    [.touch true, .axis Event.absX (scale place.x p.maxX), .axis Event.absY (scale place.y p.maxY)]
  | .hold => []
  | .up => [.touch false]

/-- Every index of a set is lifted, and the pointer is released. -/
def releaseAll (tracked : IndexSet) : List Event := tracked.toList.flatMap release ++ [.touch false]

end Report

end Digitizer
