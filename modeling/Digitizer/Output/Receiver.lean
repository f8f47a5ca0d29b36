import Digitizer.Output.Event

/-!
# What the receiver of events believes

The kernel keeps, for every slot, whether a contact is down in it and the last value of each of its axes. A slot event says
which slot the following multitouch events are about; a tracking id that is not negative puts the slot down, a negative one
lifts it. Beside the slots there is the pointer with a button and two axes.
-/
namespace Digitizer

/-- What is known of one slot. -/
structure SlotState where
  down : Bool := false
  /-- The last value of each axis that was reported. -/
  axis : UInt16 → Option Int32 := fun _ => none

/-- What is known after some events. -/
structure Receiver where
  /-- The slot that multitouch events are about. -/
  current : Int32 := 0
  slot : Int32 → SlotState := fun _ => {}
  /-- Whether the pointer is pressed. -/
  pressed : Bool := false
  x : Option Int32 := none
  y : Option Int32 := none

namespace Receiver

/-- The codes whose values belong to the current slot. -/
def slotAxes : List UInt16 :=
  [Event.mtPositionX, Event.mtPositionY, Event.mtOrientation, Event.mtTouchMajor, Event.mtTouchMinor]

/-- Change what is known of the current slot. -/
def onSlot (f : SlotState → SlotState) (r : Receiver) : Receiver :=
  { r with slot := fun s => if s = r.current then f (r.slot s) else r.slot s }

/-- A value of an absolute axis. Codes that are not known change nothing. -/
def receiveAxis (r : Receiver) (code : UInt16) (value : Int32) : Receiver :=
  if code = Event.mtSlot then { r with current := value }
  else if code = Event.mtTrackingId then r.onSlot fun s => { s with down := decide (0 ≤ value) }
  else if code ∈ slotAxes then
    r.onSlot fun s => { s with axis := fun c => if c = code then some value else s.axis c }
  else if code = Event.absX then { r with x := some value }
  else if code = Event.absY then { r with y := some value }
  else r

/-- Take one event into account. -/
def receive (r : Receiver) (e : Event) : Receiver :=
  if e.type = Event.abs then r.receiveAxis e.code e.value
  else if e.type = Event.key ∧ e.code = Event.btnTouch then { r with pressed := e.value != 0 }
  else r

/-- Take events into account one after another. -/
def replay (r : Receiver) (events : List Event) : Receiver := events.foldl receive r

@[simp] theorem replay_nil (r : Receiver) : r.replay [] = r := rfl
@[simp] theorem replay_cons (r : Receiver) (e : Event) (es : List Event) :
    r.replay (e :: es) = (r.receive e).replay es := rfl
@[simp] theorem replay_append (r : Receiver) (es fs : List Event) :
    r.replay (es ++ fs) = (r.replay es).replay fs := List.foldl_append

end Receiver

end Digitizer
