/-!
# Input events

The events of the kernel's input layer are triples of a type, a code and a value. This module names the codes in use.
-/
namespace Digitizer

/-- An input event. -/
structure Event where
  type : UInt16
  code : UInt16
  value : Int32
  deriving DecidableEq, Repr

namespace Event

/-- Events that structure the stream. -/
def syn : UInt16 := 0x00
/-- Events of keys and buttons. -/
def key : UInt16 := 0x01
/-- Events of absolute axes. -/
def abs : UInt16 := 0x03

/-- The code that ends a frame. -/
def synReport : UInt16 := 0

/-- The button that is pressed while the pointer is down. -/
def btnTouch : UInt16 := 0x14a

/-- The position of the pointer. -/
def absX : UInt16 := 0x00
@[inherit_doc absX] def absY : UInt16 := 0x01
/-- The slot that the next multitouch events are about. -/
def mtSlot : UInt16 := 0x2f
/-- The longer axis of a contact. -/
def mtTouchMajor : UInt16 := 0x30
/-- The shorter axis of a contact. -/
def mtTouchMinor : UInt16 := 0x31
/-- The rotation of a contact. -/
def mtOrientation : UInt16 := 0x34
/-- The position of a contact. -/
def mtPositionX : UInt16 := 0x35
@[inherit_doc mtPositionX] def mtPositionY : UInt16 := 0x36
/-- The identity of the contact in a slot; negative when the slot is lifted. -/
def mtTrackingId : UInt16 := 0x39

/-- A value of an absolute axis. -/
def axis (code : UInt16) (value : Int32) : Event := ⟨abs, code, value⟩

/-- A press or release of the pointer. -/
def touch (down : Bool) : Event := ⟨key, btnTouch, if down then 1 else 0⟩

/-- The end of a frame. -/
def report : Event := ⟨syn, synReport, 0⟩

/-- Whether an event ends a frame, whatever its value. -/
def isReport (e : Event) : Bool := e.type == syn && e.code == synReport

/-- The named types and codes. -/
def names : List (String × UInt16) :=
  [("EV_SYN", syn), ("EV_KEY", key), ("EV_ABS", abs), ("SYN_REPORT", synReport), ("BTN_TOUCH", btnTouch),
    ("ABS_X", absX), ("ABS_Y", absY), ("ABS_MT_SLOT", mtSlot), ("ABS_MT_TOUCH_MAJOR", mtTouchMajor),
    ("ABS_MT_TOUCH_MINOR", mtTouchMinor), ("ABS_MT_ORIENTATION", mtOrientation),
    ("ABS_MT_POSITION_X", mtPositionX), ("ABS_MT_POSITION_Y", mtPositionY),
    ("ABS_MT_TRACKING_ID", mtTrackingId)]

end Event

end Digitizer
