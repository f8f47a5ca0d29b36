import Digitizer.Contact
import Digitizer.Errno
import Digitizer.Notice
import Digitizer.Output.Event

/-!
# The journal of a run

Everything that a run does to the outside is an entry of its journal, in order: what it asks of the ring of buffers and
how the ring answers, what it hands to the detector, which events it emits and what it tells the log.
-/
namespace Digitizer

/-- The contents of a frame. -/
abbrev Bytes := List UInt8

/-- A call on one buffer of the ring, with its answer. -/
inductive Call where
  /-- Does the device accept commands? -/
  | ready (answer : Bool)
  | info (answer : Except Errno ControllerInfo)
  | doorbell (answer : Except Errno UInt32)
  | feedback (answer : Except Errno Unit)
  | reset (answer : Except Errno Unit)
  /-- A read into a buffer with `room` bytes, and the bytes delivered. -/
  | read (room : Nat) (answer : Except Errno Bytes)

/-- One entry of a journal. -/
inductive Entry where
  | notice (n : Notice)
  | call (slot : Nat) (c : Call)
  /-- A frame was handed to the detector with a list of contacts, which the detector extended or failed to extend. -/
  | detection (frame : Bytes) (before : List Contact) (outcome : Except String (List Contact))
  /-- The sink took an event. -/
  | emitted (e : Event)
  /-- The sink refused an event. -/
  | refused (e : Event) (cause : Errno)

/-- What a run did, in order. -/
abbrev Journal := List Entry

namespace Entry

/-- The event that the sink took, if the entry is about one. -/
def event? : Entry → Option Event
  | emitted e => some e
  | _ => none

/-- The log record, if the entry is one. -/
def notice? : Entry → Option Notice
  | notice n => some n
  | _ => none

/-- The call on the ring, with its slot, if the entry is one. -/
def call? : Entry → Option (Nat × Call)
  | call slot c => some (slot, c)
  | _ => none

end Entry

namespace Journal

/-- The events that reached the sink. -/
def events (j : Journal) : List Event := j.filterMap Entry.event?

/-- The log records. -/
def notices (j : Journal) : List Notice := j.filterMap Entry.notice?

/-- The calls on the ring, each with its slot. -/
def calls (j : Journal) : List (Nat × Call) := j.filterMap Entry.call?

@[simp] theorem events_nil : Journal.events [] = [] := rfl
@[simp] theorem events_append (j k : Journal) : Journal.events (j ++ k) = j.events ++ k.events :=
  List.filterMap_append
@[simp] theorem notices_nil : Journal.notices [] = [] := rfl
@[simp] theorem notices_append (j k : Journal) : Journal.notices (j ++ k) = j.notices ++ k.notices :=
  List.filterMap_append
@[simp] theorem calls_nil : Journal.calls [] = [] := rfl
@[simp] theorem calls_append (j k : Journal) : Journal.calls (j ++ k) = j.calls ++ k.calls :=
  List.filterMap_append

end Journal

end Digitizer
