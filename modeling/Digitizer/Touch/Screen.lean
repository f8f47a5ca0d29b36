import Digitizer.Action
import Digitizer.Output.Sink
import Digitizer.Touch.Report
import Digitizer.Touch.Tracker

/-!
# The touchscreen

A touchscreen turns frames of contacts into events for a sink. Each update reports the contacts in their slots, moves the
pointer and ends the frame. A disabled device, or a palm where palms block, lifts everything instead.

An update advances the tracker before it emits anything, and stops at the first event that the sink refuses.
-/
namespace Digitizer

/-- The state of the event output. -/
structure Touchscreen (σ : Type) where
  sink : σ
  config : Config := {}
  profile : Profile := Profile.standard
  tracker : Tracker := {}
  selector : Selector := {}
  enabled : Bool := true

namespace Touchscreen
variable {σ ε : Type}

/-- Whether any contact is on the screen. -/
def active (d : Touchscreen σ) : Bool := !d.tracker.current.isEmpty

/-- The contacts of a frame that the device can report: those without an index, and those with a slot. -/
def slotted (d : Touchscreen σ) (contacts : List Contact) : List Contact :=
  contacts.filter (Contact.fits d.profile.slots)

/-- Whether a palm in a frame blocks all input. -/
def palmBlocks (d : Touchscreen σ) (frame : List Contact) : Bool :=
  d.config.disableOnPalm && frame.any (!·.isValid)

/-- Tell the log about every contact for which there is no slot. -/
def reportUnslotted (contacts : List Contact) : Action (Touchscreen σ) ε Unit := do
  let d ← Action.get
  Action.each (fun index => Action.notify (.noSlot index d.profile.slots))
    ((contacts.filter (!Contact.fits d.profile.slots ·)).filterMap (·.index))

/-- Advance the tracker by a frame. -/
def track (frame : List Contact) : Action (Touchscreen σ) ε Unit :=
  Action.modify fun d => { d with tracker := d.tracker.advance frame }

/-- Let the selector choose what the pointer does. -/
def point (frame : List Contact) : Action (Touchscreen σ) ε Pointer := do
  let d ← Action.get
  Action.within selector (fun d selector => { d with selector })
    (Selector.choose frame d.tracker.gone d.enabled)

variable [Sink σ]

/-- Offer one event to the sink. -/
def emit (e : Event) : Action (Touchscreen σ) Errno Unit := fun d =>
  let receipt := Sink.take d.sink e
  let entry := match receipt.result with
    | .ok () => Entry.emitted e
    | .error cause => Entry.refused e cause
  ⟨receipt.result, { d with sink := receipt.sink }, entry :: receipt.notices.map Entry.notice⟩

/-- Offer events to the sink in order, up to the first that it refuses. -/
def emitAll (events : List Event) : Action (Touchscreen σ) Errno Unit := Action.each emit events

/-- End the frame. -/
def sync : Action (Touchscreen σ) Errno Unit := emit Event.report

/-- Lift every contact that was down in this or the previous frame, and release the pointer. -/
def releaseAll : Action (Touchscreen σ) Errno Unit := do
  let d ← Action.get
  emitAll (Report.releaseAll d.tracker.remembered)

/-- Report the contacts of a frame in their slots and through the pointer. -/
def present (frame : List Contact) : Action (Touchscreen σ) Errno Unit := do
  let d ← Action.get
  emitAll (Report.multitouch d.config d.profile frame d.tracker.gone)
  let pointer ← point frame
  emitAll (Report.pointer d.config d.profile pointer)

/-- Report a frame that has been tracked, or lift everything where input is not wanted. -/
def presentUnlessBlocked (frame : List Contact) : Action (Touchscreen σ) Errno Unit := do
  let d ← Action.get
  if d.enabled && !d.palmBlocks frame then present frame else releaseAll

/-- Turn one frame of contacts into events. -/
def update (contacts : List Contact) : Action (Touchscreen σ) Errno Unit := do
  let d ← Action.get
  let frame := d.slotted contacts
  reportUnslotted contacts
  track frame
  presentUnlessBlocked frame
  sync

/--
Lift everything, and ignore contacts until the device is enabled again. The tracker forgets its contacts only when all
releases have been taken, so a disable that failed can be repeated.
-/
def disable : Action (Touchscreen σ) Errno Unit := do
  Action.modify fun d => { d with enabled := false }
  releaseAll
  sync
  Action.modify fun d => { d with tracker := d.tracker.clear }

omit [Sink σ] in
/-- Report contacts again. -/
def enable : Action (Touchscreen σ) ε Unit := Action.modify fun d => { d with enabled := true }

/-- What can be asked of a touchscreen. -/
inductive Request where
  | update (contacts : List Contact)
  | disable
  | enable

/-- Serve one request. -/
def serve : Request → Action (Touchscreen σ) Errno Unit
  | .update contacts => update contacts
  | .disable => disable
  | .enable => enable

end Touchscreen

end Digitizer
