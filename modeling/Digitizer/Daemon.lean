import Digitizer.Detector
import Digitizer.Ring.Transport
import Digitizer.Touch.Screen

/-!
# The daemon

The daemon asks the controller how many frames it has produced and works through those it has not seen: read, detect,
update the touchscreen, give the buffer back. Transport errors end a step. A frame that cannot be detected or reported is
only counted, and many of them in a row bring a reset of the controller.
-/
namespace Digitizer

/-- Why a frame that was read gave no complete report. -/
inductive FrameFault where
  /-- Detection failed. -/
  | detection (reason : String)
  /-- The sink refused an event. -/
  | output (cause : Errno)
  deriving DecidableEq, Repr

/-- The wording in the log. -/
def FrameFault.message : FrameFault → String
  | detection reason => reason
  | output cause => cause.message

/-- A daemon over a ring of `n` buffers. -/
structure Daemon (n : Nat) (ρ σ δ : Type) where
  /-- The way to the controller. -/
  transport : Transport n ρ
  /-- The device that reports the contacts. -/
  screen : Touchscreen σ
  /-- What finds the contacts in a frame. -/
  detector : δ
  /-- The memory into which every frame is read. -/
  frame : FrameBuffer
  /-- The list to which the detector adds. -/
  contacts : List Contact := []
  /-- How many frames in a row have failed. -/
  failures : Nat := 0
  /-- How many frames have been read. -/
  frames : Nat := 0

namespace Daemon
variable {n : Nat} {ρ σ δ ε α : Type}

/-- A daemon at work. Its frame buffer has the size that the controller asks for. -/
def ofParts (transport : Transport n ρ) (screen : Touchscreen σ) (detector : δ) : Daemon n ρ σ δ where
  transport
  screen
  detector
  frame := { room := transport.info.bufferSize.toNat }

/-- So many failures in a row bring a reset. -/
def failureLimit : Nat := 50

/-- Work on the transport. -/
def onTransport (p : Action (Transport n ρ) ε α) : Action (Daemon n ρ σ δ) ε α :=
  Action.within transport (fun d transport => { d with transport }) p

/-- Work on the touchscreen. -/
def onScreen (p : Action (Touchscreen σ) ε α) : Action (Daemon n ρ σ δ) ε α :=
  Action.within screen (fun d screen => { d with screen }) p

/-- Count a frame, and tell the log now and then. -/
def countFrame (bytes : Nat) : Action (Daemon n ρ σ δ) ε Unit := do
  Action.modify fun d => { d with frames := d.frames + 1 }
  let d ← Action.get
  if d.frames = 1 then Action.notify (.firstFrame bytes)
  else if d.frames % 500 = 0 then Action.notify (.framesRead d.frames)
  else pure ()

/-- Forget the contacts of the frame before. -/
def clearContacts : Action (Daemon n ρ σ δ) ε Unit :=
  Action.modify fun d => { d with contacts := [] }

/-- Hand the first bytes of the frame buffer to the detector. -/
def detect [Detector δ] (bytes : Nat) : Action (Daemon n ρ σ δ) ε (Except String (List Contact)) := fun d =>
  let frame := d.frame.view bytes
  let found := Detector.detect d.detector frame d.contacts
  ⟨.ok found.outcome, { d with detector := found.detector, contacts := found.contacts },
    [.detection frame d.contacts found.outcome]⟩

/-- Turn the frame into events. Gives what went wrong, if anything. -/
def report [Detector δ] [Sink σ] (bytes : Nat) : Action (Daemon n ρ σ δ) ε (Option FrameFault) := do
  clearContacts
  let found ← detect bytes
  match found with
  | .error reason => pure (some (.detection reason))
  | .ok contacts => do
    let result ← Action.attempt (onScreen (Touchscreen.update contacts))
    match result with
    | .ok () => pure none
    | .error cause => pure (some (.output cause))

/-- Reset the controller after too many failures. A reset that fails is not repeated. -/
def recover [Ring ρ] : Action (Daemon n ρ σ δ) ε Unit := do
  let d ← Action.get
  Action.notify (.failuresInRow d.failures)
  Action.modify fun d => { d with failures := 0 }
  let result ← Action.attempt (onTransport Transport.reset)
  match result with
  | .ok () => pure ()
  | .error e => Action.notify (.resetFailed e.message)

/-- Count a failure, and recover after too many in a row. -/
def countFailure [Ring ρ] (fault : FrameFault) : Action (Daemon n ρ σ δ) ε Unit := do
  Action.modify fun d => { d with failures := d.failures + 1 }
  Action.notify (.frameFailed fault.message)
  let d ← Action.get
  if failureLimit ≤ d.failures then recover else pure ()

/-- Deal with the frame that has been read. -/
def handle [Ring ρ] [Detector δ] [Sink σ] (bytes : Nat) : Action (Daemon n ρ σ δ) ε Unit := do
  countFrame bytes
  let fault ← report bytes
  match fault with
  | none => Action.modify fun d => { d with failures := 0 }
  | some fault => countFailure fault

/-- Read the next frame into the frame buffer. Gives the number of bytes. -/
def readFrame [Ring ρ] : Action (Daemon n ρ σ δ) TransportError Nat := do
  let d ← Action.get
  let bytes ← onTransport (Transport.read d.frame.room)
  Action.modify fun d => { d with frame := d.frame.fill bytes }
  pure bytes.length

variable [Ring ρ] [Detector δ] [Sink σ]

/-- Read, handle and acknowledge one frame. -/
def consume : Action (Daemon n ρ σ δ) TransportError Unit := do
  let bytes ← readFrame
  handle bytes
  onTransport Transport.acknowledge

/-- Consume so many frames. -/
def consumeAll : Nat → Action (Daemon n ρ σ δ) TransportError Unit
  | 0 => pure ()
  | count + 1 => do
    consume
    consumeAll count

/--
Consume the frames from the local doorbell up to the hardware doorbell. Gives whether there were any. After a regression
both doorbells are equal, so there are none.
-/
def step : Action (Daemon n ρ σ δ) TransportError Bool := do
  let found ← onTransport Transport.pollDoorbell
  let d ← Action.get
  let pending := found.toNat - d.transport.doorbell.toNat
  consumeAll pending
  pure (decide (0 < pending))

/-- Step until the transport fails, at most so many times. Pauses between steps are not part of it. -/
def run : Nat → Action (Daemon n ρ σ δ) TransportError Unit
  | 0 => pure ()
  | polls + 1 => do
    let _ ← step
    run polls

end Daemon

end Digitizer
