import Digitizer.Numeric.Hex
import Digitizer.Resolution
import Digitizer.Ring.Info

/-!
# Log records

A notice is something worth telling the log. What happened is data; `Notice.level` and `Notice.text` say how it is shown.
-/
namespace Digitizer

/-- How much a log record matters. -/
inductive Level where
  | error
  | warn
  | info
  | debug
  | trace
  deriving DecidableEq, Repr

/-- The name of a level in log output. -/
def Level.name : Level → String
  | .error => "ERROR"
  | .warn => "WARN"
  | .info => "INFO"
  | .debug => "DEBUG"
  | .trace => "TRACE"

/-- Something worth telling the log. -/
inductive Notice where
  /-- A buffer node was opened. -/
  | nodeOpened (path : String)
  /-- All buffer nodes of a directory were opened. -/
  | ringOpened (depth : Nat) (directory : String)
  /-- The device has told its properties. -/
  | connected (info : ControllerInfo)
  /-- The device counts frames from an earlier number than expected. -/
  | doorbellRegressed (expected found : UInt32)
  /-- The device did not become ready in the given number of probes. -/
  | notReady (attempts : Nat)
  /-- The device is about to be reset. -/
  | resetting
  /-- A contact has an index for which there is no slot. -/
  | noSlot (index slots : Nat)
  /-- The pointer will follow another contact. -/
  | pointerMoved (old new : Nat)
  /-- The first frame has been read. -/
  | firstFrame (bytes : Nat)
  /-- So many frames have been read. -/
  | framesRead (count : Nat)
  /-- A frame could not be turned into events. -/
  | frameFailed (cause : String)
  /-- So many frames in a row have failed. -/
  | failuresInRow (count : Nat)
  /-- The reset that followed repeated failures has failed. -/
  | resetFailed (cause : String)
  /-- The first batch of events has been written. -/
  | firstBatch
  /-- So many batches of events have been written. -/
  | batchesWritten (count : Nat)
  /-- A preset matches the device. -/
  | presetUsed (path : String)
  /-- A configuration file is about to be read. -/
  | loading (path : String)
  /-- The virtual device exists under this name. -/
  | deviceCreated (name : String)
  /-- The axis resolutions of the virtual device. -/
  | resolutions (r : Resolution)
  deriving DecidableEq, Repr

namespace Notice

/-- How much a notice matters. -/
def level : Notice → Level
  | failuresInRow _ | resetFailed _ => .error
  | doorbellRegressed .. | resetting | noSlot .. | frameFailed _ => .warn
  | ringOpened .. | connected _ | firstFrame _ | firstBatch | presetUsed _ | deviceCreated _ => .info
  | notReady _ | framesRead _ | batchesWritten _ | loading _ | resolutions _ => .debug
  | nodeOpened _ | pointerMoved .. => .trace

/-- The wording of a notice. -/
def text : Notice → String
  | nodeOpened path => s!"Opened {path}"
  | ringOpened depth directory => s!"Opened {depth} buffers in {directory}"
  | connected info =>
    let vendor := Numeric.hex 4 info.vendor.toNat
    let product := Numeric.hex 4 info.product.toNat
    s!"Connected to device {vendor}:{product} (version {info.version}, buffer size {info.bufferSize}, " ++
      s!"max contacts {info.maxContacts})"
  | doorbellRegressed expected found =>
    s!"Doorbell went backwards ({expected} -> {found}), device was reset"
  | notReady attempts => s!"Device not ready after {attempts} attempts, continuing anyway"
  | resetting => "Resetting device"
  | noSlot index slots => s!"[touch] ignoring contact Some({index}), only {slots} slots available"
  | pointerMoved old new => s!"[touch] single-touch pointer {old} -> {new}"
  | firstFrame bytes => s!"[touch] first frame received ({bytes} bytes)"
  | framesRead count => s!"[touch] frames processed: {count}"
  | frameFailed cause => s!"[touch] failed to process frame: {cause}"
  | failuresInRow count => s!"[touch] {count} consecutive failures"
  | resetFailed cause => s!"[touch] reset failed: {cause}"
  | firstBatch => "[touch] first event batch (events are flowing)"
  | batchesWritten count => s!"[touch] batches written: {count}"
  | presetUsed path => s!"Using preset {path}"
  | loading path => s!"Loading {path}"
  | deviceCreated name => s!"[touch] uinput device created: /sys/devices/virtual/input/{name}"
  | resolutions r => s!"[touch] resolution {r.text}"

end Notice

end Digitizer
