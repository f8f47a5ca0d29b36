import Digitizer.Journal

/-!
# The ring of buffers

The controller writes frames into a ring of buffers in turn. A `Ring` answers calls on the slots of the ring. A
`FrameBuffer` is the memory into which frames are read, over and over.
-/
namespace Digitizer

/-- The states `ρ` of a ring of buffers. Every call names a slot, may change the ring and may be refused. -/
class Ring (ρ : Type) where
  /-- Whether the controller accepts commands. A probe that fails counts as not ready. -/
  ready : ρ → Nat → Bool × ρ
  /-- Ask for the properties of the controller. -/
  info : ρ → Nat → Except Errno ControllerInfo × ρ
  /-- Ask how many frames the controller has produced. -/
  doorbell : ρ → Nat → Except Errno UInt32 × ρ
  /-- Give the buffer back to the controller. -/
  feedback : ρ → Nat → Except Errno Unit × ρ
  /-- Ask the controller to start over. -/
  reset : ρ → Nat → Except Errno Unit × ρ
  /-- Read from the buffer into memory with room for so many bytes. -/
  read : ρ → Nat → (room : Nat) → Except Errno Bytes × ρ

/-- The number of buffers in the ring of a real controller. -/
def Ring.standardDepth : Nat := 16

/-- How often to ask whether the controller is ready before going on anyway. -/
structure ProbePolicy where
  attempts : Nat := 5
  /-- The pause after each attempt. -/
  intervalMilliseconds : Nat := 1000
  deriving DecidableEq, Repr

/-- Memory for one frame at a time. What a shorter frame does not cover keeps its old contents. -/
structure FrameBuffer where
  room : Nat
  /-- The bytes written so far; all bytes behind them are zero. -/
  contents : Bytes := []
  deriving DecidableEq, Repr

namespace FrameBuffer

/-- Copy a frame to the beginning of the buffer, as far as there is room. -/
def fill (b : FrameBuffer) (frame : Bytes) : FrameBuffer :=
  let written := frame.take b.room
  { b with contents := written ++ b.contents.drop written.length }

/-- The first bytes of the buffer. -/
def view (b : FrameBuffer) (count : Nat) : Bytes :=
  let count := min count b.room
  let known := b.contents.take count
  known ++ List.replicate (count - known.length) 0

/-- After a frame that fits, its bytes are what stands at the beginning of the buffer. -/
theorem view_fill {b : FrameBuffer} {frame : Bytes} (fits : frame.length ≤ b.room) :
    (b.fill frame).view frame.length = frame := by
  simp [fill, view, List.take_of_length_le fits, Nat.min_eq_left fits]

end FrameBuffer

end Digitizer
