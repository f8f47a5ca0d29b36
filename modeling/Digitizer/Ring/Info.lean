/-!
# Controller information

What a touch controller says of itself, and the size of that answer in memory.
-/
namespace Digitizer

/-- The fixed properties of a touch controller. -/
structure ControllerInfo where
  vendor : UInt16 := 0
  product : UInt16 := 0
  version : UInt32 := 0
  /-- The size of a frame buffer in bytes. -/
  bufferSize : UInt32 := 0
  maxContacts : UInt8 := 0
  /-- Bytes without a meaning yet. -/
  reserved : Vector UInt8 19 := Vector.replicate 19 0
  deriving DecidableEq, Repr

/-- The bytes that the information takes: its fields follow each other without gaps. -/
def ControllerInfo.byteSize : Nat := 2 + 2 + 4 + 4 + 1 + 19

end Digitizer
