/-!
# Errors of the operating system

An `Errno` is the number by which the system reports a failed call. Its `text` is the system's wording, its `message` the
wording shown to users, and its `kind` the class that diagnostic output names.
-/
namespace Digitizer

/-- The number of a failed system call. -/
structure Errno where
  number : Nat
  deriving DecidableEq, Repr

namespace Errno

/-- No such file or directory. -/
def notFound : Errno := ⟨2⟩
/-- The device has gone away or failed. -/
def inputOutput : Errno := ⟨5⟩
/-- The descriptor names no open file. -/
def badDescriptor : Errno := ⟨9⟩
/-- A path leads through something that is no directory. -/
def notDirectory : Errno := ⟨20⟩
/-- A directory was used as a file. -/
def isDirectory : Errno := ⟨21⟩
/-- The file does not understand the request. -/
def notTerminal : Errno := ⟨25⟩

/-- The device has no space left. -/
def noSpace : Errno := ⟨28⟩

/-- The system's wording. -/
def text (e : Errno) : String :=
  match e.number with
  | 1 => "Operation not permitted"
  | 2 => "No such file or directory"
  | 4 => "Interrupted system call"
  | 5 => "Input/output error"
  | 6 => "No such device or address"
  | 9 => "Bad file descriptor"
  | 11 => "Resource temporarily unavailable"
  | 12 => "Cannot allocate memory"
  | 13 => "Permission denied"
  | 14 => "Bad address"
  | 16 => "Device or resource busy"
  | 17 => "File exists"
  | 19 => "No such device"
  | 20 => "Not a directory"
  | 21 => "Is a directory"
  | 22 => "Invalid argument"
  | 24 => "Too many open files"
  | 25 => "Inappropriate ioctl for device"
  | 28 => "No space left on device"
  | 32 => "Broken pipe"
  | 110 => "Connection timed out"
  | n => s!"Unknown error {n}"

/-- The class of an error that diagnostic output names. -/
def kind (e : Errno) : String :=
  match e.number with
  | 1 | 13 => "PermissionDenied"
  | 2 => "NotFound"
  | 4 => "Interrupted"
  | 5 => "InputOutputError"
  | 11 => "WouldBlock"
  | 12 => "OutOfMemory"
  | 16 => "ResourceBusy"
  | 17 => "AlreadyExists"
  | 20 => "NotADirectory"
  | 21 => "IsADirectory"
  | 22 => "InvalidInput"
  | 28 => "StorageFull"
  | 32 => "BrokenPipe"
  | 110 => "TimedOut"
  | _ => "Uncategorized"

/-- The wording shown to users, with the number behind it. -/
def message (e : Errno) : String := s!"{e.text} (os error {e.number})"

end Errno

end Digitizer
