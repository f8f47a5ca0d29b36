import Digitizer.Output.VirtualDevice

/-!
# A builder that follows a script

A stand-in for the builder of virtual devices and the kernel behind it: the builder makes the documented requests of the kernel
interface, and the interface accepts as many of them as the script says.
-/
namespace Digitizer

/-- The requests by which the kernel learns of a device. -/
inductive SetupRequest where
  | version
  | property (number : UInt16)
  | eventType (number : UInt16)
  | axis (code : UInt16)
  | axisSetup (a : AxisSetup)
  | key (code : UInt16)
  /-- The identity of the device. -/
  | identity (bus vendor product : UInt16) (name : String)
  | create
  deriving DecidableEq, Repr

/-- The name of a request in messages. -/
def SetupRequest.text : SetupRequest → String
  | version => "UI_GET_VERSION"
  | property _ => "UI_SET_PROPBIT"
  | eventType _ => "UI_SET_EVBIT"
  | axis _ => "UI_SET_ABSBIT"
  | axisSetup _ => "UI_ABS_SETUP"
  | key _ => "UI_SET_KEYBIT"
  | identity .. => "UI_DEV_SETUP"
  | create => "UI_DEV_CREATE"

/-- Why a virtual device could not be created. -/
inductive SetupError where
  | unopened (cause : Errno)
  | refused (r : SetupRequest) (cause : Errno)
  | nameTooLong
  deriving DecidableEq, Repr

/-- The wording shown to users. A failed creation is shown with the wording of the system alone. -/
def SetupError.message : SetupError → String
  | unopened cause => s!"failed to open '/dev/uinput': {cause.message}"
  | refused .create cause => cause.message
  | refused r cause => s!"ioctl {r.text} failed ({cause.kind})"
  | nameTooLong => "uinput device name is too long"

/-- A builder over a kernel interface that accepts so many requests. -/
structure ScriptedChannel where
  /-- Why the interface cannot be opened, if it cannot. -/
  unopened : Option Errno := none
  /-- How many requests are still accepted, and why the others are refused; without it all are accepted. -/
  limit : Option (Nat × Errno) := none
  name : Except Errno String := .ok "input7"
  /-- The identity that the builder keeps for the device. -/
  identity : DeviceIdentity := { bus := 0, vendor := 0, product := 0, version := 0 }
  /-- The requests accepted so far. -/
  accepted : List SetupRequest := []

namespace ScriptedChannel

/-- A name must be shorter than this number of bytes. -/
def nameLimit : Nat := 80

/-- Open the interface as the script says. -/
def openChannel : Action ScriptedChannel SetupError Unit := do
  let s ← Action.get
  match s.unopened with
  | none => pure ()
  | some cause => Action.fail (.unopened cause)

/-- Accept or refuse a request as the script says. -/
def request (r : SetupRequest) : Action ScriptedChannel SetupError Unit := do
  let s ← Action.get
  let accepted := s.accepted ++ [r]
  match s.limit with
  | none => Action.modify fun s => { s with accepted }
  | some (0, cause) => Action.fail (.refused r cause)
  | some (count + 1, cause) => Action.modify fun s => { s with accepted, limit := some (count, cause) }

/-- The requests of a call. The kernel is told of a type of events before the axes or the keys of that type. -/
def serve : BuilderCall → Action ScriptedChannel SetupError Unit
  | .start => do
    openChannel
    request .version
  | .identity identity => Action.modify fun s => { s with identity }
  | .properties numbers => Action.each (fun number => request (.property number)) numbers
  | .axes setups => do
    request (.eventType Event.abs)
    Action.each (fun a => do request (.axis a.code); request (.axisSetup a)) setups
  | .keys codes => do
    request (.eventType Event.key)
    Action.each (fun code => request (.key code)) codes
  | .build name => do
    let s ← Action.get
    if nameLimit ≤ name.utf8ByteSize then Action.fail .nameTooLong
    else request (.identity s.identity.bus s.identity.vendor s.identity.product name)
    request .create

end ScriptedChannel

instance : DeviceBuilder ScriptedChannel SetupError where
  call s b :=
    let o := ScriptedChannel.serve b s
    (o.result, o.state)
  systemName s := (s.name.toOption, s)

end Digitizer
