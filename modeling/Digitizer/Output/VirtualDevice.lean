import Digitizer.Action
import Digitizer.Config.Basic
import Digitizer.Output.Event
import Digitizer.Resolution

/-!
# Creating the virtual device

A virtual input device comes from a builder, which is told part by part what the device is: a touchscreen with certain axes, each
over a range of its own, and with a pointer button. What the builder makes of it is its own affair (`DeviceBuilder`).
-/
namespace Digitizer

/-- The range and the resolution of an axis. -/
structure AxisSetup where
  code : UInt16
  minimum : Int32 := 0
  maximum : Int32
  resolution : Int32 := 0
  deriving DecidableEq, Repr

/-- Who a device says it is. -/
structure DeviceIdentity where
  bus : UInt16
  vendor : UInt16
  product : UInt16
  version : UInt16
  deriving DecidableEq, Repr

/-- What a builder of devices is asked. -/
inductive BuilderCall where
  | start
  | identity (i : DeviceIdentity)
  | properties (numbers : List UInt16)
  | axes (setups : List AxisSetup)
  | keys (codes : List UInt16)
  /-- Create the device that was described, under a name. -/
  | build (name : String)
  deriving DecidableEq, Repr

/-- The states `υ` of a builder of virtual devices, which fails for reasons `ε`. -/
class DeviceBuilder (υ : Type) (ε : outParam Type) where
  call : υ → BuilderCall → Except ε Unit × υ
  /-- The name under which the system lists the device that was created, if it can be had. -/
  systemName : υ → Option String × υ

namespace VirtualDevice

/-- The property of devices that are touched directly on the screen. -/
def directProperty : UInt16 := 1

/-- The bus of virtual devices. -/
def virtualBus : UInt16 := 6

/-- The axes of the device, those of the contacts before those of the pointer. -/
def axes (p : Profile) (c : Config) : List AxisSetup :=
  let r := Resolution.ofScreen p c
  [{ code := Event.mtSlot, maximum := p.maxContacts - 1 },
    { code := Event.mtTrackingId, maximum := p.maxContacts - 1 },
    { code := Event.mtPositionX, maximum := p.maxX, resolution := r.x },
    { code := Event.mtPositionY, maximum := p.maxY, resolution := r.y },
    { code := Event.mtOrientation, maximum := 180 },
    { code := Event.mtTouchMajor, maximum := p.diagonal, resolution := r.diagonal },
    { code := Event.mtTouchMinor, maximum := p.diagonal, resolution := r.diagonal },
    { code := Event.absX, maximum := p.maxX, resolution := r.x },
    { code := Event.absY, maximum := p.maxY, resolution := r.y }]

/-- The keys of the device. -/
def keys : List UInt16 := [Event.btnTouch]

/-- The calls that describe and create the device. Its vendor and its product are those of the touch controller. -/
def description (p : Profile) (c : Config) (info : ControllerInfo) : List BuilderCall :=
  [.start, .identity { bus := virtualBus, vendor := info.vendor, product := info.product, version := 0 },
    .properties [directProperty], .axes (axes p c), .keys keys, .build p.name]

variable {υ ε : Type} [DeviceBuilder υ ε]

/-- Make one call. -/
def call (b : BuilderCall) : Action υ ε Unit := fun s =>
  let (answer, s) := DeviceBuilder.call s b
  ⟨answer, s, []⟩

/-- Tell the log under which name the device is listed. It does not matter if there is none. -/
def reportName : Action υ ε Unit := fun s =>
  match DeviceBuilder.systemName s with
  | (some name, s) => ⟨.ok (), s, [.notice (.deviceCreated name)]⟩
  | (none, s) => ⟨.ok (), s, []⟩

/-- Create the virtual touchscreen. The first call that fails ends the creation. -/
def create (p : Profile) (c : Config) (info : ControllerInfo) : Action υ ε Unit := do
  Action.each call (description p c info)
  reportName
  Action.notify (.resolutions (Resolution.ofScreen p c))

end VirtualDevice

end Digitizer
