import Digitizer.Config.Basic
import Digitizer.Ring.Info
import Digitizer.Toml.Document

/-!
# Configuration files

A configuration file says for which device it is meant, if for any, and sets some of the keys of the configuration. A file
with a key that is not known, or with a value of the wrong kind, is refused as a whole. Loading knows the format of the files
only as a way to read a text (`ConfigFormat`).
-/
namespace Digitizer

/-- The device that a preset is meant for. -/
structure DeviceId where
  vendor : UInt16
  product : UInt16
  deriving DecidableEq, Repr

/-- Whether a device is the one meant. -/
def DeviceId.accepts (m : DeviceId) (info : ControllerInfo) : Bool :=
  m.vendor == info.vendor && m.product == info.product

/-- The keys that a file sets. -/
structure Settings where
  width : Option Float := none
  height : Option Float := none
  invertX : Option Bool := none
  invertY : Option Bool := none
  disableOnPalm : Option Bool := none
  deriving BEq, Repr

/-- Override the keys that are set. -/
def Settings.apply (s : Settings) (c : Config) : Config where
  width := s.width.getD c.width
  height := s.height.getD c.height
  invertX := s.invertX.getD c.invertX
  invertY := s.invertY.getD c.invertY
  disableOnPalm := s.disableOnPalm.getD c.disableOnPalm

/-- The contents of a configuration file. -/
structure Layer where
  device : Option DeviceId := none
  settings : Settings := {}
  deriving BEq, Repr

namespace Layer
open Toml (Value)

/-- A number, which may be written without a point. -/
def float? : Value → Option Float
  | .float v => some v
  | .integer z => some (Float.ofInt z)
  | _ => none

/-- A truth value. -/
def boolean? : Value → Option Bool
  | .boolean b => some b
  | _ => none

/-- An integer of 16 bits. -/
def word? : Value → Option UInt16
  | .integer z => if 0 ≤ z ∧ z < 65536 then some (UInt16.ofNat z.toNat) else none
  | _ => none

/-- An optional value: absent, or of the right kind. -/
def optional {α : Type} (read : Value → Option α) : Option Value → Option (Option α)
  | none => some none
  | some v => (read v).map some

/-- The settings whose values are found by the given function. -/
def settingsBy (find : Nat → String → Option Value) : Option Settings := do
  let width ← optional float? (find 0 "width")
  let height ← optional float? (find 1 "height")
  let invertX ← optional boolean? (find 2 "invert_x")
  let invertY ← optional boolean? (find 3 "invert_y")
  let disableOnPalm ← optional boolean? (find 4 "disable_on_palm")
  some { width, height, invertX, invertY, disableOnPalm }

/-- Whether all keys of a table are among the given ones. -/
def onlyKeys (known : List String) (entries : List (String × Value)) : Bool :=
  entries.all fun entry => known.contains entry.1

/-- The settings of a section: a table of keys, or an array of values in the order of the keys. -/
def settings? : Value → Option Settings
  | .table entries =>
    if onlyKeys ["width", "height", "invert_x", "invert_y", "disable_on_palm"] entries then
      settingsBy fun _ key => entries.lookup key
    else none
  | .array elements => settingsBy fun place _ => elements[place]?
  | _ => none

/-- The device of a section, written in the same two ways. Both numbers are needed. -/
def device? : Value → Option DeviceId
  | .table entries => do
    if onlyKeys ["vendor", "product"] entries then
      let vendor ← word? (← entries.lookup "vendor")
      let product ← word? (← entries.lookup "product")
      some { vendor, product }
    else none
  | .array elements => do
    let vendor ← word? (← elements[0]?)
    let product ← word? (← elements[1]?)
    some { vendor, product }
  | _ => none

/-- The layer that a document describes. -/
def ofDocument? (entries : List (String × Value)) : Option Layer := do
  if onlyKeys ["device", "touch"] entries then
    let device ← optional device? (entries.lookup "device")
    let settings ← optional settings? (entries.lookup "touch")
    some { device, settings := settings.getD {} }
  else none

/-- The layer that a text describes. -/
def ofText? (text : String) : Option Layer := do ofDocument? (← Toml.parse? text)

end Layer

/-- How the text of a configuration file is read. -/
class ConfigFormat where
  /-- The layer that a text describes, if it is a configuration file at all. -/
  layer? : String → Option Layer

/-- Configuration files are written in TOML. -/
instance : ConfigFormat := ⟨Layer.ofText?⟩

end Digitizer
