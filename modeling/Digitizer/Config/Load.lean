import Digitizer.Action
import Digitizer.Config.Layer
import Digitizer.Files.Basic
import Digitizer.Numeric.Decimal

/-!
# Loading the configuration

The configuration starts from its defaults. Over them come the presets that are meant for the device, the main file and the
drop-in files, each directory in the order of the names. The first thing that goes wrong ends the loading.
-/
namespace Digitizer

/-- Where configuration comes from. -/
structure ConfigPaths where
  file : String := "/etc/ipts-touch/config.toml"
  /-- The directory of drop-in files. -/
  dropIns : String := "/etc/ipts-touch/config.d"
  presets : String := "/usr/share/ipts-touch/presets"
  deriving DecidableEq, Repr

/-- Why the configuration could not be loaded. -/
inductive ConfigError where
  /-- A directory could not be listed, or a file could not be read. -/
  | unreadable (path : String) (fault : ReadFault)
  /-- A file is not a configuration file. -/
  | malformed (path : String)
  /-- The screen has no size. -/
  | invalidSize (width height : Float)
  deriving Repr

/-- The wording shown to users. -/
def ConfigError.message : ConfigError → String
  | unreadable path fault => s!"failed to read config {path}: {fault.message}"
  | malformed path => s!"failed to parse config {path}: "
  | invalidSize width height =>
    let size := s!"{Numeric.text width}x{Numeric.text height}"
    s!"invalid screen size {size}, both dimensions must be positive"

/-- Whether a name has the extension of configuration files. A name that begins with its only dot has no extension. -/
def isTomlName (name : String) : Bool := name.endsWith ".toml" && name != ".toml"

namespace Config

/-- The configuration files of a directory in the order of their names. A missing directory has none. -/
def layerFiles (files : FileSystem) (directory : String) : Except ConfigError (List String) :=
  match files.list directory with
  | .ok names =>
    .ok (((names.filter fun name => isTomlName name && files.isFile (joinPath directory name)).mergeSort
      (fun a b => decide (a ≤ b))).map (joinPath directory))
  | .error cause =>
    if cause = Errno.notFound then .ok [] else .error (.unreadable directory (.system cause))

/-- Whether the screen has a size. What is no number is no size. -/
def hasSize (c : Config) : Bool := decide (0 < c.width) && decide (0 < c.height)

/-- Refuse a screen without a size. -/
def requireSize : Action Config ConfigError Unit := do
  let c ← Action.get
  if c.hasSize then pure () else Action.fail (.invalidSize c.width c.height)

variable [ConfigFormat]

/-- The contents of a configuration file. -/
def readLayer (files : FileSystem) (path : String) : Except ConfigError Layer :=
  match files.readText path with
  | .error fault => .error (.unreadable path fault)
  | .ok text =>
    match ConfigFormat.layer? text with
    | none => .error (.malformed path)
    | some layer => .ok layer

/-- Apply a preset if it is meant for the device. A preset for another device is read all the same. -/
def applyPreset (files : FileSystem) (info : ControllerInfo) (path : String) : Action Config ConfigError Unit := do
  let layer ← Action.ofExcept (readLayer files path)
  if layer.device.any (·.accepts info) then do
    Action.notify (.presetUsed path)
    Action.modify layer.settings.apply
  else pure ()

/-- Apply a file whatever device it is meant for. -/
def applyFile (files : FileSystem) (path : String) : Action Config ConfigError Unit := do
  Action.notify (.loading path)
  let layer ← Action.ofExcept (readLayer files path)
  Action.modify layer.settings.apply

/-- Apply the presets in the order of their names. -/
def applyPresets (files : FileSystem) (info : ControllerInfo) (directory : String) : Action Config ConfigError Unit := do
  let paths ← Action.ofExcept (layerFiles files directory)
  Action.each (applyPreset files info) paths

/-- Apply the main file, if there is one. -/
def applyMain (files : FileSystem) (path : String) : Action Config ConfigError Unit :=
  if files.isFile path then applyFile files path else pure ()

/-- Apply the drop-in files in the order of their names. -/
def applyDropIns (files : FileSystem) (directory : String) : Action Config ConfigError Unit := do
  let paths ← Action.ofExcept (layerFiles files directory)
  Action.each (applyFile files) paths

/-- Load the configuration for a device. The state becomes the configuration. -/
def load (files : FileSystem) (paths : ConfigPaths) (info : ControllerInfo) : Action Config ConfigError Unit := do
  applyPresets files info paths.presets
  applyMain files paths.file
  applyDropIns files paths.dropIns
  requireSize

end Config

end Digitizer
