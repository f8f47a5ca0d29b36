import Digitizer.Config.Load
import Digitizer.Ring.Node
import Digitizer.Text.Quoted

/-!
# The command line

`CommandLine.parse` reads the arguments from left to right; the first one that asks for help or the version, or that is
wrong, decides. `CommandLine.run` goes on to open the ring of buffers.
-/
namespace Digitizer

/-- An error of the system in diagnostic output. -/
def Errno.diagnostic (e : Errno) : String :=
  s!"Os \x7b code: {e.number}, kind: {e.kind}, message: {Text.quoted e.text} \x7d"

/-- A failed start in diagnostic output. -/
def OpenError.diagnostic : OpenError → String
  | node f => s!"Open \x7b path: {Text.quoted f.path}, source: {f.cause.diagnostic} \x7d"
  | transport e => s!"Transport \x7b op: {e.command.name}, source: {e.cause.diagnostic} \x7d"

namespace CommandLine

/-- The options that take a value. -/
inductive Key where
  | deviceDir
  | config
  | configDir
  | presetDir
  deriving DecidableEq, Repr

/-- The option with a given name. -/
def Key.ofName? : String → Option Key
  | "device-dir" => some .deviceDir
  | "config" => some .config
  | "config-dir" => some .configDir
  | "preset-dir" => some .presetDir
  | _ => none

/-- What the arguments ask for. -/
structure Options where
  /-- The values that were given, each key once. -/
  values : List (Key × String) := []
  verbose : Bool := false
  deriving DecidableEq, Repr

/-- Why reading the arguments ended early. -/
inductive Stop where
  | help
  | version
  | usage
  deriving DecidableEq, Repr

namespace Options

/-- The directory of the buffer nodes. -/
def deviceDir (o : Options) : String := (o.values.lookup .deviceDir).getD Profile.standard.deviceDir

/-- Where configuration comes from. -/
def paths (o : Options) : ConfigPaths :=
  let standard : ConfigPaths := {}
  { file := (o.values.lookup .config).getD standard.file
    dropIns := (o.values.lookup .configDir).getD standard.dropIns
    presets := (o.values.lookup .presetDir).getD standard.presets }

/-- Take a value. No value is empty, and no key is given twice. -/
def give (o : Options) (key : Key) (value : String) : Except Stop Options :=
  if value.isEmpty || (o.values.lookup key).isSome then .error .usage
  else .ok { o with values := (key, value) :: o.values }

/-- Ask for more log output, which can be done once. -/
def raise (o : Options) : Except Stop Options :=
  if o.verbose then .error .usage else .ok { o with verbose := true }

end Options

/-- Options of one letter, several of which may follow one dash. -/
def shorts : List Char → Options → Except Stop Options
  | [], o => .ok o
  | 'v' :: cs, o => do shorts cs (← o.raise)
  | 'h' :: _, _ => .error .help
  | 'V' :: _, _ => .error .version
  | _ :: _, _ => .error .usage

/-- An option without a value. -/
def flag (name : String) (o : Options) : Except Stop Options :=
  match name with
  | "verbose" => o.raise
  | "help" => .error .help
  | "version" => .error .version
  | _ => .error .usage

/-- Whether an argument can be the value of the option before it. -/
def isValue (arg : String) : Bool := arg == "-" || !arg.startsWith "-"

/-- The name of a long option, and the value behind an equals sign if there is one. -/
def splitLong (text : List Char) : String × Option String :=
  let name := String.ofList (text.takeWhile (· != '='))
  match text.dropWhile (· != '=') with
  | [] => (name, none)
  | _ :: value => (name, some (String.ofList value))

/-- Read arguments after those that have given the options at hand. There are no arguments but options. -/
def parseFrom (args : List String) (o : Options) : Except Stop Options :=
  match args with
  | [] => .ok o
  | "--" :: rest => if rest.isEmpty then .ok o else .error .usage
  | arg :: rest =>
    match arg.toList with
    | '-' :: '-' :: text =>
      match splitLong text with
      | (name, some value) =>
        match Key.ofName? name with
        | some key => do parseFrom rest (← o.give key value)
        | none => .error .usage
      | (name, none) =>
        match Key.ofName? name, rest with
        | some key, value :: rest =>
          if isValue value then do parseFrom rest (← o.give key value) else .error .usage
        | some _, [] => .error .usage
        | none, rest => do parseFrom rest (← flag name o)
    | '-' :: c :: cs => do parseFrom rest (← shorts (c :: cs) o)
    | _ => .error .usage
termination_by args.length

/-- Read the arguments. -/
def parse (args : List String) : Except Stop Options := parseFrom args {}

/-- The help text. -/
def helpText : String :=
  "Forward Intel Precise Touch contacts to a uinput multitouch device\n" ++
  "\n" ++
  "Usage: ipts-touch [OPTIONS]\n" ++
  "\n" ++
  "Options:\n" ++
  "      --device-dir <DEVICE_DIR>  Directory holding the numbered IPTS buffer nodes\n" ++
  "      --config <CONFIG>          Main configuration file [default: /etc/ipts-touch/config.toml]\n" ++
  "      --config-dir <CONFIG_DIR>  Directory with drop-in configuration snippets " ++
  "[default: /etc/ipts-touch/config.d]\n" ++
  "      --preset-dir <PRESET_DIR>  Directory with per-device presets " ++
  "[default: /usr/share/ipts-touch/presets]\n" ++
  "  -v, --verbose                  Enable debug logging\n" ++
  "  -h, --help                     Print help\n" ++
  "  -V, --version                  Print version\n"

/-- The version text. -/
def versionText : String := "ipts-touch 0.1.0\n"

/-- What is shown after wrong arguments. -/
def usageText : String :=
  "error: invalid arguments\n\nUsage: ipts-touch [OPTIONS]\n\nFor more information, try '--help'.\n"

/-- How the program ends. -/
structure Exit where
  code : UInt32
  out : String := ""
  err : String := ""
  deriving DecidableEq, Repr

/-- The paths that a run with these arguments opens. -/
def nodePaths (args : List String) : List String :=
  match parse args with
  | .error _ => []
  | .ok o => (List.range Ring.standardDepth).map (Node.pathOf o.deviceDir)

/-- Open the ring of buffers in a directory of files that have no driver behind them. -/
def openRing (files : FileSystem) (o : Options) :
    Outcome (Transport Ring.standardDepth NodeRing) OpenError Unit :=
  Transport.openDirectory files o.deviceDir { ring := { driver := none } }

/-- Run the program up to the start of the ring. -/
def run (files : FileSystem) (args : List String) : Exit :=
  match parse args with
  | .error .help => { code := 0, out := helpText }
  | .error .version => { code := 0, out := versionText }
  | .error .usage => { code := 2, err := usageText }
  | .ok o =>
    match (openRing files o).result with
    | .ok () => { code := 0 }
    | .error e => { code := 1, err := "Error: " ++ e.diagnostic ++ "\n" }

end CommandLine

end Digitizer
