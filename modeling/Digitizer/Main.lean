import Digitizer.CommandLine

/-!
# The program

Looks at the paths that the arguments lead to, lets the library decide, and prints.
-/
namespace Digitizer

/-- The number behind a failed attempt to open a path. -/
def errnoOf : IO.Error → Errno
  | .noFileOrDirectory _ code _ | .inappropriateType _ code _ | .permissionDenied _ code _
  | .noSuchThing _ code _ | .resourceExhausted _ code _ => ⟨code.toNat⟩
  | .otherError code _ | .resourceBusy code _ | .hardwareFault code _ => ⟨code.toNat⟩
  | _ => Errno.inputOutput

/-- Try to open a path for reading. -/
def probe (path : String) : IO (String × Except Errno Handle) := do
  try
    let _ ← IO.FS.Handle.mk path .read
    pure (path, .ok (.file []))
  catch e => pure (path, .error (errnoOf e))

/-- The file system as far as it was looked at. -/
def probed (found : List (String × Except Errno Handle)) : FileSystem where
  openPath path := (found.lookup path).getD (.error Errno.notFound)
  list _ := .error Errno.notFound
  isFile _ := false

end Digitizer

open Digitizer in
/-- Run the program with the given arguments. -/
def main (args : List String) : IO UInt32 := do
  let found ← (CommandLine.nodePaths args).mapM probe
  let exit := CommandLine.run (probed found) args
  (← IO.getStdout).putStr exit.out
  (← IO.getStderr).putStr exit.err
  pure exit.code
