import Digitizer.Errno
import Digitizer.Journal

/-!
# Files

What the library wants from a file system: to open a path, to list a directory, and to tell files from everything else.
Paths are texts whose parts are divided by slashes.
-/
namespace Digitizer

/-- The path of an entry of a directory. -/
def joinPath (directory name : String) : String :=
  if directory.isEmpty || directory.endsWith "/" then directory ++ name else directory ++ "/" ++ name

/-- What stands behind an open path. -/
inductive Handle where
  /-- A file with these bytes still to be read. -/
  | file (rest : Bytes)
  | directory
  deriving DecidableEq, Repr

/-- A view of a file system at one moment. -/
structure FileSystem where
  /-- Open a path for reading. -/
  openPath : String → Except Errno Handle
  /-- The names in a directory, in the order in which the system lists them. -/
  list : String → Except Errno (List String)
  /-- Whether a path leads to a regular file. -/
  isFile : String → Bool

/-- Why a text could not be read. -/
inductive ReadFault where
  | system (cause : Errno)
  | notUtf8
  deriving DecidableEq, Repr

/-- The wording shown to users. -/
def ReadFault.message : ReadFault → String
  | system cause => cause.message
  | notUtf8 => "stream did not contain valid UTF-8"

/-- Read at most so many bytes. -/
def Handle.read (room : Nat) : Handle → Except Errno Bytes × Handle
  | file rest => (.ok (rest.take room), file (rest.drop room))
  | directory => (.error Errno.isDirectory, directory)

namespace FileSystem

/-- The whole contents of a file as a text. -/
def readText (files : FileSystem) (path : String) : Except ReadFault String :=
  match files.openPath path with
  | .error cause => .error (.system cause)
  | .ok .directory => .error (.system Errno.isDirectory)
  | .ok (.file bytes) =>
    match String.fromUTF8? bytes.toByteArray with
    | some text => .ok text
    | none => .error .notUtf8

end FileSystem

end Digitizer
