import Digitizer.Files.Basic

/-!
# Trees of files

A tree of directories and files, and the file system that has it at its root.
-/
namespace Digitizer

/-- A file or a directory with what is in it. -/
inductive Tree where
  | file (contents : Bytes)
  | directory (entries : List (String × Tree))

namespace Tree

instance : Inhabited Tree := ⟨directory []⟩

/--
Follow the parts of a path from a place, which has the given directories above it. Two dots go up, except at the root; an
empty part or a single dot stays where it is, which only a directory allows.
-/
def walk : (parts : List String) → (here : Tree) → (above : List Tree) → Except Errno Tree
  | [], here, _ => .ok here
  | _ :: _, file _, _ => .error Errno.notDirectory
  | part :: parts, directory entries, above =>
    if part = ".." then
      match above with
      | [] => walk parts (directory entries) []
      | parent :: above => walk parts parent above
    else if part.isEmpty || part = "." then walk parts (directory entries) above
    else
      match entries.lookup part with
      | some entry => walk parts entry (directory entries :: above)
      | none => .error Errno.notFound

/-- What a path leads to. -/
def find (root : Tree) (path : String) : Except Errno Tree :=
  if path.isEmpty then .error Errno.notFound else walk (path.splitOn "/") root []

/-- The file system with a tree at its root. -/
def fileSystem (root : Tree) : FileSystem where
  openPath path := do
    match ← root.find path with
    | file contents => pure (.file contents)
    | directory _ => pure .directory
  list path := do
    match ← root.find path with
    | file _ => .error Errno.notDirectory
    | directory entries => pure (entries.map (·.1))
  isFile path :=
    match root.find path with
    | .ok (file _) => true
    | _ => false

end Tree

end Digitizer
