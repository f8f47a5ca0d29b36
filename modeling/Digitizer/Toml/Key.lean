import Digitizer.Toml.Text

/-!
# Keys

A key is bare or quoted. Keys with dots between them lead through tables.
-/
namespace Digitizer.Toml

/-- Nesting ends below this depth. -/
def depthLimit : Nat := 80

/-- The characters of bare keys. -/
def isBare (c : Char) : Bool := c.isAlphanum || c == '_' || c == '-'

/-- One key. -/
def simpleKey (cs : List Char) : Option (String × List Char) :=
  match cs.takeWhile isBare with
  | [] => lineText cs
  | bare => some (String.ofList bare, cs.dropWhile isBare)

/-- Keys with dots between them, and blanks around each. -/
def dottedKey : Parser (List String) := fun cs => do
  let key cs := do
    let (k, rest) ← simpleKey (skipBlanks cs)
    some (k, skipBlanks rest)
  let (path, rest) ← separated '.' key cs
  if path.length < depthLimit then some (path, rest) else none

end Digitizer.Toml
