import Digitizer.Toml.Build
import Digitizer.Toml.Key
import Digitizer.Toml.Moment
import Digitizer.Toml.Number

/-!
# Documents

A document is a list of lines: pairs of a key and a value, and headers, each of which opens a table for the pairs behind
it. `parse?` reads a document into a table, or refuses it.
-/
namespace Digitizer.Toml

/-- A key with its value, the last part of the key apart. -/
abbrev Pair := (List String × String) × Value

/-- The last part of a dotted key, and the parts before it. -/
def splitKey (path : List String) : List String × String := (path.dropLast, path.getLastD "")

/-- A key, an equals sign, and a value read by the given parser. -/
def pair (value : Parser Value) : Parser Pair := fun cs => do
  let (path, cs) ← dottedKey cs
  let (v, cs) ← value (skipBlanks (← expect '=' cs))
  some ((splitKey path, v), cs)

/-- The rest of an array. Its elements may stand on several lines, and a comma may follow the last. -/
def arrayRest (value : Parser Value) : Parser Value := fun cs =>
  let element cs := do
    let (v, rest) ← value (skipLines cs)
    some (v, skipLines rest)
  let (elements, cs) := (separated ',' element cs).getD ([], cs)
  let cs := if elements.isEmpty then cs else (expect ',' cs).getD cs
  do some (.array elements, ← expect ']' (skipLines cs))

/-- The rest of an inline table, which stays on its line and has no comma behind its last pair. -/
def inlineTableRest (value : Parser Value) : Parser Value := fun cs => do
  let item cs := do
    let (p, rest) ← pair value cs
    some (p, skipBlanks rest)
  let (pairs, cs) := (separated ',' item cs).getD ([], cs)
  let cs ← expect '}' (skipBlanks cs)
  let entries ← Entries.insertAll pairs []
  some (.table (finishEntries entries), cs)

/-- A value that contains no other values. -/
def simpleValue : Parser Value
  | 't' :: 'r' :: 'u' :: 'e' :: rest => some (.boolean true, rest)
  | 'f' :: 'a' :: 'l' :: 's' :: 'e' :: rest => some (.boolean false, rest)
  | cs =>
    match anyText cs with
    | some (text, rest) => some (.string text, rest)
    | none =>
      match skipMoment? cs with
      | some rest => some (.moment (String.ofList (cs.take (cs.length - rest.length))), rest)
      | none => number cs

/-- A value with arrays and inline tables nested up to a depth. -/
def value : (depth : Nat) → Parser Value
  | 0, cs => simpleValue cs
  | depth + 1, cs =>
    match cs with
    | '[' :: rest => arrayRest (value depth) rest
    | '\x7b' :: rest => inlineTableRest (value depth) rest
    | _ => simpleValue cs

/-- A line of a document. -/
inductive Line where
  | pair (p : Pair)
  | table (path : List String)
  | row (path : List String)

/-- A line that is not blank, up to its end. -/
def line : Parser Line := fun cs =>
  match cs with
  | '[' :: '[' :: rest => do
    let (path, rest) ← dottedKey rest
    some (.row path, ← endLine? (← expect ']' (← expect ']' rest)))
  | '[' :: rest => do
    let (path, rest) ← dottedKey rest
    some (.table path, ← endLine? (← expect ']' rest))
  | cs => do
    let (p, rest) ← pair (value (depthLimit - 1)) cs
    some (.pair p, ← endLine? rest)

/-- The lines of a document that are not blank. The document must end with the last of them. -/
def lines? (cs : List Char) : Option (List Line) :=
  let (found, rest) := many (fun cs => line (skipLines cs)) cs
  if (skipLines rest).isEmpty then some found else none

/-- The pairs that follow each header, and those before the first. -/
def sections : List Line → List Pair × List (Line × List Pair)
  | [] => ([], [])
  | .pair p :: rest =>
    let (pairs, others) := sections rest
    (p :: pairs, others)
  | header :: rest =>
    let (pairs, others) := sections rest
    ([], (header, pairs) :: others)

/-- Add a header with its pairs to a document. -/
def addSection (entries : Entries) : Line × List Pair → Option Entries
  | (.pair p, pairs) => Entries.insertAll (p :: pairs) entries
  | (.table path, pairs) =>
    let (path, key) := splitKey path
    entries.openTable path key (Entries.insertAll pairs)
  | (.row path, pairs) =>
    let (path, key) := splitKey path
    entries.openRow path key (Entries.insertAll pairs)

/-- A document without the mark that may stand before its first character. -/
def dropMark : List Char → List Char
  | '\ufeff' :: cs => cs
  | cs => cs

/-- Read a document. -/
def parse? (text : String) : Option (List (String × Value)) := do
  let lines ← lines? (dropMark text.toList)
  let (pairs, others) := sections lines
  let entries ← Entries.insertAll pairs []
  let entries ← others.foldlM addSection entries
  some (finishEntries entries)

end Digitizer.Toml
