/-!
# Blanks, comments and line ends

A parser takes characters and gives a value and the characters left over, or nothing when the text does not fit. A document
is right or wrong as a whole, so a parser does not say what was wrong.
-/
namespace Digitizer.Toml

/-- A reader of the beginning of a text. -/
abbrev Parser (α : Type) := List Char → Option (α × List Char)

/-- Blanks within a line. -/
def isBlank (c : Char) : Bool := c == ' ' || c == '\t'

/-- The characters of comments, and of literal strings but for their quote: all but controls other than the tab. -/
def isPlain (c : Char) : Bool := c == '\t' || (0x20 ≤ c.toNat && c.toNat ≠ 0x7f)

/-- Leave out blanks. -/
def skipBlanks (cs : List Char) : List Char := cs.dropWhile isBlank

/-- The characters after an end of line, which is a line feed with or without a carriage return before it. -/
def newline? : List Char → Option (List Char)
  | '\n' :: cs => some cs
  | '\r' :: '\n' :: cs => some cs
  | _ => none

/-- The rest of a line: blanks, perhaps a comment, and the end of the line or of the text. -/
def endLine? (cs : List Char) : Option (List Char) :=
  let rest := match skipBlanks cs with
    | '#' :: comment => comment.dropWhile isPlain
    | other => other
  if rest.isEmpty then some [] else newline? rest

/-- Leave out blanks, line ends and comments. Every round that leaves something out shortens the text. -/
def skipLines (cs : List Char) : List Char :=
  match cs with
  | ' ' :: rest | '\t' :: rest | '\n' :: rest | '\r' :: '\n' :: rest => skipLines rest
  | '#' :: comment =>
    have : (comment.dropWhile isPlain).length ≤ comment.length := (List.dropWhile_sublist _).length_le
    skipLines (comment.dropWhile isPlain)
  | other => other
termination_by cs.length
decreasing_by all_goals (simp only [List.length_cons]; omega)

/-- Read a character and leave it out. -/
def expect (c : Char) : List Char → Option (List Char)
  | d :: rest => if d = c then some rest else none
  | [] => none

/--
Read items for as long as they come, each in its turn. An item that takes no characters ends the list, so the text gets
shorter with every round.
-/
def many {α : Type} (p : Parser α) (cs : List Char) : List α × List Char :=
  match p cs with
  | none => ([], cs)
  | some (a, rest) =>
    if rest.length < cs.length then
      let (as, rest) := many p rest
      (a :: as, rest)
    else ([], cs)
termination_by cs.length

/-- Read one item, and further items after a separator each. -/
def separated {α : Type} (separator : Char) (p : Parser α) : Parser (List α) := fun cs => do
  let (a, rest) ← p cs
  let (as, rest) := many (fun cs => do p (← expect separator cs)) rest
  some (a :: as, rest)

end Digitizer.Toml
