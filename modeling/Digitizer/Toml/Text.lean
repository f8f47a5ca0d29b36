import Digitizer.Toml.Blank

/-!
# Quoted text

Basic strings have escapes, literal strings have none, and both exist for one line and, between tripled quotes, for several.
Each function starts behind the opening quotes.
-/
namespace Digitizer.Toml

/-- The value of a hexadecimal digit. -/
def hexDigit? (c : Char) : Option Nat :=
  if c.isDigit then some (c.toNat - '0'.toNat)
  else if 'a' ≤ c ∧ c ≤ 'f' then some (c.toNat - 'a'.toNat + 10)
  else if 'A' ≤ c ∧ c ≤ 'F' then some (c.toNat - 'A'.toNat + 10)
  else none

/-- The character whose number is given by hexadecimal digits. Surrogates are no characters. -/
def scalar? (digits : List Char) : Option Char := do
  let values ← digits.mapM hexDigit?
  let number := values.foldl (fun n d => 16 * n + d) 0
  if number.isValidChar then some (Char.ofNat number) else none

/-- The character that a short escape stands for. -/
def shortEscape? : Char → Option Char
  | 'b' => some '\x08'
  | 't' => some '\t'
  | 'n' => some '\n'
  | 'f' => some '\x0c'
  | 'r' => some '\r'
  | '\x22' => some '\x22'
  | '\x5c' => some '\x5c'
  | _ => none

/-- One escape, behind its backslash. -/
def escape? : Parser Char
  | 'u' :: a :: b :: c :: d :: rest => (scalar? [a, b, c, d]).map (·, rest)
  | 'U' :: a :: b :: c :: d :: e :: f :: g :: h :: rest =>
    (scalar? [a, b, c, d, e, f, g, h]).map (·, rest)
  | c :: rest => (shortEscape? c).map (·, rest)
  | [] => none

theorem length_escape? {cs rest : List Char} {c : Char} (h : escape? cs = some (c, rest)) :
    rest.length < cs.length := by
  unfold escape? at h
  split at h <;> simp only [Option.map_eq_some_iff, Prod.mk.injEq, reduceCtorEq] at h
  all_goals
    obtain ⟨_, _, _, rfl⟩ := h
    simp only [List.length_cons]
    omega

/-- The rest of a basic string on one line. -/
def basicText (cs : List Char) : Option (List Char × List Char) :=
  match cs with
  | [] => none
  | '\x22' :: rest => some ([], rest)
  | '\x5c' :: rest =>
    match h : escape? rest with
    | none => none
    | some (c, rest') =>
      have := length_escape? h
      (basicText rest').map fun (text, left) => (c :: text, left)
  | c :: rest =>
    if isPlain c then (basicText rest).map fun (text, left) => (c :: text, left) else none
termination_by cs.length
decreasing_by all_goals (simp only [List.length_cons]; omega)

/-- The rest of a literal string on one line. -/
def literalText : List Char → Option (List Char × List Char)
  | [] => none
  | '\x27' :: rest => some ([], rest)
  | c :: rest =>
    if isPlain c then (literalText rest).map fun (text, left) => (c :: text, left) else none

/-- Whether a line ends here, behind a backslash and blanks. The line is then joined with the next. -/
def joinsLines (cs : List Char) : Bool := (newline? (skipBlanks cs)).isSome

/-- Leave out blanks and line ends. -/
def skipSpace : List Char → List Char
  | ' ' :: rest | '\t' :: rest | '\n' :: rest | '\r' :: '\n' :: rest => skipSpace rest
  | other => other

theorem length_skipSpace (cs : List Char) : (skipSpace cs).length ≤ cs.length := by
  fun_induction skipSpace cs
  case case5 => exact Nat.le_refl _
  all_goals (simp only [List.length_cons]; omega)

/--
The rest of a basic string of several lines. One or two quotes may stand within the text, also right before the three that
close it.
-/
def basicLines (cs : List Char) : Option (List Char × List Char) :=
  match cs with
  | [] => none
  | '\x22' :: '\x22' :: '\x22' :: '\x22' :: '\x22' :: rest => some (['\x22', '\x22'], rest)
  | '\x22' :: '\x22' :: '\x22' :: '\x22' :: rest => some (['\x22'], rest)
  | '\x22' :: '\x22' :: '\x22' :: rest => some ([], rest)
  | '\x5c' :: rest =>
    if joinsLines rest then
      have := length_skipSpace rest
      basicLines (skipSpace rest)
    else
      match h : escape? rest with
      | none => none
      | some (c, rest') =>
        have := length_escape? h
        (basicLines rest').map fun (text, left) => (c :: text, left)
  | '\r' :: '\n' :: rest => (basicLines rest).map fun (text, left) => ('\n' :: text, left)
  | c :: rest =>
    if c = '\n' || isPlain c then (basicLines rest).map fun (text, left) => (c :: text, left) else none
termination_by cs.length
decreasing_by all_goals (simp only [List.length_cons]; omega)

/-- The rest of a literal string of several lines, with the same rule for quotes. -/
def literalLines : List Char → Option (List Char × List Char)
  | [] => none
  | '\x27' :: '\x27' :: '\x27' :: '\x27' :: '\x27' :: rest =>
    some (['\x27', '\x27'], rest)
  | '\x27' :: '\x27' :: '\x27' :: '\x27' :: rest => some (['\x27'], rest)
  | '\x27' :: '\x27' :: '\x27' :: rest => some ([], rest)
  | '\r' :: '\n' :: rest => (literalLines rest).map fun (text, left) => ('\n' :: text, left)
  | c :: rest =>
    if c = '\n' || isPlain c then (literalLines rest).map fun (text, left) => (c :: text, left) else none

/-- A line end right behind the opening quotes does not belong to the text. -/
def dropFirstNewline (cs : List Char) : List Char := (newline? cs).getD cs

/-- A string on one line, as keys may be. -/
def lineText : Parser String
  | '\x22' :: rest => (basicText rest).map fun (text, left) => (String.ofList text, left)
  | '\x27' :: rest => (literalText rest).map fun (text, left) => (String.ofList text, left)
  | _ => none

/-- Any string. -/
def anyText : Parser String
  | '\x22' :: '\x22' :: '\x22' :: rest =>
    (basicLines (dropFirstNewline rest)).map fun (text, left) => (String.ofList text, left)
  | '\x27' :: '\x27' :: '\x27' :: rest =>
    (literalLines (dropFirstNewline rest)).map fun (text, left) => (String.ofList text, left)
  | cs => lineText cs

end Digitizer.Toml
