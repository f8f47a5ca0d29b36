import Digitizer.Numeric.Hex
import Digitizer.Text.Hidden

/-!
# Quoted text

In diagnostic output a text stands between double quotes. Quotes, backslashes and everything that would not show are escaped.
-/
namespace Digitizer.Text

/-- A character within quotes. -/
def quotedChar (c : Char) : String :=
  match c with
  | '\x00' => "\\0"
  | '\t' => "\\t"
  | '\n' => "\\n"
  | '\r' => "\\r"
  | '\x22' => "\\\""
  | '\x5c' => "\\\\"
  | c => if isHidden c then "\\u\x7b" ++ Numeric.hex 1 c.toNat ++ "\x7d" else c.toString

/-- A text within quotes. -/
def quoted (text : String) : String := "\"" ++ String.join (text.toList.map quotedChar) ++ "\""

end Digitizer.Text
