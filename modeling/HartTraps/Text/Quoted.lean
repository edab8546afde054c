import HartTraps.Text.Hex
import HartTraps.Text.Shapeless

/-!
# Quoted text

Reports show a text between double quotes. Quotes, backslashes and the common control characters
have short escapes; a character without a stable shape is shown by its code point.
-/

namespace HartTraps.Text

/-- How a character appears inside quotes. -/
def quotedChar (c : Char) : String :=
  match c with
  | '\x00' => "\\0"
  | '\t' => "\\t"
  | '\r' => "\\r"
  | '\n' => "\\n"
  | '\\' => "\\\\"
  | '"' => "\\\""
  | _ => if isShapeless c then "\\u\x7b" ++ Hex.digits c.toNat ++ "\x7d" else c.toString

/-- The text between double quotes, with escapes. -/
def quoted (s : String) : String :=
  "\"" ++ String.join (s.toList.map quotedChar) ++ "\""

end HartTraps.Text
