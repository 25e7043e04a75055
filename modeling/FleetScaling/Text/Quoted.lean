import FleetScaling.Text.Digit
import FleetScaling.Text.Printable

/-!
# Quoted texts

Error messages show a foreign text between double quotes so that every character can be told:
quotes and backslashes are escaped, the usual controls have short names, and a character that
does not print on its own is written as its code point in hexadecimal.
-/

namespace FleetScaling.Text

/-- One character inside a quoted text. -/
def quotedChar (c : Char) : String :=
  match c with
  | '\x00' => "\\0"
  | '\t' => "\\t"
  | '\r' => "\\r"
  | '\n' => "\\n"
  | '\\' => "\\\\"
  | '"' => "\\\""
  | c =>
    if isPrintable c && !isExtender c then c.toString
    else "\\u\x7b" ++ hexDigits c.toNat ++ "\x7d"

/-- A text between double quotes, every character of it visible. -/
def quoted (s : String) : String :=
  "\"" ++ String.join (s.toList.map quotedChar) ++ "\""

end FleetScaling.Text
