import FleetScaling.Text.Digit
import FleetScaling.Text.Utf8

/-!
# Percent-encoding

A character that may not stand in a part of a URL is written as the bytes of its UTF-8 form, each
as a percent sign and two hexadecimal digits. Which characters those are depends on the part.
-/

namespace FleetScaling.Web

open FleetScaling.Text

/-! ## Characters to escape -/

/-- Whether a character is a control or no ASCII. -/
def isControl (c : Char) : Bool := c.toNat < 0x20 || 0x7e < c.toNat

/-- The characters to escape in a fragment. -/
def inFragment (c : Char) : Bool := isControl c || " \"<>`".toList.contains c

/-- The characters to escape in a path. -/
def inPath (c : Char) : Bool := inFragment c || "#?\x7b\x7d".toList.contains c

/-- The characters to escape in the query of a URL with a special scheme, or with another one. -/
def inQuery (special : Bool) (c : Char) : Bool :=
  isControl c || " \"#<>".toList.contains c || (special && c == '\'')

/-- The characters to escape in names and passwords. -/
def inCredentials (c : Char) : Bool := inPath c || "/:;=@[\\]^|".toList.contains c

/-! ## Writing -/

/-- A digit of base sixteen, in upper case. -/
def upperHexDigit (n : Nat) : Char := (Nat.digitChar n).toUpper

/-- A byte as a percent sign and two digits. -/
def escapedByte (b : UInt8) : List Char :=
  ['%', upperHexDigit (b.toNat / 16), upperHexDigit (b.toNat % 16)]

/-- A text in which the characters that satisfy `escape` are escaped. -/
def encode (escape : Char → Bool) (cs : List Char) : String :=
  String.ofList <| cs.flatMap fun c =>
    if escape c then c.toString.toUTF8.toList.flatMap escapedByte else [c]

/-! ## Reading -/

/-- The bytes of a text in which bytes may be escaped. A percent sign without two digits stands
for itself. -/
def decode : List Char → List UInt8
  | [] => []
  | '%' :: high :: low :: cs =>
    match hexValue? high, hexValue? low with
    | some high, some low => UInt8.ofNat (16 * high + low) :: decode cs
    | _, _ => UInt8.ofNat '%'.toNat :: decode (high :: low :: cs)
  | c :: cs => c.toString.toUTF8.toList ++ decode cs

end FleetScaling.Web
