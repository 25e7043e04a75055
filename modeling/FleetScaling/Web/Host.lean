import FleetScaling.Decimal.Reading
import FleetScaling.Text.Lower
import FleetScaling.Web.Percent
import FleetScaling.Web.Punycode

/-!
# Hosts

The host of a URL is a name, an IPv4 address or an IPv6 address. A name whose last part is a
number is an address in one of the notations of old: decimal, octal or hexadecimal, with one to
four parts of which the last fills what is left.
-/

namespace FleetScaling.Web

open FleetScaling.Text FleetScaling.Decimal

/-- Why a text is no URL. -/
inductive UrlError
  | noScheme
  | emptyHost
  | invalidDomain
  | invalidHostCharacter
  | invalidPort
  | invalidIpv4
  | invalidIpv6
  /-- The URL has no path that others could be relative to. -/
  | noDirectory
  deriving DecidableEq, Repr

/-- The wording of a URL error. -/
def UrlError.message : UrlError → String
  | noScheme => "relative URL without a base"
  | emptyHost => "empty host"
  | invalidDomain => "invalid international domain name"
  | invalidHostCharacter => "invalid domain character"
  | invalidPort => "invalid port number"
  | invalidIpv4 => "invalid IPv4 address"
  | invalidIpv6 => "invalid IPv6 address"
  | noDirectory => "relative URL with a cannot-be-a-base base"

/-- A host. -/
inductive Host
  | name (name : String)
  /-- An address of 32 bits. -/
  | ipv4 (address : Nat)
  /-- An address of eight pieces with 16 bits each. -/
  | ipv6 (pieces : List Nat)
  deriving DecidableEq

namespace Host

/-! ## IPv4 -/

/-- A part of an IPv4 address: hexadecimal after `0x`, octal after `0`, or else decimal. -/
def number? (cs : List Char) : Option Nat :=
  match cs with
  | [] => none
  | '0' :: 'x' :: digits => digitsIn? 16 digits
  | '0' :: 'X' :: digits => digitsIn? 16 digits
  | '0' :: d :: digits => digitsIn? 8 (d :: digits)
  | digits => digitsIn? 10 digits

/-- The parts of a name between points; one point at the end does not count. -/
def nameParts (name : List Char) : List (List Char) :=
  let parts := pieces (· == '.') name
  if parts.getLast? = some [] && parts.length > 1 then parts.dropLast else parts

/-- Whether the last part of a name is meant as a number. -/
def endsInNumber (name : List Char) : Bool :=
  match (nameParts name).getLast? with
  | none => false
  | some last => (last ≠ [] && last.all Char.isDigit) || (number? last).isSome

/-- The address that a name in numbers stands for. -/
def readIpv4 (name : List Char) : Except UrlError Host := do
  let parts := nameParts name
  let numbers ← (parts.mapM number?).elim (.error .invalidIpv4) .ok
  let last := numbers.getLastD 0
  let others := numbers.dropLast
  if numbers.length > 4 || others.any (· > 255) || last ≥ twoPow (8 * (4 - others.length)) then
    .error .invalidIpv4
  let high := (others ++ List.replicate (4 - others.length) 0).foldl (fun n m => 256 * n + m) 0
  .ok (.ipv4 (high + last))

/-- The four bytes of an address with points between them. -/
def ipv4Text (address : Nat) : String :=
  joined "." ([24, 16, 8, 0].map fun shift => toString (address / twoPow shift % 256))

/-! ## IPv6 -/

/-- One to four hexadecimal digits. -/
def piece? (cs : List Char) : Option Nat :=
  if cs.isEmpty || cs.length > 4 then none else digitsIn? 16 cs

/-- A decimal byte without needless zeros. -/
def byte? (cs : List Char) : Option Nat :=
  if cs.isEmpty || (cs.length > 1 && cs.head? = some '0') then none
  else (digitsIn? 10 cs).filter (· ≤ 255)

/-- The two pieces that four bytes with points between them make. -/
def embedded? (cs : List Char) : Option (List Nat) := do
  match ← (pieces (· == '.') cs).mapM byte? with
  | [a, b, c, d] => some [256 * a + b, 256 * c + d]
  | _ => none

/-- The pieces of a part of an address; only its last one can be written as bytes. -/
def groups? : List (List Char) → Option (List Nat)
  | [] => some []
  | [last] => if last.contains '.' then embedded? last else (piece? last).map ([·])
  | group :: rest => do
    let first ← piece? group
    let others ← groups? rest
    some (first :: others)

/-- The pieces of a part of an address, which may be empty. -/
def part? (cs : List Char) : Option (List Nat) :=
  if cs.isEmpty then some [] else groups? (pieces (· == ':') cs)

/-- Cuts a text at the first two colons in a row. -/
def cutDouble : List Char → Option (List Char × List Char)
  | ':' :: ':' :: rest => some ([], rest)
  | c :: cs => (cutDouble cs).map fun (front, back) => (c :: front, back)
  | [] => none

/-- The address between brackets. Two colons in a row stand for at least one piece of zero. -/
def readIpv6 (cs : List Char) : Except UrlError Host :=
  let address : Option (List Nat) := match cutDouble cs with
    | none => (part? cs).filter fun pieces => pieces.length = 8
    | some (front, back) => do
      let front ← (part? front).filter fun _ => !front.contains '.'
      let back ← part? back
      let missing := 8 - (front.length + back.length)
      if missing = 0 then none else some (front ++ List.replicate missing 0 ++ back)
  address.elim (.error .invalidIpv6) fun pieces => .ok (.ipv6 pieces)

/-- The length of the run of zeros that a list begins with. -/
def zeros (pieces : List Nat) : Nat := (pieces.takeWhile (· == 0)).length

/-- Where the first of the longest runs of zeros begins, with its length, if there are two. -/
def longestZeros (address : List Nat) : Option (Nat × Nat) :=
  let runs := (List.range address.length).map fun i => (i, zeros (address.drop i))
  let longest := (runs.map (·.2)).foldl max 0
  if longest < 2 then none else runs.find? fun run => run.2 = longest

/-- The pieces with colons between them; the first of the longest runs of zeros is left out. -/
def ipv6Text (address : List Nat) : String :=
  let write := fun (part : List Nat) => joined ":" (part.map hexDigits)
  match longestZeros address with
  | none => write address
  | some (start, length) => write (address.take start) ++ "::" ++ write (address.drop (start + length))

/-! ## Names -/

/-- The characters that no domain has. -/
def forbiddenInDomain (c : Char) : Bool :=
  c.toNat ≤ 0x20 || c.toNat = 0x7f || "%#/:<>?@[\\]^|".toList.contains c

/-- The characters that no host has. -/
def forbiddenInHost (c : Char) : Bool := "\x00\t\n\r #/:<>?@[\\]^|".toList.contains c

/-- A label of a domain in lower case and ASCII. -/
def asciiLabel (label : List Char) : List Char :=
  let label := label.flatMap lowerChar
  if label.all fun c => c.toNat < 0x80 then label else "xn--".toList ++ Punycode.encode label

/-- A domain in lower case and ASCII. -/
def asciiDomain (domain : List Char) : List Char :=
  ['.'].intercalate ((pieces (· == '.') domain).map asciiLabel)

/-- The host of a URL whose scheme is special. -/
def readSpecial (cs : List Char) : Except UrlError Host := do
  match cs with
  | '[' :: rest => if rest.getLast? = some ']' then readIpv6 rest.dropLast else .error .invalidIpv6
  | cs =>
    let text ← (readUtf8? (decode cs)).elim (.error .invalidDomain) .ok
    let domain := asciiDomain text.toList
    if domain.any forbiddenInDomain then .error .invalidDomain
    if domain.isEmpty then .error .emptyHost
    if endsInNumber domain then readIpv4 domain else .ok (.name (String.ofList domain))

/-- The host of any other URL. -/
def readOther (cs : List Char) : Except UrlError Host :=
  match cs with
  | '[' :: rest => if rest.getLast? = some ']' then readIpv6 rest.dropLast else .error .invalidIpv6
  | cs =>
    if cs.any forbiddenInHost then .error .invalidHostCharacter
    else .ok (.name (encode isControl cs))

/-- The host as it is written in a URL. -/
def text : Host → String
  | .name text => text
  | .ipv4 address => ipv4Text address
  | .ipv6 pieces => "[" ++ ipv6Text pieces ++ "]"

end Host

end FleetScaling.Web
