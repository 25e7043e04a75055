import FleetScaling.Web.Host

/-!
# URLs

A URL as the living standard reads and writes it: a scheme, an authority, a path, a query and a
fragment. Schemes of the web are special: they always have a host, and a backslash is as good as a
slash. A path without a leading slash and without an authority is only a text.
-/

namespace FleetScaling.Web

open FleetScaling.Text FleetScaling.Decimal

/-- Who is asked, and under which name. -/
structure Authority where
  user : String
  password : String
  host : Host
  /-- The port, unless it is the usual one of the scheme. -/
  port : Option Nat
  deriving DecidableEq

/-- What is asked for. -/
inductive UrlPath
  /-- A path of names; the last one is empty if the path ends with a slash. -/
  | names (names : List String)
  | verbatim (text : String)
  deriving DecidableEq

/-- A URL. -/
structure Url where
  scheme : String
  authority : Option Authority
  path : UrlPath
  query : Option String
  fragment : Option String
  deriving DecidableEq

namespace Url

/-! ## Schemes -/

/-- The special schemes with a host, and their ports. -/
def usualPorts : List (String × Nat) :=
  [("http", 80), ("https", 443), ("ws", 80), ("wss", 443), ("ftp", 21)]

/-- Whether a scheme is special and has a host. -/
def isHosted (scheme : String) : Bool := (usualPorts.lookup scheme).isSome

/-- Whether a scheme is special. -/
def isSpecial (scheme : String) : Bool := isHosted scheme || scheme == "file"

/-- The scheme of a text, in lower case, and what follows its colon. -/
def readScheme (cs : List Char) : Except UrlError (String × List Char) :=
  let isMark := fun (c : Char) => c.isAlphanum || c == '+' || c == '-' || c == '.'
  match cs.dropWhile isMark, cs.head? with
  | ':' :: rest, some first =>
    if first.isAlpha then .ok (String.ofList ((cs.takeWhile isMark).map Char.toLower), rest)
    else .error .noScheme
  | _, _ => .error .noScheme

/-! ## Authorities -/

/-- Whether a character is a slash in a URL whose scheme is special or not. -/
def isSlash (special : Bool) (c : Char) : Bool := c == '/' || (special && c == '\\')

/-- Whether a character ends the authority. -/
def endsAuthority (special : Bool) (c : Char) : Bool := isSlash special c || c == '?' || c == '#'

/-- Cuts a text at its last `@`. -/
def cutCredentials (cs : List Char) : Option (List Char × List Char) :=
  if cs.contains '@' then
    let host := (cs.reverse.takeWhile (· != '@')).reverse
    some (cs.take (cs.length - host.length - 1), host)
  else none

/-- Cuts a text at its first colon outside brackets. -/
def cutPort (inside : Bool) : List Char → List Char × Option (List Char)
  | [] => ([], none)
  | c :: cs =>
    if c == ':' && !inside then ([], some cs)
    else
      let (host, port) := cutPort (if c == '[' then true else if c == ']' then false else inside) cs
      (c :: host, port)

/-- The port that some digits write, unless it is the usual one. -/
def readPort (scheme : String) (digits : List Char) : Except UrlError (Option Nat) :=
  if digits.isEmpty then .ok none
  else match (digits? digits).filter (· < 65536) with
    | none => .error .invalidPort
    | some port => .ok (if usualPorts.lookup scheme = some port then none else some port)

/-- The authority that a text writes. -/
def readAuthority (scheme : String) (cs : List Char) : Except UrlError Authority := do
  let (credentials, rest) := (cutCredentials cs).getD ([], cs)
  if cs.head? = some '@' && rest.isEmpty then .error .emptyHost
  let (host, port) := cutPort false rest
  if isHosted scheme && host.isEmpty then .error .emptyHost
  let host ← if isHosted scheme then Host.readSpecial host else Host.readOther host
  if host = .name "" && port.isSome then .error .emptyHost
  let port ← readPort scheme (port.getD [])
  .ok ⟨encode inCredentials (credentials.takeWhile (· != ':')),
    encode inCredentials ((credentials.dropWhile (· != ':')).drop 1), host, port⟩

/-- The host of a file, which has no credentials and no port. -/
def readFileHost (cs : List Char) : Except UrlError Authority := do
  let host ← if cs.isEmpty then .ok (.name "") else Host.readSpecial cs
  .ok ⟨"", "", if host = .name "localhost" then .name "" else host, none⟩

/-! ## Paths -/

/-- Whether a name stays where it is. -/
def isHere (name : String) : Bool := name.toLower == "." || name.toLower == "%2e"

/-- Whether a name leads up. -/
def isUp (name : String) : Bool :=
  ["..", ".%2e", "%2e.", "%2e%2e"].contains name.toLower

/-- The path after some more names. -/
def follow (path : List String) : List String → List String
  | [] => path
  | name :: rest =>
    let atEnd := if rest.isEmpty then [""] else []
    follow (if isUp name then path.dropLast ++ atEnd else if isHere name then path ++ atEnd
      else path ++ [name]) rest

/-- The names that a text writes. -/
def readNames (special : Bool) (cs : List Char) : List String :=
  follow [] ((pieces (isSlash special) cs).map (encode inPath))

/-- The path of a URL with an authority, or one that begins with a slash. -/
def readPath (special : Bool) (cs : List Char) : UrlPath :=
  match cs with
  | [] => .names (if special then [""] else [])
  | c :: rest => .names (readNames special (if isSlash special c then rest else cs))

/-! ## Reading -/

/-- Cuts a text at the first place where a character occurs. -/
def cutAt (mark : Char) (cs : List Char) : List Char × Option (List Char) :=
  (cs.takeWhile (· != mark), if cs.contains mark then some ((cs.dropWhile (· != mark)).drop 1)
    else none)

/-- A text without controls and blanks at its ends and without tabs and line ends. -/
def cleaned (s : String) : List Char :=
  let isEdge := fun (c : Char) => c.toNat ≤ 0x20
  let inner := ((s.toList.dropWhile isEdge).reverse.dropWhile isEdge).reverse
  inner.filter fun c => c != '\t' && c != '\n' && c != '\r'

/-- The authority and the path that follow a scheme. -/
def readBody (scheme : String) (cs : List Char) : Except UrlError (Option Authority × UrlPath) := do
  let special := isSpecial scheme
  let cut := fun (rest : List Char) =>
    (rest.takeWhile (!endsAuthority special ·), rest.dropWhile (!endsAuthority special ·))
  if isHosted scheme then
    let (front, path) := cut (cs.dropWhile (isSlash true))
    let authority ← readAuthority scheme front
    .ok (some authority, readPath special path)
  else match cs with
    | first :: second :: rest =>
      if isSlash special first && isSlash special second then
        let (front, path) := cut rest
        let authority ← if special then readFileHost front else readAuthority scheme front
        .ok (some authority, readPath special path)
      else if special then .ok (some ⟨"", "", .name "", none⟩, readPath special cs)
      else if first == '/' then .ok (none, readPath special cs)
      else .ok (none, .verbatim (encode isControl cs))
    | cs =>
      if special then .ok (some ⟨"", "", .name "", none⟩, readPath special cs)
      else if cs == ['/'] then .ok (none, readPath special cs)
      else .ok (none, .verbatim (encode isControl cs))

/-- Reads a URL. -/
def read (s : String) : Except UrlError Url := do
  let (scheme, rest) ← readScheme (cleaned s)
  let (rest, fragment) := cutAt '#' rest
  let (rest, query) := cutAt '?' rest
  let (authority, path) ← readBody scheme rest
  .ok ⟨scheme, authority, path, query.map (encode (inQuery (isSpecial scheme))),
    fragment.map (encode inFragment)⟩

/-- The URL of names that are relative to the directory of another URL. -/
def join (base : Url) (names : List String) : Except UrlError Url :=
  match base.path with
  | .verbatim _ => .error .noDirectory
  | .names path =>
    .ok { base with path := .names (path.dropLast ++ names), query := none, fragment := none }

/-! ## Writing -/

/-- The credentials before a host. -/
def credentialsText (a : Authority) : String :=
  if a.user.isEmpty && a.password.isEmpty then ""
  else a.user ++ (if a.password.isEmpty then "" else ":" ++ a.password) ++ "@"

/-- The authority after two slashes. -/
def authorityText (a : Authority) : String :=
  "//" ++ credentialsText a ++ a.host.text ++ (a.port.elim "" fun port => ":" ++ toString port)

/-- The names of a path, each after a slash. -/
def pathText (hosted : Bool) : UrlPath → String
  | .verbatim text => text
  | .names names =>
    (if !hosted && names.length > 1 && names.head? = some "" then "/." else "") ++
      String.join (names.map ("/" ++ ·))

/-- The URL as a text. -/
def text (url : Url) : String :=
  url.scheme ++ ":" ++ url.authority.elim "" authorityText ++
    pathText url.authority.isSome url.path ++ url.query.elim "" ("?" ++ ·) ++
    url.fragment.elim "" ("#" ++ ·)

/-- The URL without credentials. -/
def withoutCredentials (url : Url) : Url :=
  { url with authority := url.authority.map fun a => { a with user := "", password := "" } }

end Url

end FleetScaling.Web
