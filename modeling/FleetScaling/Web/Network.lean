import FleetScaling.Json.Decoder
import FleetScaling.Web.Url

/-!
# The network

A client asks a server for what is at a URL and gets a reply, which may be a refusal, unless the
question cannot be delivered. What went wrong is told from the outside in, and each part of the
story repeats those inside it.
-/

namespace FleetScaling.Web

open FleetScaling.Json FleetScaling.Text

/-- The reply of a server. -/
structure Reply where
  code : Nat
  body : List UInt8
  deriving DecidableEq

/-- Why there is no usable reply. -/
inductive RequestError
  | schemeNotAllowed (url : Url)
  /-- The name of the host is not known. -/
  | hostUnknown (url : Url)
  /-- There is no way to the host. -/
  | unreachable (url : Url)
  /-- The server refused to answer. -/
  | refused (reply : Reply)
  | malformedReply (error : DecodeError)

namespace RequestError

/-- The story of an error, from the outside in. -/
def story : RequestError → List String
  | schemeNotAllowed url =>
    ["builder error for url (" ++ url.text ++ ")", "URL scheme is not allowed"]
  | hostUnknown url =>
    ["error sending request for url (" ++ url.text ++ ")", "error trying to connect", "dns error",
      "failed to lookup address information: Temporary failure in name resolution"]
  | unreachable url =>
    ["error sending request for url (" ++ url.text ++ ")", "error trying to connect",
      "tcp connect error", "Network is unreachable (os error 101)"]
  | refused reply => ["API error (" ++ toString reply.code ++ "): " ++ lossyText reply.body]
  | malformedReply e => ["error decoding response body", e.message]

/-- Each part of a story together with those inside it. -/
def nested : List String → List String
  | [] => []
  | part :: inner => joined ": " (part :: inner) :: nested inner

/-- The messages of an error. -/
def messages (e : RequestError) : List String := nested e.story

end RequestError

/-- A way to servers. -/
structure Network where
  /-- The reply of the server of a URL. -/
  get (url : Url) : Except RequestError Reply

/-- What a reply says, decoded; any reply but a success is a refusal. -/
def Reply.decoded (decoder : Decoder α) (reply : Reply) : Except RequestError α :=
  if 200 ≤ reply.code ∧ reply.code < 300 then
    match readUtf8? reply.body with
    | none => .error (.malformedReply (.fault .undecodable))
    | some text => (Json.decode decoder text).mapError .malformedReply
  else .error (.refused reply)

namespace Network

/-- The network of a machine that no other one can be reached from; it knows no host by name but
itself. -/
def isolated : Network where
  get url := .error <|
    match url.authority with
    | some ⟨_, _, .name host, _⟩ => if host = "localhost" then .unreachable url else .hostUnknown url
    | _ => .unreachable url

/-- Asks for what is at a URL of the web. Credentials are not a part of the question. -/
def ask (network : Network) (url : Url) : Except RequestError Reply :=
  let url := url.withoutCredentials
  if url.scheme = "http" ∨ url.scheme = "https" then network.get url
  else .error (.schemeNotAllowed url)

end Network

end FleetScaling.Web
