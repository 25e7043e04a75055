import FleetScaling.Api.Routes
import FleetScaling.Failure

/-!
# The bench as a server

An operator's program asks a running bench for its status and its results.
-/

namespace FleetScaling

open Json Text Web

/-- The names on the path of a route. -/
def Api.Route.names (route : Api.Route) : List String :=
  ((pieces (· == '/') route.path.toList).drop 1).map String.ofList

/-- A bench that answers at a URL. -/
structure Server where
  network : Network
  url : Url

namespace Server

/-- The server at a URL that is given as a text. -/
def at? (network : Network) (url : String) : Except Failure Server :=
  match Url.read url with
  | .ok url => .ok ⟨network, url⟩
  | .error e => .error (Failure.within "Invalid API URL" (.of (.url e)))

/-- Asks for what a route shows. -/
def fetch (server : Server) (route : Api.Route) (decoder : Decoder α) : Except Failure α := do
  let url ← withContext "Invalid path"
    ((server.url.join route.names).mapError fun e => .of (.url e))
  let reply ← withContext "Failed to send request"
    ((server.network.ask url).mapError fun e => .of (.request e))
  match reply.decoded decoder with
  | .ok value => .ok value
  | .error (.refused reply) => .error (.of (.request (.refused reply)))
  | .error e => .error (Failure.within "Failed to parse response" (.of (.request e)))

/-- The status of the run. -/
def status (server : Server) : Except Failure Status := server.fetch .status Status.decoder

/-- The results of the run so far. -/
def results (server : Server) : Except Failure RunResults :=
  server.fetch .results RunResults.decoder

end Server

end FleetScaling
