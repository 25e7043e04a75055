import FleetScaling.Site.Command

/-!
# The head node over SSH

Command lines reach the head node through the `ssh` client, which keeps one connection open for
all of them. A command is tried again when the client's exit code says that its connection failed,
whatever the command had done and printed by then.
-/

namespace FleetScaling

open Text Json Time

/-- How the head node is reached. -/
structure SshSettings where
  host : String
  user : String
  /-- The private key; without it the client uses its own. -/
  keyPath : Option String
  /-- The socket of the shared connection. -/
  controlPath : String
  connectTimeout : Duration
  /-- How often a command is tried when the connection fails; at least once. -/
  attempts : Nat
  retryDelay : Duration
  deriving DecidableEq

namespace SshSettings

/-- The usual settings for a host. -/
def standard (host user : String) (keyPath : Option String) : SshSettings :=
  ⟨host, user, keyPath, "/tmp/scaling-bench-ssh-%r@%h:%p", .ofSeconds 10, 3, .ofSeconds 5⟩

/-- The account to log in to. -/
def destination (s : SshSettings) : String := s.user ++ "@" ++ s.host

/-- Options of the client, each with its value. -/
def options (s : SshSettings) : List String :=
  ["StrictHostKeyChecking=no", "UserKnownHostsFile=/dev/null",
    "ConnectTimeout=" ++ toString s.connectTimeout.seconds, "ServerAliveInterval=30",
    "ServerAliveCountMax=10", "LogLevel=ERROR", "ControlMaster=auto", "ControlPersist=10m",
    "ControlPath=" ++ s.controlPath]

/-- The arguments of the client for a command. -/
def arguments (s : SshSettings) (command : String) : List String :=
  s.options.flatMap (fun option => ["-o", option]) ++
    (match s.keyPath with
      | none => []
      | some key => ["-i", key]) ++
    [s.destination, command]

/-- The arguments of the client for closing the connection. -/
def closingArguments (s : SshSettings) : List String :=
  ["-O", "exit", "-o", "ControlPath=" ++ s.controlPath, s.destination]

/-- The exit code of the client when the connection fails. -/
def connectionFailure : Int := 255

/-- What is logged before another attempt. -/
def retryEntry (s : SshSettings) (attempt attempts : Nat) (errors : String) : LogEntry :=
  .warning "SSH connection failed, retrying"
    [("host", .text s.host), ("attempt", .integer attempt), ("attempts", .integer attempts),
     ("stderr", .text (trim errors))]

/-- Runs a command for the `attempt`-th time, with `left` attempts after this one. -/
def runAttempt (s : SshSettings) (programs : Programs ω) (command : String) :
    (left attempt : Nat) → SiteOperation ω CommandResult
  | 0, _ => programs.runOr ("Failed to spawn ssh to " ++ s.host) "ssh" (s.arguments command)
  | left + 1, attempt => do
    let result ← programs.runOr ("Failed to spawn ssh to " ++ s.host) "ssh" (s.arguments command)
    if result.exitCode ≠ connectionFailure then pure result
    else
      log (s.retryEntry attempt (attempt + left + 1) result.errors)
      pause s.retryDelay
      s.runAttempt programs command left (attempt + 1)

/-- The head node behind the connection. -/
def headNode (s : SshSettings) (programs : Programs ω) : HeadNode ω where
  run command := s.runAttempt programs command (s.attempts - 1) 1
  reset := do
    let _ ← programs.runOr "Failed to spawn ssh to close the control connection" "ssh"
      s.closingArguments

end SshSettings

end FleetScaling
