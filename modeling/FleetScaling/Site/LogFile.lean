import FleetScaling.Site.Command

/-!
# Log files on the head node

A check that none of some messages was logged on the head node.
-/

namespace FleetScaling

open Text

/-- Fails if a log file holds one of the messages. -/
def expectNoneOf (messages : List String) (file output : String) : Except Failure Unit :=
  match messages.find? fun message => occurs message output with
  | some message => .error (.other ("Found \"" ++ message ++ "\" in " ++ file))
  | none => .ok ()

/-- Fails if one of some log files cannot be read or holds one of the messages. -/
def expectNotLogged (headNode : HeadNode ω) (messages : List String) :
    (files : List String) → SiteOperation ω Unit
  | [] => pure ()
  | file :: files => do
    let result ← (headNode.runChecked ("sudo cat " ++ file)).within ("Failed to read " ++ file)
    .ofExcept (expectNoneOf messages file result.output)
    expectNotLogged headNode messages files

end FleetScaling
