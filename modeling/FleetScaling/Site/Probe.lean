import FleetScaling.Site.Command

/-!
# Probes

A probe counts what a cluster has at the moment: instances that were launched for its compute
fleet, and nodes that have joined the scheduler. `parallelClusterProbe` asks AWS for the first and
Slurm for the second; `instanceIds` and `joinedNodes` read their answers.
-/

namespace FleetScaling

open Text Json

/-- Something that counts instances and nodes. -/
structure Probe (ω : Type) where
  /-- The instances that were launched for the compute fleet of a cluster. -/
  instances (region cluster : String) : SiteOperation ω UInt32
  /-- The nodes that have joined the scheduler. -/
  nodes : SiteOperation ω UInt32

/-- The distinct texts of a list, in ascending order. -/
def sortedDistinct (texts : List String) : List String :=
  (texts.mergeSort fun a b => decide (a ≤ b)).eraseReps

/-- The distinct instance ids in a list, in ascending order; no output is an empty list. -/
def instanceIds (output : String) : Except Failure (List String) :=
  let text := trim output
  if text.isEmpty then .ok []
  else (decodeWithin "Failed to parse describe-instances output"
    (Decoder.list (.text "a string")) text).map sortedDistinct

/-- The states of nodes that have joined. A state with a flag is another state. -/
def joinedStates : List String := ["idle", "mix", "alloc", "comp"]

/-- The name of the node that a line says has joined, if it says so. -/
def joinedName? (line : List Char) : Option (List Char) :=
  match words line with
  | name :: state :: _ => if String.ofList state ∈ joinedStates then some name else none
  | _ => none

/-- The number of distinct nodes that have joined, in a list with a line for each node and
partition. -/
def joinedNodes (output : String) : UInt32 :=
  UInt32.ofNat ((lines output.toList).filterMap joinedName?).eraseDups.length

/-- The arguments that list the instances of a cluster. -/
def instanceArguments (region cluster : String) : List String :=
  ["ec2", "describe-instances", "--region", region, "--filters",
    "Name=tag:parallelcluster:cluster-name,Values=" ++ cluster,
    "Name=tag:parallelcluster:node-type,Values=Compute",
    "Name=instance-state-name,Values=pending,running",
    "--query", "Reservations[].Instances[].InstanceId", "--output", "json"]

/-- The command that lists the nodes of a cluster. -/
def nodesCommand : String := "sinfo -N -h -o \"%N %t\""

/-- The probe of a cluster of AWS ParallelCluster. -/
def parallelClusterProbe (programs : Programs ω) (headNode : HeadNode ω) : Probe ω where
  instances region cluster := do
    let result ← programs.runChecked "aws" (instanceArguments region cluster)
    let ids ← .ofExcept (instanceIds result.output)
    pure (UInt32.ofNat ids.length)
  nodes := do
    let result ← headNode.runChecked nodesCommand
    pure (joinedNodes result.output)

end FleetScaling
