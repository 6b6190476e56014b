import GatewayOperator.Diagnostics
import GatewayOperator.Kubeconfig

/-!
# Starting

Before the operator does anything it registers what it counts, opens the port at which it is
watched, and looks for the cluster.

## Main Definitions

* `StartFault` — why the operator cannot start, with its wording.
* `Setup` — what has been set up for good in a process.
* `Setup.prepare`, `Setup.start` — the two steps of starting.

## Design Notes

What is set up in a process stays so, even if a later step fails.  So starting a second time fails,
whatever became of the first.
-/

namespace GatewayOperator

/-- Why the operator cannot start. -/
inductive StartFault where
  /-- The encryption of connections has been set up before. -/
  | alreadyPrepared
  /-- What is counted has been registered before. -/
  | alreadyRegistered
  /-- The port at which the operator is watched is in use. -/
  | portTaken
  /-- There is no cluster to speak to. -/
  | noCluster
  deriving DecidableEq, Repr, Inhabited

/-- The wording of a fault. -/
def StartFault.message : StartFault → String
  | .alreadyPrepared => "Failed to install rustls crypto provider"
  | .alreadyRegistered => "Duplicate metrics collector registration attempted"
  | .portTaken => "HTTP server failed to start"
  | .noCluster => "Failed to create Kubernetes client"

/-- What has been set up for good in a process. -/
structure Setup where
  /-- The encryption of connections. -/
  isPrepared : Bool := false
  /-- What is counted. -/
  isRegistered : Bool := false
  deriving DecidableEq, Repr, Inhabited

namespace Setup

/-- Sets up the encryption of connections. -/
def prepare (p : Setup) : Except StartFault Unit × Setup :=
  if p.isPrepared then (.error .alreadyPrepared, p)
  else (.ok (), { p with isPrepared := true })

/-- Sets up the rest and looks for the cluster that a file names. -/
def start (p : Setup) (portIsFree : Bool) (kubeconfig : Option Kubeconfig) :
    Except StartFault ClusterAccess × Setup :=
  if p.isRegistered then (.error .alreadyRegistered, p)
  else
    let p := { p with isRegistered := true }
    if portIsFree then
      match kubeconfig.bind Kubeconfig.access? with
      | some access => (.ok access, p)
      | none => (.error .noCluster, p)
    else (.error .portTaken, p)

end Setup

end GatewayOperator
