import GatewayOperator.Gateway.Spec
import GatewayOperator.Resource.Pod
import GatewayOperator.Text.Blank
import GatewayOperator.WellKnown

/-!
# Health checks

A gateway may adjust the two checks of its container.  A setting that makes no sense counts as not
set.

## Main Definitions

* `HealthCheck` — a check with all its settings.
* `HealthCheck.readiness`, `HealthCheck.liveness` — the checks that some settings ask for.
* `HealthCheck.toProbe` — the check of a container.
-/

namespace GatewayOperator

/-- A check that runs a command, with all its settings. -/
structure HealthCheck where
  /-- The command. -/
  command : String
  /-- The seconds before the first check. -/
  initialDelaySeconds : Int
  /-- The seconds between checks. -/
  periodSeconds : Int
  /-- How many failures in a row count. -/
  failureThreshold : Int
  /-- How many successes in a row count. -/
  successThreshold : Int
  /-- The seconds after which a check has failed. -/
  timeoutSeconds : Int
  deriving DecidableEq, Inhabited

namespace HealthCheck

/-- A setting that is at least `least`, or else `default`. -/
def atLeast (least default : Int) (setting : Option Int) : Int :=
  match setting with
  | some value => if least ≤ value then value else default
  | none => default

/-- The check that some settings ask for. -/
def readiness (settings : Option HealthCheckSettings) : HealthCheck :=
  let s := settings.getD .none_
  { command :=
      (s.command.filter fun c => !Text.isBlankText c).getD WellKnown.healthCheckCommand
    initialDelaySeconds := atLeast 0 0 s.initialDelaySeconds
    periodSeconds := atLeast 1 10 s.periodSeconds
    failureThreshold := atLeast 1 3 s.failureThreshold
    successThreshold := atLeast 1 1 s.successThreshold
    timeoutSeconds := atLeast 1 1 s.timeoutSeconds }

/-- The check that some settings ask for, where a single success has to be enough. -/
def liveness (settings : Option HealthCheckSettings) : HealthCheck :=
  { readiness settings with successThreshold := 1 }

/-- The check of a container. -/
def toProbe (c : HealthCheck) : Probe :=
  { exec := some (some [c.command])
    initialDelaySeconds := some c.initialDelaySeconds
    periodSeconds := some c.periodSeconds
    failureThreshold := some c.failureThreshold
    successThreshold := some c.successThreshold
    timeoutSeconds := some c.timeoutSeconds }

end HealthCheck

end GatewayOperator
