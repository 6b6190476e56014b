import GatewayOperator.Injection.Admission
import GatewayOperator.Text.Integer

/-!
# Settings

The operator is set up by the variables of its environment.  A variable that is missing or that
cannot be read leaves its setting at the default.

## Main Definitions

* `Environment`, `Files` — what surrounds a program.
* `Settings` — the settings, with their defaults.
* `Settings.ofEnvironment` — the settings under an environment.
* `Settings.shown` — the settings in a diagnostic text.
-/

namespace GatewayOperator

/-- The variables of an environment. -/
abbrev Environment := Dict String String

/-- The contents of files by path. -/
abbrev Files := Dict String String

namespace Environment

/-- What a variable reads as, or the default. -/
def read {α ε : Type} (e : Environment) (name : String) (parse : String → Except ε α)
    (default : α) : α :=
  match (e.get? name).map parse with
  | some (.ok value) => value
  | _ => default

/-- A variable that holds more than blanks, as it stands. -/
def text? (e : Environment) (name : String) : Option String :=
  (e.get? name).filter fun value => !Text.isBlankText value

end Environment

/-- The settings of the operator. -/
structure Settings where
  /-- The port at which measurements and health are asked for. -/
  metricsPort : Nat := 5000
  /-- The port at which workloads are reviewed. -/
  webhookPort : Nat := 8443
  /-- The file with the certificates of that port; without one, the port is not encrypted. -/
  certificateFile : Option String := none
  /-- The file with the key of the first certificate. -/
  keyFile : Option String := none
  /-- After how many seconds a gateway that is as it should be is looked at again. -/
  resyncSeconds : Nat := 60
  /-- How many seconds a request may take. -/
  timeoutSeconds : Nat := 20
  /-- What is answered when a workload cannot be reviewed. -/
  failurePolicy : FailurePolicy := .fail
  /-- The namespace whose gateways are looked after; without one, all of them are. -/
  watchNamespace : Option String := none
  /-- The least number of minutes between a failure and the next attempt. -/
  backoffMinMinutes : UInt64 := 1
  /-- The greatest number of minutes between a failure and the next attempt. -/
  backoffMaxMinutes : UInt64 := 10
  /-- After how many seconds a watch that has ended is started again. -/
  restartSeconds : Nat := 1
  deriving DecidableEq, Repr, Inhabited

namespace Settings

/-- The settings under an environment. -/
def ofEnvironment (e : Environment) : Settings where
  metricsPort := e.read "METRICS_PORT" Text.readUnsigned16 5000
  webhookPort := e.read "WEBHOOK_PORT" Text.readUnsigned16 8443
  certificateFile := e.text? "WEBHOOK_TLS_CERT"
  keyFile := e.text? "WEBHOOK_TLS_KEY"
  resyncSeconds := e.read "RESYNC_INTERVAL_SECS" Text.readUnsigned64 60
  timeoutSeconds := e.read "HTTP_TIMEOUT_SECS" Text.readUnsigned64 20
  failurePolicy := e.read "ADMISSION_FAILURE_POLICY" FailurePolicy.read .fail
  watchNamespace := e.text? "WATCH_NAMESPACE"
  backoffMinMinutes := (e.read "BACKOFF_MIN_MINUTES" Text.readUnsigned64 1).toUInt64
  backoffMaxMinutes := (e.read "BACKOFF_MAX_MINUTES" Text.readUnsigned64 10).toUInt64
  restartSeconds := e.read "WATCH_RESTART_DELAY_AFTER_END_SECS" Text.readUnsigned64 1

/-- The settings in a diagnostic text. -/
def shown (s : Settings) : String :=
  Text.shownRecord "ControllerConfig"
    [("metrics_port", toString s.metricsPort), ("webhook_port", toString s.webhookPort),
      ("webhook_tls_cert", Text.quotedOption s.certificateFile),
      ("webhook_tls_key", Text.quotedOption s.keyFile),
      ("resync_interval_secs", toString s.resyncSeconds),
      ("http_timeout_secs", toString s.timeoutSeconds),
      ("failure_policy", s.failurePolicy.shown),
      ("watch_namespace", Text.quotedOption s.watchNamespace),
      ("backoff_min_minutes", toString s.backoffMinMinutes.toNat),
      ("backoff_max_minutes", toString s.backoffMaxMinutes.toNat),
      ("watch_restart_delay_after_end_secs", toString s.restartSeconds)]

end Settings

end GatewayOperator
