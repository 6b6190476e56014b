import GatewayOperator.Settings

/-!
# Diagnostic texts

The parts of a running operator as they appear in diagnostic texts, which never hold a password, a
token or a connection.

## Main Definitions

* `Component` — the parts that hold nothing worth showing.
* `Settings.shownReconciler`, `Settings.shownInjector` — the parts that are set up.
* `shownReadiness`, `Settings.shownStart` — what is known once the operator has started.
-/

namespace GatewayOperator

/-- A part of a running operator that holds nothing worth showing. -/
inductive Component where
  /-- The part that sends requests. -/
  | fetcher
  /-- The part that registers clients. -/
  | provisioner
  /-- The part that resolves configurations. -/
  | resolver
  /-- The part that talks to the cluster. -/
  | store
  deriving DecidableEq, Repr, Inhabited

namespace Component

/-- The name of a part. -/
def name : Component → String
  | .fetcher => "ReqwestFetcher"
  | .provisioner => "OidcClientProvisioner"
  | .resolver => "ConfigSourceResolver"
  | .store => "KubeObjectStore"

/-- A part in a diagnostic text. -/
def shown (c : Component) : String := Text.shownPartly c.name []

end Component

/-- Whether the operator is ready, in a diagnostic text. -/
def shownReadiness (ready : Bool) : String :=
  Text.shownRecord "ServerState" [("is_ready", Text.shownBool ready)]

namespace Settings

/-- The part that looks after gateways, in a diagnostic text. -/
def shownReconciler (s : Settings) : String := Text.shownPartly "Reconciler" [("config", s.shown)]

/-- The part that reviews workloads, in a diagnostic text. -/
def shownInjector (s : Settings) : String :=
  Text.shownPartly "AdmissionPatchBuilder" [("failure_policy", s.failurePolicy.shown)]

/-- What is known once the operator has started, in a diagnostic text. -/
def shownStart (s : Settings) (ready : Bool) : String :=
  Text.shownPartly "InitializationResult"
    [("server_ready", Text.shownBool ready), ("config", s.shown)]

end Settings

end GatewayOperator
