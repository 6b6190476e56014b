import GatewayOperator.Injection.Endpoint

/-!
# The operator's own health

## Main Definitions

* `HealthReply` — what is answered to a question about health.
* `healthReply` — the answer to a request.
-/

namespace GatewayOperator

/-- What is answered to a question about health. -/
structure HealthReply where
  /-- The status. -/
  status : Nat
  /-- The type of the body, if it has one. -/
  contentType : Option String
  deriving DecidableEq, Repr, Inhabited

/-- The type of the text in which measurements are written. -/
def metricsContentType : String := "text/plain; version=0.0.4; charset=utf-8"

/-- The answer to a request that reads. -/
def healthAnswer (ready : Bool) (path : String) : Option HealthReply :=
  match path with
  | "/metrics" => some ⟨200, some metricsContentType⟩
  | "/healthz" => some ⟨200, none⟩
  | "/readyz" => some ⟨if ready then 200 else 503, none⟩
  | _ => none

/-- The answer to a request. -/
def healthReply (ready : Bool) (method target : String) : HealthReply :=
  match healthAnswer ready (pathOf target) with
  | none => ⟨404, none⟩
  | some reply => if method = "GET" ∨ method = "HEAD" then reply else ⟨405, none⟩

end GatewayOperator
