/-!
# What is counted

## Main Definitions

* `Measurement` — one thing that happened and is counted.
-/

namespace GatewayOperator

/-- Why a gateway is looked at again later. -/
inductive RequeueReason where
  /-- It is looked at regularly. -/
  | resync
  /-- The last pass failed. -/
  | errorBackoff
  deriving DecidableEq, Repr, Inhabited

/-- The label of a reason. -/
def RequeueReason.label : RequeueReason → String
  | .resync => "resync"
  | .errorBackoff => "error-backoff"

/-- What became of a request for admission. -/
inductive AdmissionOutcome where
  /-- Admitted unchanged. -/
  | allowed
  /-- Admitted with changes. -/
  | patched
  /-- Refused. -/
  | denied
  /-- Admitted unchanged after a failure. -/
  | ignored
  deriving DecidableEq, Repr, Inhabited

/-- The label of an outcome. -/
def AdmissionOutcome.label : AdmissionOutcome → String
  | .allowed => "allowed"
  | .patched => "patched"
  | .denied => "denied"
  | .ignored => "ignored"

/-- One thing that happened and is counted. -/
inductive Measurement where
  /-- A pass over a gateway has begun. -/
  | reconciliation
  /-- A pass over a gateway has ended. -/
  | reconciliationDuration
  /-- A pass over a gateway has failed. -/
  | reconciliationError
  /-- A gateway is going to be looked at again. -/
  | requeue (reason : RequeueReason)
  /-- A request for admission has been answered. -/
  | admission (operation : String) (outcome : AdmissionOutcome)
  /-- A configuration has been resolved, or not. -/
  | resolution (outcome : String)
  /-- A client has been registered. -/
  | registration
  /-- A request has been sent. -/
  | request (method status : String)
  deriving DecidableEq, Repr, Inhabited

end GatewayOperator
