import GatewayOperator.Measurement

/-!
# Writing measurements down

What has been counted is written as a text, one line a number, with two lines of explanation before
the numbers of each metric.

## Main Definitions

* `Metric` — what is counted under one name.
* `Measurement.sample` — the metric and the labels under which something is counted.
* `exposition` — the lines of the text.

## Design Notes

How long a pass takes is measured but not modelled, so of the durations only their number is
written.
-/

namespace GatewayOperator

/-- What is counted under one name. -/
inductive Metric where
  /-- The requests for admission. -/
  | admissions
  /-- The configurations. -/
  | resolutions
  /-- The requests that were sent. -/
  | requests
  /-- The clients that were registered. -/
  | registrations
  /-- The durations of passes. -/
  | durations
  /-- The passes that failed. -/
  | errors
  /-- The passes. -/
  | reconciliations
  /-- The gateways that are looked at again. -/
  | requeues
  deriving DecidableEq, Repr, Inhabited

namespace Metric

/-- All metrics, ordered by name. -/
def all : List Metric :=
  [admissions, resolutions, requests, registrations, durations, errors, reconciliations, requeues]

/-- The name of a metric. -/
def name : Metric → String
  | admissions => "app_gateway_admission_requests_total"
  | resolutions => "app_gateway_config_resolutions_total"
  | requests => "app_gateway_http_requests_total"
  | registrations => "app_gateway_oidc_registrations_total"
  | durations => "app_gateway_reconciliation_duration_seconds"
  | errors => "app_gateway_reconciliation_errors_total"
  | reconciliations => "app_gateway_reconciliations_total"
  | requeues => "app_gateway_requeues_total"

/-- What a metric is about. -/
def help : Metric → String
  | admissions => "Total number of admission requests by operation and outcome"
  | resolutions => "Total number of configuration resolutions by outcome"
  | requests => "Total number of outbound HTTP requests by method and status"
  | registrations => "Total number of OIDC clients registered"
  | durations => "Duration of reconciliation in seconds"
  | errors => "Total number of reconciliation errors"
  | reconciliations => "Total number of reconciliations"
  | requeues => "Total number of requeues by reason"

/-- The names of the labels by which a metric is divided. -/
def labels : Metric → List String
  | admissions => ["operation", "outcome"]
  | resolutions => ["outcome"]
  | requests => ["method", "status"]
  | requeues => ["reason"]
  | _ => []

/-- The type of a metric. -/
def type : Metric → String
  | durations => "histogram"
  | _ => "counter"

/-- The name before each number of a metric. -/
def sampleName : Metric → String
  | durations => durations.name ++ "_count"
  | m => m.name

end Metric

/-- The metric and the values of the labels under which something is counted. -/
def Measurement.sample : Measurement → Metric × List String
  | reconciliation => (.reconciliations, [])
  | reconciliationDuration => (.durations, [])
  | reconciliationError => (.errors, [])
  | requeue reason => (.requeues, [reason.label])
  | admission operation outcome => (.admissions, [operation, outcome.label])
  | resolution outcome => (.resolutions, [outcome])
  | registration => (.registrations, [])
  | request method status => (.requests, [method, status])

/-- The upper bounds, in seconds, of the classes into which durations are divided. -/
def durationBounds : List String := ["0.1", "0.5", "1", "2", "5", "10", "30", "+Inf"]

/-- Whether some values of labels come before others, or are the same. -/
def valuesInOrder : List String → List String → Bool
  | [], _ => true
  | _ :: _, [] => false
  | a :: as, b :: bs => a < b || (a = b && valuesInOrder as bs)

/-- The values of the labels under which something has been counted, in order; a metric without
labels has one number from the beginning. -/
def Metric.children (m : Metric) (counted : List Measurement) : List (List String) :=
  if m.labels.isEmpty then [[]]
  else
    let found := counted.filterMap fun c => if c.sample.1 = m then some c.sample.2 else none
    found.eraseDups.mergeSort valuesInOrder

/-- A number of a metric. -/
def Metric.line (m : Metric) (counted : List Measurement) (values : List String) : String :=
  let label (l : String × String) : String := l.1 ++ "=\"" ++ l.2 ++ "\""
  let labels := match (m.labels.zip values).map label with
    | [] => ""
    | labels => "\x7b" ++ ",".intercalate labels ++ "\x7d"
  m.sampleName ++ labels ++ " " ++ toString (counted.countP fun c => c.sample = (m, values))

/-- The lines of a metric; one that is divided by labels has none before anything is counted. -/
def Metric.lines (m : Metric) (counted : List Measurement) : List String :=
  match m.children counted with
  | [] => []
  | children =>
    ("# HELP " ++ m.name ++ " " ++ m.help) :: ("# TYPE " ++ m.name ++ " " ++ m.type) ::
      children.map (m.line counted)

/-- The lines of the text. -/
def exposition (counted : List Measurement) : List String := Metric.all.flatMap (·.lines counted)

end GatewayOperator
