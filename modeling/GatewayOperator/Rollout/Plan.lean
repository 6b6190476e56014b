import GatewayOperator.Resource.Deployment
import GatewayOperator.Rollout.Desired

/-!
# Planning a rollout

One pass over a gateway takes one step towards the workload it asks for: the workload is created,
its number of pods is changed, everything else is changed, or nothing is left to do.

## Main Definitions

* `LiveWorkload` — what is looked at of the workload that runs.
* `RolloutAction` — the next step.
* `ChangeCause` — one difference that asks for an update.
* `plan` — the next step, from what is asked for and what runs.
-/

namespace GatewayOperator

/-- What is looked at of the workload that runs. -/
structure LiveWorkload where
  /-- The number of pods. -/
  replicas : Option Int
  /-- The version of the configuration. -/
  configVersion : Option String
  /-- The language. -/
  lang : Option String
  /-- The account under which the pods act. -/
  serviceAccount : Option String
  /-- The image of the first container. -/
  image : Option String
  deriving DecidableEq

/-- What is looked at of a workload. -/
def LiveWorkload.ofDeployment (d : Deployment) : LiveWorkload :=
  { replicas := d.spec.bind (·.replicas)
    configVersion := d.templateLabel? WellKnown.configVersionLabel
    lang := d.templateLabel? WellKnown.langLabel
    serviceAccount := (d.podSpec?.bind (·.serviceAccountName)).bind Text.nonEmpty?
    image := (d.podSpec?.bind (·.containers.head?)).bind (·.image) }

/-- The next step towards the workload that is asked for. -/
inductive RolloutAction where
  /-- There is no workload yet. -/
  | create
  /-- Only the number of pods is changed. -/
  | scale (replicas : Int)
  /-- Everything else is changed. -/
  | update (changeCause : String)
  /-- Nothing is left to do. -/
  | keep
  deriving DecidableEq, Repr

/-- A difference that asks for an update. -/
inductive ChangeCause where
  /-- The configuration. -/
  | configuration
  /-- The language. -/
  | lang (before after : String)
  /-- The account. -/
  | serviceAccount (before after : String)
  /-- The image. -/
  | image (before after : String)
  deriving DecidableEq, Repr

namespace ChangeCause

/-- A cause that comes first. -/
def sentence : ChangeCause → String
  | .configuration => "Configuration change"
  | .lang before after => "Language changed from " ++ before ++ " to " ++ after
  | .serviceAccount before after => "Service account changed from " ++ before ++ " to " ++ after
  | .image before after => "Image changed from " ++ before ++ " to " ++ after

/-- A cause behind another one. -/
def label : ChangeCause → String
  | .configuration => "configuration change"
  | .lang .. => "language change"
  | .serviceAccount .. => "service account change"
  | .image .. => "image change"

/-- The causes of an update: the first is spelled out, the others are named. -/
def describe? : List ChangeCause → Option String
  | [] => none
  | first :: others => some (", ".intercalate (first.sentence :: others.map label))

end ChangeCause

/-- The number of pods that run; the cluster runs one if it is not said. -/
def LiveWorkload.replicaCount (live : LiveWorkload) : Int := live.replicas.getD 1

/-- The differences that ask for an update, in the order in which they are told. -/
def DesiredWorkload.changes (desired : DesiredWorkload) (live : LiveWorkload) :
    List ChangeCause :=
  (if live.configVersion = some desired.configVersion then [] else [.configuration]) ++
  (let lang := live.lang.getD ""
    if lang = desired.lang then [] else [.lang lang desired.lang]) ++
  (if live.serviceAccount = desired.serviceAccount then []
    else [.serviceAccount (live.serviceAccount.getD "") (desired.serviceAccount.getD "")]) ++
  (let image := live.image.getD ""
    if image = desired.image then [] else [.image image desired.image])

/-- The next step towards the workload that is asked for: a wrong number of pods is corrected
before anything else is. -/
def plan (desired : DesiredWorkload) : Option LiveWorkload → RolloutAction
  | none => .create
  | some live =>
    if live.replicaCount ≠ desired.replicas then .scale desired.replicas
    else
      match ChangeCause.describe? (desired.changes live) with
      | some cause => .update cause
      | none => .keep

end GatewayOperator
