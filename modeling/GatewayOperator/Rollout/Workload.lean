import GatewayOperator.Rollout.Plan

/-!
# The workload of a gateway

## Main Definitions

* `DesiredWorkload.deployment` — the workload of a gateway that has none.
* `DesiredWorkload.updateDeployment` — a running workload with everything that an update changes.
* `Deployment.scale` — a running workload with another number of pods.

## Design Notes

An update only touches what belongs to the gateway, because others may have added labels, volumes
and containers to the workload.
-/

namespace GatewayOperator

/-- The volume that holds the document of a config map. -/
def configVolume (configMapName : String) : Volume :=
  { name := WellKnown.configVolume, configMap := some configMapName }

/-- Where a gateway finds its document. -/
def configMount : VolumeMount :=
  { name := WellKnown.configVolume, mountPath := WellKnown.configMountPath }

/-- The labels by which the pods of a gateway are found. -/
def selectorLabels (name : String) : TextMap :=
  Dict.ofList [(WellKnown.appLabel, name), (WellKnown.versionLabel, WellKnown.workloadVersion)]

/-- The environment of a gateway. -/
def langEnv (lang : String) : List EnvVar := [{ name := "LANG", value := some lang }]

/-- The items with the first one that satisfies `p` replaced, or with `item` at the end. -/
def replaceFirst {α : Type} (p : α → Bool) (item : α) : List α → List α
  | [] => [item]
  | a :: rest => if p a then item :: rest else a :: replaceFirst p item rest

namespace DesiredWorkload

/-- The labels of the pods that say what is rolled out. -/
def rolloutLabels (desired : DesiredWorkload) : List (String × String) :=
  [(WellKnown.appLabel, desired.name), (WellKnown.versionLabel, WellKnown.workloadVersion),
    (WellKnown.configVersionLabel, desired.configVersion), (WellKnown.langLabel, desired.lang),
    (WellKnown.configMapLabel, desired.configMapName)]

/-- The container of a gateway. -/
def container (desired : DesiredWorkload) : Container :=
  { name := desired.name
    image := some desired.image
    imagePullPolicy := some desired.imagePullPolicy
    env := some (langEnv desired.lang)
    volumeMounts := some [configMount]
    readinessProbe := some desired.readiness.toProbe
    livenessProbe := some desired.liveness.toProbe }

/-- The pods of a gateway. -/
def template (desired : DesiredWorkload) : PodTemplate :=
  { metadata := some
      { labels := some (Dict.ofList desired.rolloutLabels)
        annotations := some desired.annotations }
    spec := some
      { containers := [desired.container]
        volumes := some [configVolume desired.configMapName]
        serviceAccountName := desired.serviceAccount
        imagePullSecrets :=
          if desired.imagePullSecrets.isEmpty then none else some desired.imagePullSecrets } }

/-- The workload of a gateway that has none. -/
def deployment (desired : DesiredWorkload) (g : Gateway) : Deployment :=
  { metadata :=
      { name := some desired.name
        namespace_ := g.metadata.namespace_
        labels := some (selectorLabels desired.name)
        ownerReferences := g.ownerReference?.map fun owner => [owner] }
    spec := some
      { replicas := some desired.replicas
        matchLabels := some (selectorLabels desired.name)
        template := desired.template } }

/-- The containers with the first one running what is asked for; if there is none, one is made. -/
def updateContainers (desired : DesiredWorkload) : List Container → List Container
  | [] =>
    [{ name := desired.name, image := some desired.image, env := some (langEnv desired.lang) }]
  | first :: others =>
    { first with image := some desired.image, env := some (langEnv desired.lang) } :: others

/-- A pod with everything that an update changes. -/
def updatePod (desired : DesiredWorkload) (pod : PodSpec) : PodSpec :=
  { pod with
    containers := desired.updateContainers pod.containers
    volumes := some <| replaceFirst (fun v => v.name = WellKnown.configVolume)
      (configVolume desired.configMapName) (pod.volumes.getD [])
    serviceAccountName := desired.serviceAccount }

/-- A pattern of pods with everything that an update changes. -/
def updateTemplate (desired : DesiredWorkload) (template : PodTemplate) : PodTemplate :=
  let metadata := template.metadata.getD {}
  { metadata := some
      { metadata with
        labels := some ((metadata.labels.getD ∅).insertAll desired.rolloutLabels) }
    spec := some (desired.updatePod (template.spec.getD .empty)) }

/-- A running workload with everything that an update changes. -/
def updateDeployment (desired : DesiredWorkload) (changeCause : String) (d : Deployment) :
    Deployment :=
  let annotations := d.metadata.annotations.getD ∅
  let spec := d.spec.getD .empty
  { metadata :=
      { d.metadata with
        annotations := some (annotations.insert WellKnown.changeCauseAnnotation changeCause) }
    spec := some { spec with template := desired.updateTemplate spec.template } }

end DesiredWorkload

/-- A running workload with another number of pods. -/
def Deployment.scale (d : Deployment) (replicas : Int) : Deployment :=
  { d with spec := some { d.spec.getD .empty with replicas := some replicas } }

end GatewayOperator
