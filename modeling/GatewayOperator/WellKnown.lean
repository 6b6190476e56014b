/-!
# Well-known names

Labels, annotations, paths and ports on which the operator, the gateway image and the cluster
agree.

## Main Definitions

* `WellKnown.group`, `WellKnown.gatewayVersion`, `WellKnown.gatewayKind`,
  `WellKnown.gatewayPlural` — what the custom resource is called.
* `WellKnown.vendorPrefix` — the start of every label and annotation that belongs to the operator.
* `WellKnown.configVersionLabel`, `WellKnown.configMapLabel` — what a pod says about its
  configuration.
* `WellKnown.configKey`, `WellKnown.configMountPath` — where a gateway finds its document.
-/

namespace GatewayOperator.WellKnown

/-- The operator's name, under which it writes and reports. -/
def operatorName : String := "app-gateway-operator"

/-- The group of the custom resource. -/
def group : String := "app-gateway.operator.dev"

/-- The version of the custom resource. -/
def gatewayVersion : String := "v1"

/-- The kind of the custom resource. -/
def gatewayKind : String := "ApplicationGateway"

/-- The name of all custom resources together. -/
def gatewayPlural : String := "applicationgateways"

/-- The start of every label and annotation that belongs to the operator. -/
def vendorPrefix : String := group ++ "/"

/-- The label of the pods that holds the version of their configuration. -/
def configVersionLabel : String := vendorPrefix ++ "configVersion"

/-- The label of the pods that holds their language. -/
def langLabel : String := vendorPrefix ++ "lang"

/-- The label of the pods that holds the name of the config map they read. -/
def configMapLabel : String := vendorPrefix ++ "configMap"

/-- The annotation that records the generated service of a workload. -/
def serviceNameAnnotation : String := vendorPrefix ++ "serviceName"

/-- The annotation that records the generated config map of a workload. -/
def configMapNameAnnotation : String := vendorPrefix ++ "configMapName"

/-- The annotation that says why the last change was made. -/
def changeCauseAnnotation : String := "kubernetes.io/change-cause"

/-- The annotation that names the container to attach to. -/
def defaultContainerAnnotation : String := "kubectl.kubernetes.io/default-container"

/-- The data entry of a generated config map that holds the document. -/
def configKey : String := "config.yaml"

/-- The end of the name of a generated config map whose gateway chooses none. -/
def configMapSuffix : String := "-config-gateway-generated"

/-- The volume that holds the document. -/
def configVolume : String := "app-gateway-config"

/-- Where the volume stands in the file tree of a gateway. -/
def configMountPath : String := "/var/gateway/config"

/-- The command of the gateway image that checks its health. -/
def healthCheckCommand : String := "/sbin/health_check.sh"

/-- The version label of every gateway workload. -/
def workloadVersion : String := "v0.1"

/-- The label that holds the name of the gateway or of the workload. -/
def appLabel : String := "app"

/-- The label that holds the version of the workload. -/
def versionLabel : String := "version"

/-- The port of a generated service. -/
def servicePort : Int := 8443

/-- The port of the nodes at which a service is offered that names none. -/
def defaultNodePort : Int := 30443

/-- The port of an injected gateway. -/
def sidecarPort : Int := 80

/-- The namespaces whose workloads are left alone. -/
def ignoredNamespaces : List String := ["kube-system", "kube-public"]

end GatewayOperator.WellKnown
