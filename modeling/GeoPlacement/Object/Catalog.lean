import GeoPlacement.Object.Shape

/-!
# The catalogue of shapes

The shapes of the parts of cluster objects that the operator carries along without looking into
them, each with its members in the order they are written. Objects whose members are of no concern
at all are `Shape.object`.
-/

namespace GeoPlacement.Catalog

open Shape

/-- A list of strings. -/
def texts : Shape := .list .text

/-- A list of objects whose members are of no concern. -/
def objects : Shape := .list .object

/-- One requirement of a label or node selector. -/
def requirement : Shape := .record [
  needed "key" .text, needed "operator" .text, maybe "values" texts]

/-- A selector of objects by their labels. -/
def labelSelector : Shape := .record [
  maybe "matchExpressions" (.list requirement), maybe "matchLabels" .textMap]

/-- One entry of the history of an object's fields. -/
def managedFields : Shape := .record [
  maybe "apiVersion" .text, maybe "fieldsType" .text, maybe "fieldsV1" .any,
  maybe "manager" .text, maybe "operation" .text, maybe "subresource" .text, maybe "time" .time]

/-- The members of the metadata of a list. -/
def listFields : List (String × Bool × Shape) := [
  maybe "continue" .text, maybe "remainingItemCount" .int64, maybe "resourceVersion" .text,
  maybe "selfLink" .text]

/-- A term of the affinity of pods to pods. -/
def podAffinityTerm : Shape := .record [
  maybe "labelSelector" labelSelector, maybe "matchLabelKeys" texts,
  maybe "mismatchLabelKeys" texts, maybe "namespaceSelector" labelSelector,
  maybe "namespaces" texts, needed "topologyKey" .text]

/-- The affinity of pods to pods, or their anti-affinity. -/
def podAffinity : Shape := .record [
  maybe "preferredDuringSchedulingIgnoredDuringExecution" (.list (.record [
    needed "podAffinityTerm" podAffinityTerm, needed "weight" .int32])),
  maybe "requiredDuringSchedulingIgnoredDuringExecution" (.list podAffinityTerm)]

/-- A variable of a container's environment. -/
def envVar : Shape := .record [
  needed "name" .text, maybe "value" .text, maybe "valueFrom" .object]

/-- A port of a container. -/
def containerPort : Shape := .record [
  needed "containerPort" .int32, maybe "hostIP" .text, maybe "hostPort" .int32,
  maybe "name" .text, maybe "protocol" .text]

/-- A container of a pod. -/
def container : Shape := .record [
  maybe "args" texts, maybe "command" texts, maybe "env" (.list envVar), maybe "envFrom" objects,
  maybe "image" .text, maybe "imagePullPolicy" .text, maybe "lifecycle" .object,
  maybe "livenessProbe" .object, needed "name" .text, maybe "ports" (.list containerPort),
  maybe "readinessProbe" .object, maybe "resizePolicy" objects, maybe "resources" .object,
  maybe "restartPolicy" .text, maybe "securityContext" .object, maybe "startupProbe" .object,
  maybe "stdin" .flag, maybe "stdinOnce" .flag, maybe "terminationMessagePath" .text,
  maybe "terminationMessagePolicy" .text, maybe "tty" .flag, maybe "volumeDevices" objects,
  maybe "volumeMounts" objects, maybe "workingDir" .text]

/-- What a pod tolerates of a node. -/
def toleration : Shape := .record [
  maybe "effect" .text, maybe "key" .text, maybe "operator" .text,
  maybe "tolerationSeconds" .int64, maybe "value" .text]

/-- The members of a pod that are written after its affinity. -/
def podFields : List (String × Bool × Shape) := [
  maybe "automountServiceAccountToken" .flag, needed "containers" (.list container),
  maybe "dnsConfig" .object, maybe "dnsPolicy" .text, maybe "enableServiceLinks" .flag,
  maybe "ephemeralContainers" objects, maybe "hostAliases" objects, maybe "hostIPC" .flag,
  maybe "hostNetwork" .flag, maybe "hostPID" .flag, maybe "hostUsers" .flag,
  maybe "hostname" .text, maybe "imagePullSecrets" objects,
  maybe "initContainers" (.list container), maybe "nodeName" .text,
  maybe "nodeSelector" .textMap, maybe "os" .object, maybe "overhead" .textMap,
  maybe "preemptionPolicy" .text, maybe "priority" .int32, maybe "priorityClassName" .text,
  maybe "readinessGates" objects, maybe "resourceClaims" objects, maybe "resources" .object,
  maybe "restartPolicy" .text, maybe "runtimeClassName" .text, maybe "schedulerName" .text,
  maybe "schedulingGates" objects, maybe "securityContext" .object, maybe "serviceAccount" .text,
  maybe "serviceAccountName" .text, maybe "setHostnameAsFQDN" .flag,
  maybe "shareProcessNamespace" .flag, maybe "subdomain" .text,
  maybe "terminationGracePeriodSeconds" .int64, maybe "tolerations" (.list toleration),
  maybe "topologySpreadConstraints" objects, maybe "volumes" objects]

/-- The members of a node's description that are written before its taints. -/
def nodeFields : List (String × Bool × Shape) := [
  maybe "configSource" .object, maybe "externalID" .text, maybe "podCIDR" .text,
  maybe "podCIDRs" texts, maybe "providerID" .text]

/-- The members of a node's status between its addresses and its conditions. -/
def nodeCapacity : List (String × Bool × Shape) := [
  maybe "allocatable" .textMap, maybe "capacity" .textMap]

/-- The members of a node's status after its conditions. -/
def nodeDetails : List (String × Bool × Shape) := [
  maybe "config" .object, maybe "daemonEndpoints" .object, maybe "features" .object,
  maybe "images" objects, maybe "nodeInfo" .object, maybe "phase" .text,
  maybe "runtimeHandlers" objects, maybe "volumesAttached" objects, maybe "volumesInUse" texts]

/-- The members of a node's condition before its status. -/
def conditionFields : List (String × Bool × Shape) := [
  maybe "lastHeartbeatTime" .time, maybe "lastTransitionTime" .time, maybe "message" .text,
  maybe "reason" .text]

end GeoPlacement.Catalog
