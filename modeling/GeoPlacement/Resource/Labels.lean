/-!
# Names in the cluster

The names by which the operator, the nodes and the scheduler find each other: the labels that a
labelling service puts on nodes, the mark on everything the operator manages, and the interface
under which its own resource is served.
-/

namespace GeoPlacement

namespace Label

/-- The name of a node as the scheduler sees it. -/
def hostname : String := "kubernetes.io/hostname"

/-- The city of a node. -/
def city : String := "edge-net.io/city"

/-- The state or region of a node. -/
def state : String := "edge-net.io/state-iso"

/-- The country of a node. -/
def country : String := "edge-net.io/country-iso"

/-- The continent of a node. -/
def continent : String := "edge-net.io/continent"

/-- The latitude of a node, after an `n` or `s`. -/
def latitude : String := "edge-net.io/lat"

/-- The longitude of a node, after an `e` or `w`. -/
def longitude : String := "edge-net.io/lon"

/-- The label of everything that is managed for a resource. -/
def managedBy : String := "app.kubernetes.io/managed-by"

/-- The value of `managedBy` on what this operator manages. -/
def manager : String := "selective-deployment-operator"

end Label

/-- The annotation that holds the digest of a workload's desired form. -/
def templateHash : String := "apps.edgenet.io/template-hash"

/-- The group of the operator's own resource. -/
def resourceGroup : String := "apps.edgenet.io"

/-- The version of the operator's own resource. -/
def resourceVersion : String := "v1alpha1"

/-- The group and version of the operator's own resource. -/
def resourceApiVersion : String := resourceGroup ++ "/" ++ resourceVersion

/-- The kind of the operator's own resource. -/
def resourceKind : String := "SelectiveDeployment"

/-- The name under which the server lists the operator's own resources. -/
def resourcePlural : String := "selectivedeployments"

end GeoPlacement
