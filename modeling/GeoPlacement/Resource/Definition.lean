import GeoPlacement.Resource.Labels
import GeoPlacement.Resource.SelectiveDeployment
import GeoPlacement.Resource.Schema

/-!
# The definition of the resource

What a server has to know to serve selective deployments: their names, the schema of their members
and the columns in which they are listed. The declared workloads may stand under either of their
two names, and the schema requires neither, since a server drops every member that it does not
know. `resourceDefinition` is the document that is handed to the server.
-/

namespace GeoPlacement

namespace Definition

/-- The declared workloads. A template is kept as it is. -/
def controllers : Schema :=
  .described "Workload templates, grouped by kind." <| .withDefault (.obj []) <|
    .object (Kind.all.map fun kind => (Controllers.memberName kind, .list .embedded)) []

/-- Zero as a lower bound, which is written `0.0`. -/
def zeroBound : Json :=
  .decimal ⟨false, Decimal.zeros 1, Decimal.zeros 1, 0⟩

/-- A selector. -/
def selector : Schema :=
  .object [
    ("name", .described "One of `city`, `state`, `country`, `continent` or `polygon`." .text),
    ("value", .described "Geo literals, or JSON coordinate rings for `polygon`." <|
      .withDefault (.arr []) (.list .text)),
    ("operator", .choice [Operator.anyOf.name, Operator.noneOf.name]),
    ("quantity", .described "Upper bound of selected nodes, `0` selects every match." <|
      .withDefault (.int 0) (.integer "uint32" (some zeroBound)))]
    ["name", "operator"]

/-- What a tenant asks for. -/
def spec : Schema :=
  .object [
    ("controllers", controllers),
    ("workloads", controllers),
    ("selector", .described "Placement criteria, compiled in order into node selector terms." <|
      .withDefault (.arr []) (.list selector)),
    ("recovery",
      .described "Re-evaluate placement when a selected node becomes unavailable." <|
        .withDefault (.bool false) .flag)]
    []

/-- What the operator reports. -/
def status : Schema :=
  .nullable <| .object [
    ("ready", .described "Reconciled over declared workloads, e.g. `2/3`." .text),
    ("state", .choice ([State.success, .partly, .failure, .unknown].map State.name)),
    ("message", .withDefault (.arr []) (.list .text)),
    ("observedGeneration", .nullable (.integer "int64" none))]
    ["ready", "state"]

/-- The resource as a whole. -/
def resource : Schema :=
  .titled resourceKind <|
    .described "Auto-generated derived type for SelectiveDeploymentSpec via `CustomResource`" <|
      .object [("spec", spec), ("status", status)] ["spec"]

/-- A column of the list of resources. -/
def column (name path : String) : Json :=
  .obj [("jsonPath", .str path), ("name", .str name), ("type", .str "string")]

/-- The names of the resource. -/
def names : Json :=
  .obj [("categories", .arr []), ("kind", .str resourceKind), ("plural", .str resourcePlural),
    ("shortNames", Json.ofStrings ["sd"]), ("singular", .str "selectivedeployment")]

/-- The only version of the resource. -/
def version : Json :=
  .obj [
    ("additionalPrinterColumns",
      .arr [column "Ready" ".status.ready", column "State" ".status.state"]),
    ("name", .str resourceVersion),
    ("schema", .obj [("openAPIV3Schema", resource.write)]),
    ("served", .bool true), ("storage", .bool true),
    ("subresources", .obj [("status", .obj [])])]

end Definition

/-- The **definition** of the resource. -/
def resourceDefinition : Json :=
  .obj [
    ("apiVersion", .str "apiextensions.k8s.io/v1"),
    ("kind", .str "CustomResourceDefinition"),
    ("metadata", .obj [("name", .str (resourcePlural ++ "." ++ resourceGroup))]),
    ("spec", .obj [
      ("group", .str resourceGroup), ("names", Definition.names),
      ("scope", .str "Namespaced"), ("versions", .arr [Definition.version])])]

end GeoPlacement
