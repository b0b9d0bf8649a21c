import GeoPlacement.Collection.Table
import GeoPlacement.Object.Metadata

/-!
# Generations

The server counts the changes of what a tenant asks for as the **generation** of the resource. A
change that leaves the generation as it was, such as a new status, needs no pass. `Generations`
remembers the generation last seen of each resource and tells news from repetition. A resource
without a generation is always news.
-/

namespace GeoPlacement

/-- What makes two sights of a resource the same resource: a name that is used again gets another
identifier. -/
structure ResourceIdentity where
  name : Option String
  inNamespace : Option String
  uid : Option String
deriving Repr, DecidableEq

/-- The identity of the object of some metadata. -/
def Metadata.identity (m : Metadata) : ResourceIdentity :=
  ⟨m.name, m.inNamespace, m.uid⟩

/-- The generation last seen of each resource. -/
structure Generations where
  seen : Table ResourceIdentity Int64 := .empty
deriving Inhabited

namespace Generations

/-- Whether a resource is news, and what is remembered after it. -/
def observe (g : Generations) (m : Metadata) : Bool × Generations :=
  match m.generation with
  | none => (true, g)
  | some generation =>
    (g.seen.get? m.identity != some generation, ⟨g.seen.insert m.identity generation⟩)

end Generations

end GeoPlacement
