import GeoPlacement.Controller.Context

/-!
# Start-up

Before anything else the operator waits for its caches, for a limited time: first the resources,
then the nodes, then the workloads of all kinds together.
-/

namespace GeoPlacement

/-- Why the operator cannot start. -/
inductive CacheSyncError
  /-- The time is over. -/
  | elapsed
  /-- A cache will never be ready. -/
  | cacheLost
deriving Repr, DecidableEq

/-- The text of a failure, as far as it is the operator's own. -/
def CacheSyncError.message : CacheSyncError → String
  | elapsed => "Caches did not sync in time."
  | cacheLost => "store writer dropped"

/-- The readiness of all caches in the order in which they are awaited. -/
def cacheReadiness (resources nodes : Readiness) (workloads : List Readiness) : Readiness :=
  resources.andThen (nodes.andThen (.together workloads))

/-- What comes of waiting for caches that stay as they are. -/
def awaitCaches (readiness : Readiness) : Except CacheSyncError Unit :=
  match readiness with
  | .ready => .ok ()
  | .pending => .error .elapsed
  | .lost => .error .cacheLost

end GeoPlacement
