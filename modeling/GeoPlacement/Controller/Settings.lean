import GeoPlacement.Cluster.Count
import GeoPlacement.Collection.Table

/-!
# Settings

The operator is set up by variables of its environment, each with a default. The first variable
that does not hold a number of its range is reported.
-/

namespace GeoPlacement

/-- The settings of the retries of failed passes. -/
structure BackoffSettings where
  retryLimit : Nat := 5
  baseMillis : Nat := 500
  maxSeconds : Nat := 300
deriving Repr, DecidableEq

/-- The settings of the operator. -/
structure Settings where
  /-- How many passes may run at a time; zero sets no bound. -/
  threadiness : Nat := 2
  debounceSeconds : Nat := 1
  resyncSeconds : Nat := 1800
  cacheSyncTimeoutSeconds : Nat := 60
  backoff : BackoffSettings := {}
deriving Repr, DecidableEq

/-- A variable that does not hold a number of its range. -/
structure SettingsError where
  name : String
deriving Repr, DecidableEq

/-- The text of the failure. -/
def SettingsError.message (e : SettingsError) : String :=
  s!"Failed to parse environment variable {e.name}"

namespace Settings

/-- The beginning of the names of all variables. -/
def variableStem : String := "SELECTIVE_DEPLOYMENT__"

/-- Reads a variable as a number of so many bits. -/
def number (env : Table String String) (name : String) (bits default : Nat) :
    Except SettingsError Nat :=
  let fullName := variableStem ++ name
  match env.get? fullName with
  | none => .ok default
  | some text =>
    match readCount? (1 <<< bits) text with
    | some value => .ok value
    | none => .error ⟨fullName⟩

/-- Reads the settings from an environment. -/
def read (env : Table String String) : Except SettingsError Settings := do
  let threadiness ← number env "THREADINESS" 16 2
  let debounceSeconds ← number env "DEBOUNCE_SECONDS" 64 1
  let resyncSeconds ← number env "RESYNC_SECONDS" 64 1800
  let cacheSyncTimeoutSeconds ← number env "CACHE_SYNC_TIMEOUT_SECONDS" 64 60
  let retryLimit ← number env "RETRY_LIMIT" 32 5
  let baseMillis ← number env "BACKOFF_BASE_MILLIS" 64 500
  let maxSeconds ← number env "BACKOFF_MAX_SECONDS" 64 300
  return { threadiness, debounceSeconds, resyncSeconds, cacheSyncTimeoutSeconds
           backoff := { retryLimit, baseMillis, maxSeconds } }

end Settings

end GeoPlacement
