import GeoPlacement.Json.Block
import GeoPlacement.Resource.Definition

/-!
# Command line

Prints the definition of the resource, ready to be handed to a server.
-/

/-- Prints the definition. -/
def main : IO Unit := do
  (← IO.getStdout).putStrLn GeoPlacement.resourceDefinition.block
