import GeoPlacement.Json.Pointer
import GeoPlacement.Main
import GeoPlacement.Placement.Scheduling
import GeoPlacement.Proofs.Admission
import GeoPlacement.Proofs.Complement
import GeoPlacement.Proofs.ConvexRings
import GeoPlacement.Proofs.ExactDelays
import GeoPlacement.Proofs.Idempotence
import GeoPlacement.Proofs.Interleaving
import GeoPlacement.Proofs.NodeEvents
import GeoPlacement.Proofs.NodeGain
import GeoPlacement.Proofs.NodeOrder
import GeoPlacement.Proofs.Positions
import GeoPlacement.Proofs.Projection
import GeoPlacement.Proofs.Recognition
import GeoPlacement.Proofs.ReferenceSelection
import GeoPlacement.Proofs.Retries
import GeoPlacement.Proofs.ReverseIndex
import GeoPlacement.Proofs.RingNotation
import GeoPlacement.Proofs.SharedAffinity
import GeoPlacement.Proofs.StickySelection
import GeoPlacement.Proofs.Success
import GeoPlacement.Simulation.Scenario
