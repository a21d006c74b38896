import Delegation.Bench
import Delegation.FileTree
import Delegation.Main
import Delegation.Proofs.Agreement
import Delegation.Proofs.Budget
import Delegation.Proofs.Envelopes
import Delegation.Proofs.Frame
import Delegation.Proofs.FruitlessMemory
import Delegation.Proofs.Overlap
import Delegation.Proofs.ReportedError
import Delegation.Proofs.RoundTrip
import Delegation.Proofs.Shapes
import Delegation.Proofs.Tracking
import Delegation.Proofs.Upkeep
import Delegation.Proofs.Merging
import Delegation.Proofs.Catalog
import Delegation.Proofs.Outcomes
import Delegation.Proofs.Eviction
import Delegation.Proofs.Lifecycle
import Delegation.Proofs.Containment
import Delegation.Proofs.Growth
import Delegation.Proofs.Unfilled
import Delegation.Proofs.Splicing
import Delegation.Proofs.Indifference
import Delegation.Proofs.Substitution
import Delegation.Proofs.Layers
import Delegation.Proofs.LatestReply
import Delegation.Proofs.Callers
import Delegation.Proofs.Timestamps
import Delegation.Proofs.Deadlines
