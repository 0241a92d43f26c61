import Driftwatch.Admission
import Driftwatch.Client.Connection
import Driftwatch.Main
import Driftwatch.Proofs.Decision
import Driftwatch.Proofs.Eviction
import Driftwatch.Proofs.Rehearsal.Traffic
import Driftwatch.Proofs.Traffic.Phases
import Driftwatch.Proofs.Traffic.Targets
import Driftwatch.Proofs.Bookkeeping
import Driftwatch.Proofs.Parent.StampOwner
import Driftwatch.Proofs.Traffic.Rosters
import Driftwatch.Proofs.Record
import Driftwatch.Proofs.Traffic.Desk
import Driftwatch.Proofs.Traffic.Settling
import Driftwatch.Proofs.Traffic.Coalescing
import Driftwatch.Proofs.Traffic.Deletion
import Driftwatch.Proofs.Traffic.Interrupts
import Driftwatch.Proofs.Traffic.Returns
import Driftwatch.Proofs.Crew
import Driftwatch.Proofs.Rehearsal.Response
import Driftwatch.Proofs.Attempts
import Driftwatch.Proofs.Traffic.Rounds
import Driftwatch.Proofs.Frame
import Driftwatch.Proofs.Provenance.Forms
import Driftwatch.Proofs.Provenance.Claimants
import Driftwatch.Proofs.Standing
import Driftwatch.Proofs.Base36
import Driftwatch.Proofs.Fingerprint
import Driftwatch.Proofs.Lifecycle
import Driftwatch.Proofs.Reason
import Driftwatch.Proofs.Parent.Reach
import Driftwatch.Proofs.Client.Addresses
import Driftwatch.Proofs.Delay
import Driftwatch.Proofs.Strategies
import Driftwatch.Proofs.Parent.Ref
