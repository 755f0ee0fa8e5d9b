import ControlPool.Session
import ControlPool.Toml.Settings
import ControlPool.Proofs.Provenance
import ControlPool.Proofs.Scan
import ControlPool.Proofs.Extracted
import ControlPool.Proofs.Inclusion
import ControlPool.Proofs.Keywise
import ControlPool.Proofs.Survival
import ControlPool.Proofs.Overwriting
import ControlPool.Proofs.CleanRun
import ControlPool.Proofs.RegistryRun
import ControlPool.Proofs.Partition
import ControlPool.Proofs.JsonShape
import ControlPool.Proofs.Ingress
import ControlPool.Proofs.Frame
import ControlPool.Proofs.Identity
import ControlPool.Proofs.Reordering
import ControlPool.Proofs.Noninterference
import ControlPool.Proofs.Renewal
import ControlPool.Proofs.Replay
import ControlPool.Proofs.Counters
import ControlPool.Proofs.Interleaving
import ControlPool.Proofs.JsonReader
import ControlPool.Proofs.PayloadSize
import ControlPool.Proofs.StateCodec
import ControlPool.Proofs.Committed
import ControlPool.Proofs.Truncation
import ControlPool.Proofs.Boundary
import ControlPool.Proofs.Decision
import ControlPool.Proofs.PayloadText
import ControlPool.Proofs.Outcome
import ControlPool.Proofs.Trust
import ControlPool.Proofs.Policies
import ControlPool.Proofs.Contribution
import ControlPool.Proofs.RollCall
import ControlPool.Proofs.Selection
import ControlPool.Proofs.Collision
import ControlPool.Proofs.TransactionCodec
import ControlPool.Proofs.Classification
import ControlPool.Proofs.CheckedArithmetic
import ControlPool.Proofs.LastOccurrence
import ControlPool.Proofs.Label
