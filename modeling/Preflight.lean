import Preflight.Main
import Preflight.Proofs.Catalog.Removal
import Preflight.Proofs.Check.Remaining
import Preflight.Proofs.Command.ExitCode
import Preflight.Proofs.Command.Layers
import Preflight.Proofs.Command.Usable
import Preflight.Proofs.Glob.Acceptance
import Preflight.Proofs.Registry.History
import Preflight.Proofs.Report.Agreement
import Preflight.Proofs.Report.Decoding
import Preflight.Proofs.Report.Severity
import Preflight.Proofs.Result.History
import Preflight.Proofs.Result.Rules
import Preflight.Proofs.Run.Completion
import Preflight.Proofs.Run.DryRun
import Preflight.Proofs.Run.FanOut
import Preflight.Proofs.Run.Instances
import Preflight.Proofs.Run.Interchange
import Preflight.Proofs.Run.Isolation
import Preflight.Proofs.Run.OwnIdentity
import Preflight.Proofs.Run.Prolonged
import Preflight.Proofs.Run.Relevance
import Preflight.Proofs.Run.Rendering
import Preflight.Proofs.Run.Return
import Preflight.Proofs.Run.Selection
import Preflight.Proofs.Run.WellMade
import Preflight.Proofs.Snapshot.Reads
import Preflight.Proofs.Snapshot.Shapes
import Preflight.Registry.History
import Preflight.Timestamp.Iso
