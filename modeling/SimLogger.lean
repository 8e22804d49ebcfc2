import SimLogger.Spec.Level
import SimLogger.Spec.Dir
import SimLogger.Spec.FileSink
import SimLogger.Spec.Timestamp
import SimLogger.Spec.Suffix
import SimLogger.Spec.RotatingFileSink
import SimLogger.Sanity.Steps
import SimLogger.Sanity.Order
import SimLogger.Proofs.Level
import SimLogger.Proofs.Greedy
import SimLogger.Proofs.WriteLine
import SimLogger.Proofs.RotateFailure
import SimLogger.Proofs.Prune
import SimLogger.Proofs.Counter
import SimLogger.Proofs.Suffix
import SimLogger.Proofs.Timestamp
import SimLogger.Proofs.SameSecond
import SimLogger.Proofs.Construct
import SimLogger.Proofs.Probe
import SimLogger.Proofs.Preserve
import SimLogger.Proofs.Frame
import SimLogger.Proofs.SizeBound
import SimLogger.Proofs.AppendLog
import SimLogger.Proofs.Retention
