import TimeGate.Gate.Session
import TimeGate.Main
import TimeGate.Proofs.Command.Report
import TimeGate.Proofs.Gate.Decision
import TimeGate.Proofs.Gate.Evaluation
import TimeGate.Proofs.Gate.Explanation
import TimeGate.Proofs.Gate.Messages
import TimeGate.Proofs.Gate.Runs
import TimeGate.Proofs.Instant.RoundTrip
import TimeGate.Proofs.Schedule.Canonical
import TimeGate.Proofs.Schedule.Complement
import TimeGate.Proofs.Schedule.Cycle
import TimeGate.Proofs.Schedule.RoundTrip
import TimeGate.Proofs.Schedule.Strictness
import TimeGate.Proofs.Schedule.Union
import TimeGate.Proofs.Settings.Document
import TimeGate.Proofs.Settings.References
import TimeGate.Proofs.Settings.Reloading
import TimeGate.Proofs.Shape.Dumps
import TimeGate.Proofs.Zone.Names
