import DriveHealth.Gate
import DriveHealth.Main
import DriveHealth.Monitor.Bay
import DriveHealth.Monitor.Display
import DriveHealth.Proofs.Monitor.Transition
import DriveHealth.Proofs.Monitor.Moves
import DriveHealth.Proofs.Monitor.Provenance
import DriveHealth.Proofs.Monitor.CallTrace
import DriveHealth.Proofs.Monitor.FailedSteps
import DriveHealth.Proofs.CommandLine.Check
import DriveHealth.Proofs.Monitor.Snapshots
import DriveHealth.Proofs.Gate.Progress
import DriveHealth.Proofs.Attribute.Grammar
import DriveHealth.Proofs.SelfTest.Grammar
import DriveHealth.Proofs.Monitor.SharedGate
import DriveHealth.Proofs.Health.Counters
import DriveHealth.Proofs.Rows.FreeText
import DriveHealth.Proofs.CommandLine.Failures
import DriveHealth.Proofs.CommandLine.Arguments
import DriveHealth.Proofs.CommandLine.Calls
import DriveHealth.Proofs.Monitor.EventLog
import DriveHealth.Proofs.CommandLine.Extended
import DriveHealth.Proofs.Rows.Printed
import DriveHealth.Proofs.Information.Collected
import DriveHealth.Proofs.Information.Section
import DriveHealth.Proofs.Health.Growth
import DriveHealth.Proofs.Health.Irrelevance
import DriveHealth.Proofs.Monitor.BlankLines
import DriveHealth.Proofs.Temperature.Priority
import DriveHealth.Proofs.Temperature.Sanity
import DriveHealth.Proofs.Monitor.Support
import DriveHealth.Proofs.Power.Counters
import DriveHealth.Proofs.Power.Mode
import DriveHealth.Proofs.Information.Inserts
import DriveHealth.Proofs.Report.Decoding
import DriveHealth.Proofs.ByteSize.Units
import DriveHealth.Proofs.Numeral.Bytes
import DriveHealth.Proofs.Temperature.FirstLine
