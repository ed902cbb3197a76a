import CallBridge.Contention
import CallBridge.Main
import CallBridge.Proofs.Admission.Accounting
import CallBridge.Proofs.Admission.Reservation
import CallBridge.Proofs.Admission.Succession
import CallBridge.Proofs.Admission.Tenure
import CallBridge.Proofs.Calls.Intent
import CallBridge.Proofs.Demo.Completion
import CallBridge.Proofs.Loop.EarlyHalt
import CallBridge.Proofs.Loop.FirstFailure
import CallBridge.Proofs.Loop.Hiring
import CallBridge.Proofs.Loop.Outcomes
import CallBridge.Proofs.Loopback.Brittle
import CallBridge.Proofs.Loopback.Contract
import CallBridge.Proofs.Loopback.Dropped
import CallBridge.Proofs.Loopback.EarlyCancel
import CallBridge.Proofs.Loopback.Passage
import CallBridge.Proofs.Script.Worlds
import CallBridge.Proofs.Settings.Exact
import CallBridge.Proofs.Stream.BrokenOff
import CallBridge.Proofs.Stream.Closes
import CallBridge.Proofs.Stream.Inspection
import CallBridge.Proofs.Stream.Overtaking
import CallBridge.Proofs.Unary.Success
import CallBridge.Proofs.Loop.Pending
import CallBridge.Proofs.Calls.Rounds
import CallBridge.Proofs.Script.Rounds
