import SuperChip.Main
import SuperChip.Text.Line
import SuperChip.Proofs.Core.Range
import SuperChip.Proofs.Instruction.Table
import SuperChip.Proofs.Core.Effect
import SuperChip.Proofs.Core.Fault
import SuperChip.Proofs.Core.Flow
import SuperChip.Proofs.Machine.Step
import SuperChip.Proofs.Machine.History
import SuperChip.Proofs.Machine.Failure
import SuperChip.Proofs.Machine.Refinement
import SuperChip.Machine.Clock
import SuperChip.Rig
import SuperChip.Proofs.Text.Template
import SuperChip.Proofs.Rig.Course
import SuperChip.Proofs.Rig.Creation
import SuperChip.Proofs.Rig.Lifecycle
import SuperChip.Proofs.Rig.Observers
import SuperChip.Proofs.Rig.Simulation
import SuperChip.Proofs.Core.Devices
import SuperChip.Proofs.Machine.Script
import SuperChip.Proofs.Machine.TwoRuns
import SuperChip.Proofs.Machine.Twins
import SuperChip.Proofs.Machine.Reset
import SuperChip.Proofs.Machine.Time
import SuperChip.Proofs.List.Pieces
import SuperChip.Proofs.Frame.Rendering
import SuperChip.Proofs.Session.Picture
import SuperChip.Proofs.Core.Frame
import SuperChip.Proofs.Machine.Moment
import SuperChip.Proofs.Machine.Ranges
import SuperChip.Proofs.Machine.Calls
import SuperChip.Proofs.Trace.Ring
import SuperChip.Proofs.Machine.Recording
import SuperChip.Proofs.Machine.Disassembly
import SuperChip.Proofs.Screen.Drawing
import SuperChip.Proofs.Machine.KeyWait
import SuperChip.Proofs.Machine.Lifecycle
import SuperChip.Proofs.Session.Quiet
import SuperChip.Proofs.Session.Protocol
import SuperChip.Proofs.Machine.Lockstep
import SuperChip.Proofs.Timer.Firing
import SuperChip.Proofs.Screen.Fitting
import SuperChip.Proofs.Core.Drawing
import SuperChip.Proofs.Core.Arithmetic
import SuperChip.Proofs.Machine.Iteration
import SuperChip.Proofs.Keypad.Holders
import SuperChip.Proofs.Listing.Reading
import SuperChip.Proofs.Instruction.Assembly
import SuperChip.Proofs.Core.Transfer
import SuperChip.Proofs.Screen.Torus
import SuperChip.Proofs.Session.Loading
import SuperChip.Session.Clock
import SuperChip.Session.Run.Clock
import SuperChip.Proofs.Session.Shell
import SuperChip.Proofs.Session.Address
import SuperChip.Proofs.Session.Window
import SuperChip.Proofs.Session.Report
import SuperChip.Proofs.Session.Halting
import SuperChip.Proofs.Machine.Chance
import SuperChip.Proofs.Double.Order
import SuperChip.Proofs.Beeper.Balance
import SuperChip.Proofs.Timer.Rate
import SuperChip.Proofs.Memory.Accesses
