import XYStage.Bench.Drive
import XYStage.Bench.Hex
import XYStage.Bench.Label
import XYStage.Bench.Name
import XYStage.Bench.Recorder
import XYStage.Bench.Rig
import XYStage.Bench.Script
import XYStage.Bench.Sensors
import XYStage.Bench.Store
import XYStage.Bench.Wire
import XYStage.Board.Firmware
import XYStage.Calibration.FlashChip
import XYStage.Link.Host
import XYStage.Link.NullModem
import XYStage.Proofs.Board.Sampling
import XYStage.Proofs.Board.Schedule
import XYStage.Proofs.Board.Timing
import XYStage.Proofs.Board.Writing
import XYStage.Proofs.Calibration.Alteration
import XYStage.Proofs.Calibration.Image
import XYStage.Proofs.Calibration.Loading
import XYStage.Proofs.Calibration.Rates
import XYStage.Proofs.Calibration.Saving
import XYStage.Proofs.Calibration.Table
import XYStage.Proofs.Controller.Answers
import XYStage.Proofs.Controller.Coherence
import XYStage.Proofs.Controller.Homing
import XYStage.Proofs.Controller.Outage
import XYStage.Proofs.Controller.Position
import XYStage.Proofs.Controller.Refusals
import XYStage.Proofs.Controller.Settings
import XYStage.Proofs.Controller.Transitions
import XYStage.Proofs.Controller.Unrecorded
import XYStage.Proofs.Ieee.Comparison
import XYStage.Proofs.Ieee.Rounding
import XYStage.Proofs.Link.Arrears
import XYStage.Proofs.Link.Blocking
import XYStage.Proofs.Link.Deadline
import XYStage.Proofs.Link.Dialogue
import XYStage.Proofs.Link.Duplex
import XYStage.Proofs.Link.Reception
import XYStage.Proofs.Link.Service
import XYStage.Proofs.Motion.Arrival
import XYStage.Proofs.Motion.Course
import XYStage.Proofs.Motion.Debounce
import XYStage.Proofs.Motion.Guard
import XYStage.Proofs.Motion.Outputs
import XYStage.Proofs.Motion.Ramps
import XYStage.Proofs.Motion.Velocity
import XYStage.Proofs.Setup.Emission
import XYStage.Proofs.Setup.Sections
import XYStage.Proofs.Wire.Catalogue
import XYStage.Proofs.Wire.Resynchronisation
import XYStage.Setup.Build
