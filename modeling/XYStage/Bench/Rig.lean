/-
# XYStage.Bench.Rig -- the board's parts on scripted pins and wires

An `AxisRig` is one axis of the board by itself: its pins, the sampling of them,
its hardware and a queue. A `BoardRig` is the whole firmware with the pins of both
axes on a scripted serial line.
-/
import XYStage.Bench.Drive
import XYStage.Bench.Wire
import XYStage.Board.Firmware

namespace XYStage

set_option autoImplicit false

/-- A write as a line. -/
def OutputWrite.text : OutputWrite → String
  | .direction high => if high then "high" else "low"
  | .step config =>
      "pwm div=" ++ toString config.divider.toNat ++ " top=" ++ toString config.top.toNat ++
        " compare=" ++ toString config.compare.toNat ++ " enable=" ++ toString config.enabled

/-- The lines of what was written, and the hardware without them. -/
def PwmHardware.takeLines (a : PwmHardware) : List String × PwmHardware :=
  (a.writes.map OutputWrite.text, { a with writes := [] })

/-- Pins of an axis with no switch closed and no edge counted. -/
def InputPins.idle : InputPins := ⟨0, ⟨false, false⟩⟩

/-- One axis of the board by itself. -/
structure AxisRig where
  pins : InputPins
  inputs : InputMonitor
  hardware : PwmHardware
  queue : EventQueue

namespace AxisRig

/-- An axis at power-up, its inputs made before its hardware. -/
def new (id : AxisId) (pins : InputPins) (clock : UInt32) (slots : Nat) : AxisRig :=
  let (inputs, shared) := InputMonitor.new id pins .new
  ⟨pins, inputs, .new clock shared, .ofSlots slots⟩

/-- Sample the pins at a time in microseconds. -/
def sample (now : Nat) (rig : AxisRig) : AxisRig :=
  let (shared, queue, inputs) := rig.inputs.sample rig.pins now rig.hardware.shared rig.queue
  { rig with inputs, queue, hardware := { rig.hardware with shared } }

/-- Take at most so many events from the queue, or all. -/
def drain (count : Option Nat) (rig : AxisRig) : List InputEvent × AxisRig :=
  let count := count.getD rig.queue.events.length
  (rig.queue.events.take count,
    { rig with queue := { rig.queue with events := rig.queue.events.drop count } })

def perform (call : HardwareCall) (rig : AxisRig) : AxisRig :=
  { rig with hardware := rig.hardware.perform call }

/-- The lines of what the hardware wrote, and the rig without them. -/
def takeLines (rig : AxisRig) : List String × AxisRig :=
  let (lines, hardware) := rig.hardware.takeLines
  (lines, { rig with hardware })

end AxisRig

/-- The firmware with the pins of both axes. -/
structure BoardRig where
  firmware : Firmware BenchWire
  pinsX : InputPins
  pinsY : InputPins

namespace BoardRig

def wire (rig : BoardRig) : BenchWire :=
  rig.firmware.controller.exchange.frames.line.uart

def setWire (wire : BenchWire) (rig : BoardRig) : BoardRig :=
  let (_, controller) := rig.firmware.controller.onLine fun link => ((), { link with uart := wire })
  { rig with firmware := { rig.firmware with controller } }

/-- The board at power-up. Its store holds the default calibration, over which the
given values are written. -/
def boot (clock : UInt32) (pinsX pinsY : InputPins) (start : Nat) (bank : ChannelBank)
    (values : List (UInt8 × Setting)) : BoardRig :=
  let (_, store) := Calibration.default.toStore (SettingTable.empty Firmware.storeCapacity)
  let store := values.foldl (fun store (key, value) => (store.write key value).2) store
  ⟨.boot clock pinsX pinsY { BenchWire.idle with now := start } bank store, pinsX, pinsY⟩

/-- One iteration of the firmware after so many microseconds. -/
def iterate (us : Nat) (rig : BoardRig) : IterationReport × BoardRig :=
  let rig := rig.setWire { rig.wire with now := rig.wire.now + us }
  let (report, firmware) := rig.firmware.iterate rig.pinsX rig.pinsY
  (report, { rig with firmware })

/-- Many iterations, `us` microseconds apart, with their reports. -/
def run (loops us : Nat) (rig : BoardRig) : List IterationReport × BoardRig :=
  repeated loops
    (fun _ rig =>
      let (report, rig) := rig.iterate us
      ([report], rig))
    rig

/-- The lines of what was written for either axis, and the rig without them. -/
def takeLines (rig : BoardRig) : List (List String) × BoardRig :=
  let axes := rig.firmware.controller.axes
  let (linesX, hardwareX) := axes.x.hardware.takeLines
  let (linesY, hardwareY) := axes.y.hardware.takeLines
  let axes : Axes PwmHardware :=
    { x := { axes.x with hardware := hardwareX }, y := { axes.y with hardware := hardwareY } }
  ([linesX, linesY], { rig with firmware := { rig.firmware with
    controller := { rig.firmware.controller with axes } } })

end BoardRig

/-- Whether a poll found nothing to do. -/
def PollReport.isQuiet {ε : Type} (report : PollReport ε) : Bool :=
  report.failure.isNone && decide (report.record = .nothing)

end XYStage
