/-
# XYStage.Board.Firmware -- the parts of the board at work together

The firmware samples the inputs of both axes into one queue, and then lets the
controller drain the queue, make up for lost switch edges and poll. Here one
iteration does all of it at the time of the board's clock. The axes are made
after the inputs, so that they start from the switch levels of the pins.
-/
import XYStage.Board.Converter
import XYStage.Board.InputMonitor
import XYStage.Board.UartLine
import XYStage.Controller.Basic

namespace XYStage

set_option autoImplicit false

/-- The controller as the board has it, over a UART `υ`. -/
abbrev BoardController (υ : Type) :=
  Controller (UartLine υ) PwmHardware ChannelBank SettingTable

/-- The controller with the sampling of its inputs. -/
structure Firmware (υ : Type) where
  controller : BoardController υ
  inputsX : InputMonitor
  inputsY : InputMonitor
  queue : EventQueue

/-- What one iteration found. -/
structure IterationReport where
  /-- The motions that ended. -/
  ends : List MotionEnding
  poll : PollReport UartError

namespace Firmware

/-- Bits per second of the host link. -/
def baudRate : UInt32 := 115200

/-- Places of the event queue. -/
def queueSlots : Nat := 64

/-- Most names in the calibration store. -/
def storeCapacity : Nat := 32

variable {υ : Type} [Uart υ]

/-- The board at power-up, with its slices clocked at `clock` Hz. -/
def boot (clock : UInt32) (pinsX pinsY : InputPins) (uart : υ) (sensors : ChannelBank)
    (store : SettingTable) : Firmware υ :=
  let (_, link) := SerialLine.openAt baudRate (UartLine.new uart)
  let (inputsX, sharedX) := InputMonitor.new .x pinsX .new
  let (inputsY, sharedY) := InputMonitor.new .y pinsY .new
  let axes := Axes.new (PwmHardware.new clock sharedX) (PwmHardware.new clock sharedY)
  { controller := .new (.new link) axes sensors store
    inputsX, inputsY, queue := .ofSlots queueSlots }

/-- Sample the inputs of both axes, X first. -/
def sample (pinsX pinsY : InputPins) (now : Nat) (f : Firmware υ) : Firmware υ :=
  let axes := f.controller.axes
  let (sharedX, queue, inputsX) := f.inputsX.sample pinsX now axes.x.hardware.shared f.queue
  let (sharedY, queue, inputsY) := f.inputsY.sample pinsY now axes.y.hardware.shared queue
  let axes : Axes PwmHardware :=
    { x := { axes.x with hardware := { axes.x.hardware with shared := sharedX } }
      y := { axes.y with hardware := { axes.y.hardware with shared := sharedY } } }
  { controller := { f.controller with axes }, inputsX, inputsY, queue }

/-- One iteration, at the time of the board's clock. -/
def iterate (pinsX pinsY : InputPins) (f : Firmware υ) : IterationReport × Firmware υ :=
  let now := Uart.micros f.controller.exchange.frames.line.uart
  let f := f.sample pinsX pinsY now
  let (_, drained, queue, controller) := f.controller.drain f.queue
  let (recovered, controller) := controller.recoverEdges (UInt32.ofNat (now / 1000))
  let (poll, controller) := controller.poll
  ({ ends := drained ++ recovered, poll }, { f with controller, queue })

end Firmware

end XYStage
