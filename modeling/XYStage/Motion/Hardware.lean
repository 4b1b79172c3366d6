/-
# XYStage.Motion.Hardware -- the hardware of one axis

An axis has a direction output, a step generator, a periodic ramp timer, two
limit switches, and interrupt sources of its own. What its hardware is told are
values (`HardwareCall`), so a run of calls is a list; reading a switch changes
nothing.
-/
import XYStage.Interrupt
import XYStage.Wire.Code

namespace XYStage

set_option autoImplicit false

/-- An order to the hardware of one axis. -/
inductive HardwareCall where
  | disable (source : InterruptSource)
  | enable (source : InterruptSource)
  | steer (direction : Direction)
  /-- Start generating steps, at a rate in steps per second. -/
  | startSteps (rate : UInt32)
  /-- Change the rate of the running step generator. -/
  | changeRate (rate : UInt32)
  | stopSteps
  /-- Start ramp ticks, with a period in microseconds. -/
  | startRamp (period : UInt32)
  | stopRamp
  deriving DecidableEq

/-- The hardware of one axis. -/
class AxisHardware (α : Type) where
  perform : HardwareCall → α → α
  /-- Level of the home switch. -/
  homeLevel : α → Bool
  /-- Level of the far switch. -/
  farLevel : α → Bool

instance {α : Type} [AxisHardware α] : InterruptControl α where
  disable source := AxisHardware.perform (.disable source)
  enable source := AxisHardware.perform (.enable source)

end XYStage
