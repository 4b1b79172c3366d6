/-
# XYStage.Board.StepGenerator -- the step generator of an axis

Steps are generated by a PWM slice: a clock is divided by `divider`, a counter
runs from zero to `top`, and every round gives one step. `stepTiming` picks the
least divider under which the counter can hold a round of the wanted rate, and
then the counter's top.

A `PwmHardware` drives an axis this way. Its interrupt sources, its ramp timer and
its switch levels exist only as values that it shares with the sampling of its
inputs (`SharedSignals`). What it writes to its pins is kept as a list of
`OutputWrite`s.
-/
import XYStage.Motion.Axis

namespace XYStage

set_option autoImplicit false

/-- The least quotient of words that is not too small. -/
def ceilQuotient (n d : UInt64) : UInt64 :=
  if n % d = 0 then n / d else n / d + 1

/-- The divider and counter top that give `rate` rounds per second from a clock
of `clock` Hz. Rates out of reach of the largest divider are raised to the lowest
within it. -/
def stepTiming (clock rate : UInt32) : UInt8 × UInt16 :=
  let rate := (max 1 (min rate topStepRate)).toUInt64
  let clock := clock.toUInt64
  let divider := max 1 (min (ceilQuotient clock (rate * 65536)) 255)
  let rounds := clock / (divider * rate)
  let top := min (if rounds = 0 then 0 else rounds - 1) 65535
  (divider.toUInt8, top.toUInt16)

/-- What the hardware of an axis and the sampling of its inputs share. -/
structure SharedSignals where
  /-- The interrupt sources held disabled. -/
  masked : InterruptSet
  /-- Microseconds between ramp ticks; zero when there are none. -/
  tickPeriod : UInt32
  /-- Levels of the limit switches when last sampled. -/
  levels : Switches Bool
  deriving DecidableEq

def SharedSignals.new : SharedSignals := ⟨.empty, 0, ⟨false, false⟩⟩

/-- The configuration of a PWM slice. -/
structure SliceConfig where
  divider : UInt8
  top : UInt16
  /-- Counter value at which the output falls. -/
  compare : UInt16
  enabled : Bool
  deriving DecidableEq

/-- A write to an output of an axis. -/
inductive OutputWrite where
  /-- The level of the direction pin. -/
  | direction (high : Bool)
  /-- A configuration of the step generator. -/
  | step (config : SliceConfig)
  deriving DecidableEq

/-- The hardware of an axis whose steps come from a PWM slice. -/
structure PwmHardware where
  /-- Clock of the PWM slices, in Hz. -/
  clock : UInt32
  config : SliceConfig
  shared : SharedSignals
  /-- Everything written so far, the first first. -/
  writes : List OutputWrite
  deriving DecidableEq

namespace PwmHardware

def write (output : OutputWrite) (a : PwmHardware) : PwmHardware :=
  { a with writes := a.writes ++ [output] }

/-- Configure the step generator. -/
def configure (config : SliceConfig) (a : PwmHardware) : PwmHardware :=
  { a with config }.write (.step config)

/-- Generate steps at a rate. The output is high for half of each round. -/
def runAt (rate : UInt32) (a : PwmHardware) : PwmHardware :=
  let (divider, top) := stepTiming a.clock rate
  a.configure { divider, top, compare := top / 2, enabled := true }

/-- Stop the step generator, which keeps its divider and top. -/
def halt (a : PwmHardware) : PwmHardware :=
  a.configure { a.config with compare := 0, enabled := false }

/-- The hardware at power-up; the first thing it is told is to stop generating
steps. -/
def new (clock : UInt32) (shared : SharedSignals) : PwmHardware :=
  halt ⟨clock, ⟨0, 0, 0, false⟩, shared, []⟩

/-- Carry out an order. The direction pin is high for positive travel. -/
def perform (call : HardwareCall) (a : PwmHardware) : PwmHardware :=
  match call with
  | .disable source =>
      { a with shared := { a.shared with masked := a.shared.masked.insert source } }
  | .enable source =>
      { a with shared := { a.shared with masked := a.shared.masked.erase source } }
  | .steer direction => a.write (.direction (decide (direction = .positive)))
  | .startSteps rate => a.runAt rate
  | .changeRate rate => a.runAt rate
  | .stopSteps => a.halt
  | .startRamp period => { a with shared := { a.shared with tickPeriod := max period 1 } }
  | .stopRamp => { a with shared := { a.shared with tickPeriod := 0 } }

instance : AxisHardware PwmHardware where
  perform := perform
  homeLevel a := a.shared.levels.home
  farLevel a := a.shared.levels.far

end PwmHardware

end XYStage
