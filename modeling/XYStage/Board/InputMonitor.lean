/-
# XYStage.Board.InputMonitor -- sampling the inputs of an axis

Encoder edges are counted in hardware, modulo `2 ^ 16`; limit switches are pins;
ramp ticks follow from the time. `InputMonitor.sample` turns what has happened
since the last sample into events. What is masked, or does not fit the queue, is
kept for a later sample: encoder edges as a count, ramp ticks by leaving the time
of the next one behind, switch edges by leaving the last reported level as it is.
-/
import XYStage.Board.StepGenerator
import XYStage.Motion.InputEvent

namespace XYStage

set_option autoImplicit false

/-- The inputs of an axis at one moment. -/
structure InputPins where
  /-- Encoder edges counted so far, modulo `2 ^ 16`. -/
  count : UInt16
  /-- Which limit switches are closed. -/
  closed : Switches Bool
  deriving DecidableEq

/-- What is known of the inputs of an axis from earlier samples. -/
structure InputMonitor where
  id : AxisId
  seenCount : UInt16
  /-- Encoder edges counted and not yet queued. -/
  unqueued : UInt32
  /-- When the next ramp tick is due, in microseconds. -/
  nextTick : Option Nat
  /-- Switch levels of the last edges queued. -/
  reported : Switches Bool
  deriving DecidableEq

namespace InputMonitor

/-- Publish the present switch levels, and count encoder edges from here. -/
def new (id : AxisId) (pins : InputPins) (shared : SharedSignals) : InputMonitor × SharedSignals :=
  ({ id, seenCount := pins.count, unqueued := 0, nextTick := none, reported := pins.closed },
    { shared with levels := pins.closed })

/-- Queue encoder edges. -/
def sampleEncoder (count : UInt16) (shared : SharedSignals) (queue : EventQueue)
    (inputs : InputMonitor) : EventQueue × InputMonitor :=
  let unqueued := inputs.unqueued + (count - inputs.seenCount).toUInt32
  let inputs := { inputs with seenCount := count, unqueued }
  if shared.masked.contains .encoder then (queue, inputs)
  else
    let (queued, queue) := queue.pushMany unqueued.toNat (.encoder inputs.id)
    (queue, { inputs with unqueued := unqueued - UInt32.ofNat queued })

/-- Ramp ticks due by `now`, the first of them due at `next`. -/
def ticksDue (period next now : Nat) : Nat :=
  if next ≤ now then (now - next) / period + 1 else 0

/-- Queue ramp ticks. The first is due one period after the first sample
at which the timer runs. -/
def sampleRamp (now : Nat) (shared : SharedSignals) (queue : EventQueue) (inputs : InputMonitor) :
    EventQueue × InputMonitor :=
  let period := shared.tickPeriod.toNat
  if period = 0 then (queue, { inputs with nextTick := none })
  else
    let next := inputs.nextTick.getD (now + period)
    if shared.masked.contains .rampTimer then (queue, { inputs with nextTick := some next })
    else
      let (queued, queue) := queue.pushMany (ticksDue period next now) (.rampTick inputs.id)
      (queue, { inputs with nextTick := some (next + queued * period) })

/-- The interrupt source of a limit switch. -/
def source : LimitSwitch → InterruptSource
  | .home => .homeSwitch
  | .far => .farSwitch

/-- Publish the level of a switch, and queue an edge if the level is not the one
last reported. -/
def sampleSwitch (switch : LimitSwitch) (level : Bool) (now : Nat) (shared : SharedSignals)
    (queue : EventQueue) (inputs : InputMonitor) : SharedSignals × EventQueue × InputMonitor :=
  let shared := { shared with levels := shared.levels.set switch level }
  if level = inputs.reported.get switch || shared.masked.contains (source switch) then
    (shared, queue, inputs)
  else
    match queue.push? (.switchEdge inputs.id switch level (UInt32.ofNat (now / 1000))) with
    | none => (shared, queue, inputs)
    | some queue => (shared, queue, { inputs with reported := inputs.reported.set switch level })

/-- Queue what has happened since the last sample, at a time in microseconds:
encoder edges first, then ramp ticks, then switch edges. -/
def sample (pins : InputPins) (now : Nat) (shared : SharedSignals) (queue : EventQueue)
    (inputs : InputMonitor) : SharedSignals × EventQueue × InputMonitor :=
  let (queue, inputs) := inputs.sampleEncoder pins.count shared queue
  let (queue, inputs) := inputs.sampleRamp now shared queue
  let (shared, queue, inputs) := inputs.sampleSwitch .home pins.closed.home now shared queue
  inputs.sampleSwitch .far pins.closed.far now shared queue

end InputMonitor

end XYStage
