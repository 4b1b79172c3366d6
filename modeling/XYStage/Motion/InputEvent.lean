/-
# XYStage.Motion.InputEvent -- what the input side reports

Inputs are sampled apart from the control loop. What they find is queued as
`InputEvent`s, in order, and applied by the control loop later. The queue is
bounded: an event that does not fit is not queued, and whoever found it tries
again.
-/
import XYStage.Motion.State

namespace XYStage

set_option autoImplicit false

/-- One hardware event of one axis. -/
inductive InputEvent where
  /-- An encoder edge. -/
  | encoder (axis : AxisId)
  /-- An expiry of the ramp timer. -/
  | rampTick (axis : AxisId)
  /-- A level change of a limit switch, at a time in milliseconds. -/
  | switchEdge (axis : AxisId) (switch : LimitSwitch) (pressed : Bool) (time : UInt32)
  deriving DecidableEq

/-- The axis an event belongs to. -/
def InputEvent.axis : InputEvent → AxisId
  | .encoder axis => axis
  | .rampTick axis => axis
  | .switchEdge axis _ _ _ => axis

/-- A bounded queue of events, the oldest first. -/
structure EventQueue where
  capacity : Nat
  events : List InputEvent

namespace EventQueue

/-- An empty queue over a ring of `slots` places, one of which stays free. -/
def ofSlots (slots : Nat) : EventQueue := ⟨slots - 1, []⟩

/-- The number of events that still fit. -/
def room (q : EventQueue) : Nat :=
  q.capacity - q.events.length

/-- Add an event, if there is room. -/
def push? (event : InputEvent) (q : EventQueue) : Option EventQueue :=
  if q.events.length < q.capacity then some { q with events := q.events ++ [event] } else none

/-- Add as many of `count` equal events as fit, giving how many did. -/
def pushMany (count : Nat) (event : InputEvent) (q : EventQueue) : Nat × EventQueue :=
  let fitting := min count q.room
  (fitting, { q with events := q.events ++ List.replicate fitting event })

/-- Remove every event. -/
def clear (q : EventQueue) : EventQueue :=
  { q with events := [] }

end EventQueue

end XYStage
