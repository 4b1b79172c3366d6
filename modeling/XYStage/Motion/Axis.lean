/-
# XYStage.Motion.Axis -- the closed loop of one axis

An axis runs one motion at a time. Encoder edges move the position toward the
target of the active segment; ramp ticks raise the velocity in the first segment
and lower it in the last. A limit switch that closes on the side of travel stops
the motion.

A switch edge that is taken for bounce is ignored, but remembered:
`Axis.recoverEdges` later compares the flag with the level of the switch and makes
up for an edge that was lost.
-/
import XYStage.Motion.Hardware
import XYStage.Motion.State
import XYStage.Wire.Message

namespace XYStage

set_option autoImplicit false

/-- Period of ramp ticks at `acceleration` counts per second squared, in
microseconds; at least one. -/
def rampPeriod (acceleration : UInt32) : UInt32 :=
  max (1000000 / max acceleration 1) 1

/-- Why a motion is refused. -/
inductive Refusal where
  | alreadyMoving
  | zeroDistance
  | directionMismatch
  | invalidProfile (error : PlanError)
  /-- The switch on the side of travel is pressed. -/
  | limitBlocked
  deriving DecidableEq

namespace Refusal

def message : Refusal → String
  | .alreadyMoving => "axis already moving"
  | .zeroDistance => "zero distance"
  | .directionMismatch => "distance sign disagrees with direction"
  | .invalidProfile error => "invalid profile: " ++ error.message
  | .limitBlocked => "limit switch blocks direction of travel"

def code : Refusal → ResultCode
  | .alreadyMoving => .alreadyMoving
  | .zeroDistance => .zeroDistance
  | .directionMismatch => .directionMismatch
  | .invalidProfile _ => .invalidProfile
  | .limitBlocked => .limitBlocked

end Refusal

/-- What a limit switch edge did. -/
inductive EdgeEffect where
  /-- Within the debounce window: ignored. -/
  | ignored
  /-- The flag was updated. -/
  | recorded
  /-- The flag was updated and the motion stopped. -/
  | stopped
  deriving DecidableEq

/-- The hardware of an axis and the state it is in. -/
structure Axis (α : Type) where
  id : AxisId
  hardware : α
  state : AxisState

namespace Axis

variable {α : Type}

/-- Whether either limit flag is set. -/
def anyLimit (a : Axis α) : Bool :=
  a.state.pressed.home || a.state.pressed.far

def report (a : Axis α) : AxisReport where
  axis := a.id
  moving := a.state.moving
  atHome := a.state.pressed.home
  atFar := a.state.pressed.far
  direction := a.state.direction
  segment := a.state.segment
  velocity := a.state.velocity
  position := a.state.position
  target := a.state.target

variable [AxisHardware α]

/-- The levels of both switches, read with their interrupts masked, and the
hardware afterwards. -/
def readSwitches (hardware : α) : Switches Bool × α :=
  let hw := InterruptControl.mask .switches hardware
  (⟨AxisHardware.homeLevel hw.control, AxisHardware.farLevel hw.control⟩, hw.release)

/-- Take both flags from the hardware. -/
def readFlags (a : Axis α) : Axis α :=
  let (levels, hardware) := readSwitches a.hardware
  { a with hardware, state := { a.state with pressed := levels } }

/-- An axis at rest at zero, with its flags taken from the hardware. -/
def new (id : AxisId) (hardware : α) : Axis α :=
  readFlags ⟨id, hardware, .initial⟩

/-- The profile of a motion that may start, or why it may not. -/
def permit (a : Axis α) (motion : Motion) : Except Refusal Trapezoid :=
  if a.state.moving then .error .alreadyMoving
  else if motion.distance = 0 then .error .zeroDistance
  else if !motion.directionAgrees then .error .directionMismatch
  else
    match motion.profile with
    | .error e => .error (.invalidProfile e)
    | .ok profile =>
        if a.state.pressed.get (.facing motion.direction) then .error .limitBlocked
        else .ok profile

/-- Start a motion. A refused one changes nothing. -/
def start (motion : Motion) (a : Axis α) : Except Refusal Unit × Axis α :=
  match a.permit motion with
  | .error e => (.error e, a)
  | .ok profile =>
      let hw := InterruptControl.mask .motion a.hardware
      let state := a.state.begin motion profile
      let control := AxisHardware.perform (.steer motion.direction) hw.control
      let control := AxisHardware.perform (.startSteps state.velocity) control
      let control :=
        if 0 < motion.acceleration then
          AxisHardware.perform (.startRamp (rampPeriod motion.acceleration)) control
        else control
      (.ok (), { a with hardware := { hw with control }.release, state })

/-- Let the release of the home switch stop the running motion, if there is
one. -/
def endOnRelease (a : Axis α) : Axis α :=
  let hw := InterruptControl.mask (InterruptSet.empty.insert .homeSwitch) a.hardware
  let state := if a.state.moving then { a.state with endsOnRelease := true } else a.state
  { a with hardware := hw.release, state }

/-- Halt the motion, if there is one. -/
def stop (a : Axis α) : Axis α :=
  let hw := InterruptControl.mask .timers a.hardware
  let control := AxisHardware.perform .stopSteps hw.control
  let control := AxisHardware.perform .stopRamp control
  { a with
    hardware := { hw with control }.release
    state := { a.state with moving := false, velocity := 0, endsOnRelease := false } }

/-- Stop and take the present position as zero. -/
def reset (a : Axis α) : Axis α :=
  let a := a.stop
  { a with state := { a.state with
    position := 0, target := 0, segment := .accelerate, direction := .positive } }

/-- One encoder edge: a count in the commanded direction, even at rest. The flag
tells whether it completed the motion. -/
def encoderEdge (a : Axis α) : Bool × Axis α :=
  let state := { a.state with position := a.state.position + a.state.direction.sign }
  if !state.moving || !state.segmentDone then (false, { a with state })
  else
    let (more, state) := state.leave
    if more then (false, { a with state })
    else (true, { a with state }.stop)

/-- One ramp tick. -/
def rampTick (a : Axis α) : Axis α :=
  match a.state.nextVelocity? with
  | none => a
  | some velocity =>
      { a with
        hardware := AxisHardware.perform (.changeRate velocity) a.hardware
        state := { a.state with velocity } }

/-- A limit switch edge at a time in milliseconds. -/
def switchEdge (switch : LimitSwitch) (pressed : Bool) (now : UInt32) (a : Axis α) :
    EdgeEffect × Axis α :=
  let missed := a.state.missedEdge
  if a.state.debouncing switch now then
    (.ignored, { a with state := { a.state with missedEdge := missed.set switch true } })
  else
    let a := { a with state := { a.state with
      lastEdge := a.state.lastEdge.set switch (some now)
      missedEdge := missed.set switch false
      pressed := a.state.pressed.set switch pressed } }
    let closedAhead := pressed && decide (switch = .facing a.state.direction)
    let releasedHome := !pressed && decide (switch = .home) && a.state.endsOnRelease
    if a.state.moving && (closedAhead || releasedHome) then (.stopped, a.stop)
    else (.recorded, a)

/-- Make up for a lost edge of one switch, whose level is given, once its
debounce window is over. The flag tells whether that stopped the motion. -/
def recoverEdge (switch : LimitSwitch) (level : Bool) (now : UInt32) (a : Axis α) :
    Bool × Axis α :=
  if !a.state.missedEdge.get switch || a.state.debouncing switch now then (false, a)
  else
    let a := { a with state := { a.state with missedEdge := a.state.missedEdge.set switch false } }
    if level = a.state.pressed.get switch then (false, a)
    else
      let (edge, a) := a.switchEdge switch level now
      (decide (edge = .stopped), a)

/-- Make up for lost edges of both switches. The switch that stopped the motion
is returned, if one did. -/
def recoverEdges (now : UInt32) (a : Axis α) : Option LimitSwitch × Axis α :=
  let (levels, hardware) := readSwitches a.hardware
  let (byHome, a) := { a with hardware }.recoverEdge .home levels.home now
  let (byFar, a) := a.recoverEdge .far levels.far now
  (if byFar then some .far else if byHome then some .home else none, a)

end Axis

end XYStage
